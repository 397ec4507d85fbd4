import WrapperModel.Naming
import WrapperModel.Proofs.Text.LetterCase
import WrapperModel.Proofs.Text.Pieces

/-!
# `WrapperModel.Proofs.Naming`: what names are made of

`camelChars` and `pascalChars` keep the first character, drop the separators behind it and
capitalise what follows them. `mem_capitalizeAfter` and `mem_pascalChars` say where a
character of the result comes from, which is all that facts about single characters of a
name need.

* `not_isBlank_of_mem_pascalChars`: where white space is nothing but the separator and does
  not come first, the result holds none.
* `not_isBlank_of_mem_taskPostfix`: the name of a task holds no white space.

What stands behind a beginning of the text does not change the name of the beginning, so longer
paths have longer names:

* `capitalizeAfter_append`, `exists_pascalChars_append`: one pass over a text in two parts.
* `exists_taskPostfix_append`: the name of a task begins with the name of the command above it,
  and goes on where the words behind it are more than hyphens.

Marks that have no case come through from the text alone:

* `mem_of_mem_pascalChars`, `mem_tail_of_mem_tail_pascalChars`: where a mark of a name stood in
  the text; behind the first character it is no separator.
* `exists_pluralChars`: a plural adds nothing but letters.
-/

set_option autoImplicit false

namespace WrapperModel.Naming

open WrapperModel.Text

/-- Behind the first character, a character of the result is one that is no separator, or belongs to
the upper-case form of one. It holds whether or not a separator was just passed. -/
theorem mem_capitalizeAfter {separator d : Char} {passed : Bool} {cs : List Char}
    (h : d ∈ capitalizeAfter separator passed cs) :
    ∃ c ∈ cs, c ≠ separator ∧ (d = c ∨ d ∈ upperChar c) := by
  -- along the text; a separator contributes nothing, and the flag decides between the last two
  -- cases
  fun_induction capitalizeAfter separator passed cs with
  | case1 => simp at h
  | case2 passed rest ih =>
    obtain ⟨c, hc, hfrom⟩ := ih h
    exact ⟨c, List.mem_cons_of_mem _ hc, hfrom⟩
  | case3 c rest hne ih =>
    rcases List.mem_append.1 h with hd | hd
    · exact ⟨c, List.mem_cons_self, hne, .inr hd⟩
    · obtain ⟨c', hc', hfrom⟩ := ih hd
      exact ⟨c', List.mem_cons_of_mem _ hc', hfrom⟩
  | case4 passed c rest hne hpassed ih =>
    rcases List.mem_cons.1 h with rfl | hd
    · exact ⟨d, List.mem_cons_self, hne, .inl rfl⟩
    · obtain ⟨c', hc', hfrom⟩ := ih hd
      exact ⟨c', List.mem_cons_of_mem _ hc', hfrom⟩

/-- A character of a name belongs to the upper-case form of the first character, or comes from a
later character that is no separator. -/
theorem mem_pascalChars {separator d first : Char} {rest : List Char}
    (h : d ∈ pascalChars separator (first :: rest)) :
    d ∈ upperChar first ∨ ∃ c ∈ rest, c ≠ separator ∧ (d = c ∨ d ∈ upperChar c) := by
  rcases List.mem_append.1 h with hd | hd
  · exact .inl hd
  · exact .inr (mem_capitalizeAfter hd)

/-- Where white space is nothing but the separator and does not come first, `pascalChars` leaves
none. The first character needs its own hypothesis because a separator that stands there is kept. -/
theorem not_isBlank_of_mem_pascalChars {separator : Char} {cs : List Char}
    (hfirst : ∀ c ∈ cs.head?, isBlank c = false)
    (hrest : ∀ c ∈ cs, c ≠ separator → isBlank c = false) :
    ∀ d ∈ pascalChars separator cs, isBlank d = false := by
  intro d hd
  cases cs with
  | nil => simp [pascalChars, camelChars, capitalizeFirst] at hd
  | cons first rest =>
    -- A character of the result is a kept one or comes of one in upper case.
    rcases mem_pascalChars hd with hd | ⟨c, hc, hne, rfl | hd⟩
    · exact not_isBlank_of_mem_upperChar (hfirst first rfl) hd
    · exact hrest d (List.mem_cons_of_mem _ hc) hne
    · exact not_isBlank_of_mem_upperChar (hrest c (List.mem_cons_of_mem _ hc) hne) hd

/-- The words of a command path without the program are words of the path, so what holds of `words`
holds of them. -/
theorem mem_words_of_mem_commandWords {program command word : String}
    (h : word ∈ commandWords program command) : word ∈ words command := by
  unfold commandWords at h
  -- The program in front is left out where it stands, and nothing else is.
  split at h
  · rename_i first rest hwords
    rw [hwords]
    split at h
    · exact List.mem_cons_of_mem _ h
    · exact h
  · simp at h

/-- The name of a task depends on the `words` of its command alone, and not on the white space
between them. -/
theorem taskPostfix_congr {command other : String} (program : String)
    (h : words command = words other) :
    taskPostfix program command = taskPostfix program other := by
  simp only [taskPostfix, commandWords, h]

/-- The name of a task holds no white space, whatever the command. The first pass takes out the
spaces, which are all the white space that the joined words have. -/
theorem not_isBlank_of_mem_taskPostfix (program command : String) :
    ∀ c ∈ (taskPostfix program command).toList, isBlank c = false := by
  have hword : ∀ word ∈ commandWords program command, word ∈ words command :=
    fun word => mem_words_of_mem_commandWords
  generalize hpath : commandWords program command = path at hword
  have hjoined : ∀ d ∈ pascalChars ' ' (joinWith " " path).toList, isBlank d = false := by
    apply not_isBlank_of_mem_pascalChars
    · cases path with
      | nil => simp [joinWith]
      | cons word rest =>
        -- A joined text begins with its first word, which is not empty.
        have hne := toList_ne_nil_of_mem_words (hword word List.mem_cons_self)
        obtain ⟨first, more, hfirst⟩ := List.exists_cons_of_ne_nil hne
        rw [toList_joinWith_cons, hfirst]
        intro c hc
        obtain rfl : first = c := by simpa using hc
        exact not_isBlank_of_mem_words (hword word List.mem_cons_self) first
          (hfirst ▸ List.mem_cons_self)
    · intro c hc hne
      rcases mem_joinWith hc with hsep | ⟨word, hmem, hc⟩
      · exact absurd (List.mem_singleton.1 hsep) hne
      · exact not_isBlank_of_mem_words (hword word hmem) c hc
  intro c hc
  rw [taskPostfix, hpath, pascalCase, pascalCase, String.toList_ofList, String.toList_ofList] at hc
  exact not_isBlank_of_mem_pascalChars (fun d hd => hjoined d (List.mem_of_head? hd))
    (fun d hd _ => hjoined d hd) c hc

/-- A task whose name is not empty has a name that is not blank. So the tasks that `Assembly.build`
makes are never found to be without a name. -/
theorem isBlankText_taskPostfix {program command : String}
    (h : taskPostfix program command ≠ "") : isBlankText (taskPostfix program command) = false := by
  rw [isBlankText, List.all_eq_false]
  obtain ⟨c, hc⟩ := List.exists_mem_of_ne_nil _ (mt String.toList_eq_nil_iff.1 h)
  exact ⟨c, hc, by simp [not_isBlank_of_mem_taskPostfix program command c hc]⟩

/-! ### Longer paths -/

/-- The flag of `capitalizeAfter` behind some characters: the last of them decides, and without any
the flag is as it was. -/
def passedBehind (separator : Char) (passed : Bool) (cs : List Char) : Bool :=
  cs.foldl (fun _ c => decide (c = separator)) passed

/-- What `capitalizeAfter` makes of the first part of a text does not depend on the second part; the
second part is gone over with the flag that the first leaves behind. -/
theorem capitalizeAfter_append (separator : Char) (passed : Bool) (cs more : List Char) :
    capitalizeAfter separator passed (cs ++ more) =
      capitalizeAfter separator passed cs ++
        capitalizeAfter separator (passedBehind separator passed cs) more := by
  fun_induction capitalizeAfter separator passed cs with
  | case1 => rfl
  -- Behind a separator the next character is made upper, wherever the text is cut.
  | case2 passed rest ih =>
    rw [List.cons_append, capitalizeAfter, if_pos rfl, ih, passedBehind, passedBehind,
      List.foldl_cons, decide_eq_true rfl]
  | case3 c rest hne ih =>
    rw [List.cons_append, capitalizeAfter, if_neg hne, if_pos rfl, ih, passedBehind, passedBehind,
      List.foldl_cons, decide_eq_false hne, List.append_assoc]
  | case4 passed c rest hne hpassed ih =>
    rw [List.cons_append, capitalizeAfter, if_neg hne, if_neg hpassed, ih, passedBehind,
      passedBehind, List.foldl_cons, decide_eq_false hne, List.cons_append]

/-- Behind the first character, a character that is no separator is kept or capitalised, so that it
is not lost. This is `mem_capitalizeAfter` the other way round. -/
theorem exists_mem_capitalizeAfter {separator c : Char} {passed : Bool} {cs : List Char}
    (hc : c ∈ cs) (hne : c ≠ separator) :
    ∃ d ∈ capitalizeAfter separator passed cs, d = c ∨ d ∈ upperChar c := by
  obtain ⟨before, behind, rfl⟩ := List.append_of_mem hc
  rw [capitalizeAfter_append, capitalizeAfter, if_neg hne]
  split
  · obtain ⟨d, hd⟩ := List.exists_mem_of_ne_nil _ (upperChar_ne_nil c)
    exact ⟨d, by simp [hd], .inr hd⟩
  · exact ⟨c, by simp, .inl rfl⟩

/-- The name of a longer text begins with the name of the shorter one, and what is added comes from
a character `c` that is no separator. The shorter text must hold something, or the first added
character would be the first of all. -/
theorem exists_pascalChars_append {separator c : Char} {cs more : List Char} (hcs : cs ≠ [])
    (hc : c ∈ more) (hne : c ≠ separator) :
    ∃ added, pascalChars separator (cs ++ more) = pascalChars separator cs ++ added ∧
      ∃ d ∈ added, d = c ∨ d ∈ upperChar c := by
  obtain ⟨first, rest, rfl⟩ := List.exists_cons_of_ne_nil hcs
  refine ⟨capitalizeAfter separator (passedBehind separator false rest) more, ?_,
    exists_mem_capitalizeAfter hc hne⟩
  simp only [pascalChars, camelChars, capitalizeFirst, List.cons_append, List.append_assoc,
    capitalizeAfter_append]

/-- A name is not empty if the text is not: `pascalChars` keeps the first character, in one form or
another. -/
theorem pascalChars_ne_nil {separator : Char} {cs : List Char} (h : cs ≠ []) :
    pascalChars separator cs ≠ [] := by
  obtain ⟨first, rest, rfl⟩ := List.exists_cons_of_ne_nil h
  simp [pascalChars, camelChars, capitalizeFirst, upperChar_ne_nil]

/-- The program is left out of a path and of the path above alike. The path above has to have a
word; without one, the program would be dropped from the words behind. -/
theorem commandWords_append {program command parent : String} {extra : List String}
    (hparent : words parent ≠ []) (hwords : words command = words parent ++ extra) :
    commandWords program command = commandWords program parent ++ extra := by
  obtain ⟨first, rest, hfirst⟩ := List.exists_cons_of_ne_nil hparent
  simp only [commandWords, hwords, hfirst, List.cons_append]
  split <;> rfl

/-- A path whose name is not empty has a word, and the text of its words is not empty. -/
theorem commandWords_of_taskPostfix_ne {program command : String}
    (h : taskPostfix program command ≠ "") :
    commandWords program command ≠ [] ∧
      (joinWith " " (commandWords program command)).toList ≠ [] := by
  have hpath : commandWords program command ≠ [] := by
    intro hnil
    exact h (by rw [taskPostfix, hnil]; rfl)
  refine ⟨hpath, ?_⟩
  obtain ⟨first, rest, hfirst⟩ := List.exists_cons_of_ne_nil hpath
  -- No word is empty, so neither is what they are joined to.
  have hmem : first ∈ words command := mem_words_of_mem_commandWords (hfirst ▸ List.mem_cons_self)
  rw [hfirst, toList_joinWith_cons]
  exact List.append_ne_nil_of_left_ne_nil (toList_ne_nil_of_mem_words hmem) _

/-- The name of a task begins with the name that the path above has, if it has one. It goes on if
the words behind that path are more than hyphens, which the second pass would take out. On this
rests that classes descend from shorter ones. -/
theorem exists_taskPostfix_append {program command parent : String} {extra : List String}
    (hwords : words command = words parent ++ extra)
    (hextra : ∃ word ∈ extra, ∃ c ∈ word.toList, c ≠ '-')
    (hparent : taskPostfix program parent ≠ "") :
    ∃ added, added ≠ "" ∧ taskPostfix program command = taskPostfix program parent ++ added := by
  obtain ⟨word, hword, c, hc, hhyphen⟩ := hextra
  obtain ⟨hpath, hjoined⟩ := commandWords_of_taskPostfix_ne hparent
  have hsome : words parent ≠ [] := fun hnil => hpath (by rw [commandWords, hnil])
  have hlonger : (joinWith " " (commandWords program command)).toList = _ :=
    commandWords_append hsome hwords ▸ toList_joinWith_append hpath extra
  have hadded : c ∈ extra.flatMap fun t => " ".toList ++ t.toList :=
    List.mem_flatMap.2 ⟨word, hword, List.mem_append_right _ hc⟩
  have hspace : c ≠ ' ' := by
    rintro rfl
    have hmem : word ∈ words command := hwords ▸ List.mem_append_right _ hword
    exact absurd (not_isBlank_of_mem_words hmem ' ' hc) (by decide)
  -- The character reaches the end of both passes, as itself or in upper case.
  obtain ⟨added, hpass, d, hd, hfrom⟩ := exists_pascalChars_append hjoined hadded hspace
  -- it is no hyphen there either, so that the second pass does not drop it
  have hkept : d ≠ '-' := by
    rintro rfl
    rcases hfrom with heq | hupper
    · exact hhyphen heq.symm
    · exact hhyphen (eq_of_mem_upperChar (by decide) (by decide +kernel) hupper).symm
  have hnamed : pascalChars ' ' (joinWith " " (commandWords program parent)).toList ≠ [] :=
    pascalChars_ne_nil hjoined
  obtain ⟨added', hpass', d', hd', -⟩ := exists_pascalChars_append hnamed hd hkept
  refine ⟨String.ofList added', ?_, ?_⟩
  · rw [ne_eq, ← String.toList_eq_nil_iff, String.toList_ofList]
    exact List.ne_nil_of_mem hd'
  · rw [← String.toList_inj]
    simp only [taskPostfix, pascalCase, hlonger, hpass, hpass', String.toList_append,
      String.toList_ofList]

/-! ### Marks in names -/

/-- A mark without case that comes out behind the first character went in, and is no separator. For
other characters `mem_capitalizeAfter` leaves open that they are an upper-case form. -/
theorem mem_of_mem_capitalizeAfter {separator mark : Char} {passed : Bool} {cs : List Char}
    (hmark : IsCaseless mark) (h : mark ∈ capitalizeAfter separator passed cs) :
    mark ∈ cs ∧ mark ≠ separator := by
  obtain ⟨c, hc, hne, rfl | hupper⟩ := mem_capitalizeAfter h
  · exact ⟨hc, hne⟩
  · obtain rfl := hmark.eq_of_mem_upper hupper
    exact ⟨hc, hne⟩

/-- A mark without case that stands in a name stands in the text. Only a letter can come from
another character. -/
theorem mem_of_mem_pascalChars {separator mark : Char} {cs : List Char} (hmark : IsCaseless mark)
    (h : mark ∈ pascalChars separator cs) : mark ∈ cs := by
  cases cs with
  | nil => exact h
  | cons first rest =>
    rcases List.mem_append.1 h with hfirst | hrest
    · exact List.mem_cons.2 (.inl (hmark.eq_of_mem_upper hfirst))
    · exact List.mem_cons_of_mem first (mem_of_mem_capitalizeAfter hmark hrest).1

/-- A mark without case that does not come first in a name does not come first in the text, and is
no separator. Where the first character becomes several, none of them is such a mark. -/
theorem mem_tail_of_mem_tail_pascalChars {separator mark : Char} {cs : List Char}
    (hmark : IsCaseless mark) (h : mark ∈ (pascalChars separator cs).tail) :
    mark ∈ cs.tail ∧ mark ≠ separator := by
  cases cs with
  | nil => simp [pascalChars, camelChars, capitalizeFirst] at h
  | cons first rest =>
    have hpass : pascalChars separator (first :: rest) =
      upperChar first ++ capitalizeAfter separator false rest := rfl
    obtain ⟨u, more, hupper⟩ := List.exists_cons_of_ne_nil (upperChar_ne_nil first)
    rw [hpass, hupper, List.cons_append, List.tail_cons, List.mem_append] at h
    refine mem_of_mem_capitalizeAfter hmark (h.resolve_left fun hmore => ?_)
    -- A mark in the upper-case form of the first character is that character, on its own.
    have hfirst : mark = first :=
      hmark.eq_of_mem_upper (hupper ▸ List.mem_cons_of_mem u hmore)
    rw [← hfirst, hmark.upper_self, List.cons.injEq] at hupper
    exact absurd (hupper.2 ▸ hmore) (by simp)

/-- A plural is a beginning of the word with letters behind, or the word. That is all that is needed
of `pluralRule` where only marks are asked for. -/
theorem exists_pluralChars (cs : List Char) :
    ∃ kept added, pluralChars cs = kept ++ added ∧ kept <+: cs ∧
      (∀ c ∈ added, c ∈ ['s', 'e', 'i']) ∧ (kept = cs ∨ added ≠ []) := by
  rw [pluralChars]
  cases pluralRule (cs.map Char.toLower) with
  | unchanged => exact ⟨cs, [], (List.append_nil cs).symm, List.prefix_rfl, by simp, .inl rfl⟩
  | addS => exact ⟨cs, ['s'], rfl, List.prefix_rfl, by simp, .inl rfl⟩
  | addEs => exact ⟨cs, ['e', 's'], rfl, List.prefix_rfl, by simp, .inl rfl⟩
  | yToIes =>
    exact ⟨cs.dropLast, ['i', 'e', 's'], rfl, List.dropLast_prefix cs, by simp, .inr (by simp)⟩

/-- The plural of a name is not empty if the name is not: where a letter goes, others come. -/
theorem pluralChars_ne_nil {cs : List Char} (h : cs ≠ []) : pluralChars cs ≠ [] := by
  obtain ⟨kept, added, hplural, -, -, rfl | hadded⟩ := exists_pluralChars cs
  · exact hplural ▸ List.append_ne_nil_of_left_ne_nil h added
  · exact hplural ▸ List.append_ne_nil_of_right_ne_nil kept hadded

/-- A mark that stands in the plural of a name stands in the name, since the plural adds nothing but
the letters that are excluded here. -/
theorem mem_of_mem_pluralChars {mark : Char} {cs : List Char} (hmark : mark ∉ ['s', 'e', 'i'])
    (h : mark ∈ pluralChars cs) : mark ∈ cs := by
  obtain ⟨kept, added, hplural, hkept, hadded, -⟩ := exists_pluralChars cs
  rw [hplural, List.mem_append] at h
  exact hkept.subset (h.resolve_right fun hmem => hmark (hadded mark hmem))

/-- A mark that does not come first in the plural of a name does not come first in the name.
`pluralChars` changes a name at its end only. -/
theorem mem_tail_of_mem_tail_pluralChars {mark : Char} {cs : List Char}
    (hmark : mark ∉ ['s', 'e', 'i']) (h : mark ∈ (pluralChars cs).tail) : mark ∈ cs.tail := by
  obtain ⟨kept, added, hplural, hkept, hadded, -⟩ := exists_pluralChars cs
  rw [hplural] at h
  cases kept with
  -- Where nothing of the word is kept, all is added, and a mark is not.
  | nil => exact absurd (hadded mark (List.mem_of_mem_tail h)) hmark
  | cons first rest =>
    obtain ⟨more, rfl⟩ := hkept
    rw [List.cons_append, List.tail_cons, List.mem_append] at h
    exact List.mem_append_left more (h.resolve_right fun hmem => hmark (hadded mark hmem))

/-! ### Names of placeholders -/

/-- The name of a placeholder is its segment in small letters after two passes of `pascalChars`,
over the hyphens and then over the underscores. -/
theorem toList_placeholderName (segment : String) :
    (placeholderName segment).toList =
      pascalChars '_' (pascalChars '-' (lowerAfter [] segment.toList)) := by
  simp only [placeholderName, pascalCase, lowercase, String.toList_ofList]

/-- A mark without case that stands in the name of a placeholder stands in its segment, as neither
of the two passes makes one. -/
theorem mem_of_mem_placeholderName {mark : Char} {segment : String} (hmark : IsCaseless mark)
    (h : mark ∈ (placeholderName segment).toList) : mark ∈ segment.toList := by
  rw [toList_placeholderName] at h
  exact hmark.mem_of_mem_lower (mem_of_mem_pascalChars hmark (mem_of_mem_pascalChars hmark h))

/-- Hyphens and underscores stand in the name of a placeholder at its beginning only: the first pass
takes out the other hyphens, the second the other underscores. With a segment that begins with one,
the name does too. -/
theorem not_mem_tail_placeholderName {mark : Char} (h : mark ∈ ['-', '_']) (segment : String) :
    mark ∉ (placeholderName segment).toList.tail := by
  rw [toList_placeholderName]
  intro hmem
  rcases List.mem_cons.1 h with rfl | h
  · obtain ⟨hfirst, -⟩ := mem_tail_of_mem_tail_pascalChars (isCaseless_of_mem (by simp)) hmem
    exact (mem_tail_of_mem_tail_pascalChars (isCaseless_of_mem (by simp)) hfirst).2 rfl
  · obtain rfl := List.mem_singleton.1 h
    exact (mem_tail_of_mem_tail_pascalChars (isCaseless_of_mem (by simp)) hmem).2 rfl

/-- The name of a placeholder is not empty if its segment is not: neither making it small nor
capitalising empties it. -/
theorem placeholderName_ne_empty {segment : String} (h : segment.toList ≠ []) :
    placeholderName segment ≠ "" := by
  rw [ne_eq, ← String.toList_eq_nil_iff, toList_placeholderName]
  exact pascalChars_ne_nil (pascalChars_ne_nil (lowerAfter_ne_nil h))

end WrapperModel.Naming
