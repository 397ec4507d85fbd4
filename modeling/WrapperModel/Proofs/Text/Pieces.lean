import WrapperModel.Text.Blank
import WrapperModel.Text.Pieces

/-!
# `WrapperModel.Proofs.Text.Pieces`: what pieces and words are made of

`List.splitOnP` cuts at the characters that satisfy a test, so no piece holds such a character.
The words of a text are the pieces between white space that hold something:

* `not_sep_of_mem_splitOnP`, `mem_of_mem_splitOnP`: a piece holds characters of the text, and no
  separator.
* `length_splitOnP`: there is one piece more than there are separators.
* `ne_nil_of_mem_runsWithout`, `not_sep_of_mem_runsWithout`: the same of runs, which are
  never empty.
* `toList_ne_nil_of_mem_words`, `not_isBlank_of_mem_words`: the same of words.
* `joinWith_split`, `splitOn_joinWith`, `split_joinWith`: the same of texts that are cut at a mark
  and joined by it.
* `mem_joinWith`: a joined text holds characters of its parts and of the separator alone.
* `words_joinWith`: words that are joined by spaces can be told apart again.
* `runsWithout_ne_nil`: a text that holds more than separators has a run.
* `flatMap_runsWithout_runsWithout`: cutting at one kind of separators and then at another is
  cutting at both.
* `runsWithout_map`: a text may be cut before or after its characters are changed.
* `strip_enclosed`: what is stripped off anyway may stand around a text.
* `strip_eq_iff`: what is left of a text is what stands in it between characters that are
  stripped off, and has none of them at its ends.
* `mem_strip`, `strip_eq_self`: characters that are not stripped off are kept.
* `startsWith_iff_head?`, `endsWith_iff_getLast?`: what begins and ends with one character.
-/

set_option autoImplicit false

namespace WrapperModel.Text

/-! ### Cutting -/

section

variable {α : Type} {p : α → Bool} {xs piece : List α}

/-- A piece that `List.splitOnP` leaves holds no character at which it cuts. -/
theorem not_sep_of_mem_splitOnP (h : piece ∈ xs.splitOnP p) : ∀ x ∈ piece, p x = false := by
  induction xs generalizing piece with
  | nil =>
    rw [List.splitOnP_nil, List.mem_singleton] at h
    simp [h]
  | cons x rest ih =>
    obtain ⟨first, more, hrest⟩ := List.exists_cons_of_ne_nil (List.splitOnP_ne_nil p rest)
    rw [List.splitOnP_cons_eq_if_modifyHead] at h
    split at h
    · rcases List.mem_cons.1 h with rfl | hrest
      · simp
      · exact ih hrest
    · rename_i hx
      -- A character that is kept only lengthens the first of the pieces behind it.
      rw [hrest, List.modifyHead_cons] at h
      rcases List.mem_cons.1 h with rfl | hmore
      · intro y hy
        rcases List.mem_cons.1 hy with rfl | hy
        · simpa using hx
        · exact ih (hrest ▸ List.mem_cons_self) y hy
      · exact ih (hrest ▸ List.mem_cons_of_mem first hmore)

/-- A piece that `List.splitOnP` leaves holds characters of the text alone. -/
theorem mem_of_mem_splitOnP (h : piece ∈ xs.splitOnP p) : ∀ x ∈ piece, x ∈ xs := by
  induction xs generalizing piece with
  | nil =>
    rw [List.splitOnP_nil, List.mem_singleton] at h
    simp [h]
  | cons x rest ih =>
    have hrest : ∀ piece ∈ rest.splitOnP p, ∀ y ∈ piece, y ∈ x :: rest :=
      fun piece hpiece y hy => List.mem_cons_of_mem x (ih hpiece y hy)
    obtain ⟨first, more, hcut⟩ := List.exists_cons_of_ne_nil (List.splitOnP_ne_nil p rest)
    rw [List.splitOnP_cons_eq_if_modifyHead] at h
    split at h
    · rcases List.mem_cons.1 h with rfl | h
      · simp
      · exact hrest piece h
    · -- The character is put in front of the first piece of the rest.
      rw [hcut, List.modifyHead_cons] at h
      rcases List.mem_cons.1 h with rfl | h
      · refine List.forall_mem_cons.2 ⟨List.mem_cons_self, ?_⟩
        exact hrest first (hcut ▸ List.mem_cons_self)
      · exact hrest piece (hcut ▸ List.mem_cons_of_mem first h)

/-- `List.splitOnP` leaves one piece more than there are separators, empty pieces included. -/
theorem length_splitOnP (p : α → Bool) (xs : List α) :
    (xs.splitOnP p).length = xs.countP p + 1 := by
  induction xs with
  | nil => rfl
  | cons x rest ih =>
    rw [List.splitOnP_cons_eq_if_modifyHead]
    by_cases hx : p x = true
    · rw [if_pos hx, List.countP_cons_of_pos hx, List.length_cons, ih]
    · rw [if_neg hx, List.countP_cons_of_neg hx, List.length_modifyHead, ih]

/-- A character at which `List.splitOnP` does not cut stands in one of its pieces. -/
theorem exists_mem_splitOnP {x : α} (hx : x ∈ xs) (hkept : p x = false) :
    ∃ piece ∈ xs.splitOnP p, x ∈ piece := by
  induction xs with
  | nil => cases hx
  | cons y rest ih =>
    obtain ⟨first, more, hrest⟩ := List.exists_cons_of_ne_nil (List.splitOnP_ne_nil p rest)
    rw [List.splitOnP_cons_eq_if_modifyHead]
    rcases List.mem_cons.1 hx with rfl | hx
    · -- A character that is kept begins the first of the pieces.
      rw [if_neg (by simp [hkept]), hrest]
      exact ⟨x :: first, List.mem_cons_self, List.mem_cons_self⟩
    · obtain ⟨piece, hpiece, hmem⟩ := ih hx
      split
      · exact ⟨piece, List.mem_cons_of_mem _ hpiece, hmem⟩
      · rw [hrest, List.modifyHead_cons]
        rcases List.mem_cons.1 (hrest ▸ hpiece) with rfl | hpiece
        · exact ⟨y :: piece, List.mem_cons_self, List.mem_cons_of_mem y hmem⟩
        · exact ⟨piece, List.mem_cons_of_mem _ hpiece, hmem⟩

end

/-! ### Runs -/

/-- A run holds something, since `runsWithout` filters the empty pieces out. -/
theorem ne_nil_of_mem_runsWithout {p : Char → Bool} {cs run : List Char}
    (h : run ∈ runsWithout p cs) : run ≠ [] := by
  have := (List.mem_filter.1 h).2
  simpa using this

/-- A run holds no character at which the text is cut, being one of the pieces of
`List.splitOnP`. -/
theorem not_sep_of_mem_runsWithout {p : Char → Bool} {cs run : List Char}
    (h : run ∈ runsWithout p cs) : ∀ c ∈ run, p c = false :=
  not_sep_of_mem_splitOnP (List.mem_filter.1 h).1

/-- A run holds characters of the text alone, as the pieces do from which `runsWithout` takes it. -/
theorem mem_of_mem_runsWithout {p : Char → Bool} {cs run : List Char}
    (h : run ∈ runsWithout p cs) : ∀ c ∈ run, c ∈ cs :=
  mem_of_mem_splitOnP (List.mem_filter.1 h).1

/-- A text that holds more than separators has a run: the piece in which the kept character stands
is not empty, so `runsWithout` does not filter it out. -/
theorem runsWithout_ne_nil {p : Char → Bool} {cs : List Char} {c : Char} (hc : c ∈ cs)
    (hkept : p c = false) : runsWithout p cs ≠ [] := by
  obtain ⟨piece, hpiece, hmem⟩ := exists_mem_splitOnP hc hkept
  exact List.ne_nil_of_mem (List.mem_filter.2 ⟨hpiece, by
    simpa using List.ne_nil_of_mem hmem⟩)

/-- A run that ends at a separator is the first one. It has to hold something, or `runsWithout`
would not keep it, and no separator, or it would be cut. -/
theorem runsWithout_append_cons {p : Char → Bool} {run : List Char} (hrun : run ≠ [])
    (hkept : ∀ c ∈ run, p c = false) {sep : Char} (hsep : p sep = true) (behind : List Char) :
    runsWithout p (run ++ sep :: behind) = run :: runsWithout p behind := by
  rw [runsWithout, List.splitOnP_append_cons _ _ hsep, List.splitOnP_eq_singleton hkept,
    List.singleton_append, List.filter_cons_of_pos (by simpa using hrun), runsWithout]

/-- A run without anything behind it is the only one; the hypotheses are those of
`runsWithout_append_cons`. -/
theorem runsWithout_eq_singleton {p : Char → Bool} {run : List Char} (hrun : run ≠ [])
    (hkept : ∀ c ∈ run, p c = false) : runsWithout p run = [run] := by
  rw [runsWithout, List.splitOnP_eq_singleton hkept, List.filter_cons_of_pos (by simpa using hrun),
    List.filter_nil]

/-- Pieces that hold nothing do not count where `f` makes nothing of them, so runs and pieces give
the same. -/
theorem flatMap_filter_isEmpty {α : Type} {f : List Char → List α} (hf : f [] = [])
    (texts : List (List Char)) :
    (texts.filter fun text => !text.isEmpty).flatMap f = texts.flatMap f := by
  induction texts with
  | nil => rfl
  | cons text rest ih =>
    cases text with
    | nil => rw [List.filter_cons_of_neg (by simp), ih, List.flatMap_cons, hf, List.nil_append]
    | cons c more =>
      rw [List.filter_cons_of_pos (by simp), List.flatMap_cons, List.flatMap_cons, ih]

/-- What is made of the runs of a text is made of its pieces. So `runsWithout` may be replaced by
the library's `List.splitOnP` whenever `f` makes nothing of the empty piece. -/
theorem flatMap_runsWithout {α : Type} {f : List Char → List α} (hf : f [] = [])
    (p : Char → Bool) (cs : List Char) : (runsWithout p cs).flatMap f = (cs.splitOnP p).flatMap f :=
  flatMap_filter_isEmpty hf (cs.splitOnP p)

/-- The same for runs between the places of one character, which `List.splitOn` cuts. -/
theorem flatMap_runsWithout_char {α : Type} {f : List Char → List α} (hf : f [] = [])
    (separator : Char) (cs : List Char) :
    (runsWithout (· = separator) cs).flatMap f = (cs.splitOn separator).flatMap f :=
  flatMap_runsWithout hf (· = separator) cs

/-! ### Cutting twice -/

/-- Cut at one kind of characters and then at another, a text falls into the pieces between
characters of either kind. -/
theorem flatMap_splitOnP (p q : Char → Bool) (cs : List Char) :
    (cs.splitOnP p).flatMap (List.splitOnP q) = cs.splitOnP fun c => p c || q c := by
  induction cs with
  | nil => rfl
  | cons c rest ih =>
    obtain ⟨first, more, hrest⟩ := List.exists_cons_of_ne_nil (List.splitOnP_ne_nil p rest)
    obtain ⟨start, others, hfirst⟩ := List.exists_cons_of_ne_nil (List.splitOnP_ne_nil q first)
    have hboth : (rest.splitOnP fun c => p c || q c) =
        start :: (others ++ more.flatMap (List.splitOnP q)) := by
      rw [← ih, hrest, List.flatMap_cons, hfirst, List.cons_append]
    cases hp : p c with
    | true => simp [List.splitOnP_cons_eq_if_modifyHead, hp, ih]
    | false =>
      -- The character goes to the front of the first piece, and the second cut may end one there.
      cases hq : q c <;>
        simp [List.splitOnP_cons_eq_if_modifyHead, hp, hq, hrest, hboth, hfirst]

/-- Runs of runs are the runs between characters of either kind. This is what makes two passes of
`pascalCase` comparable with one. -/
theorem flatMap_runsWithout_runsWithout (p q : Char → Bool) (cs : List Char) :
    (runsWithout p cs).flatMap (runsWithout q) = runsWithout (fun c => p c || q c) cs := by
  rw [flatMap_runsWithout rfl, runsWithout, ← flatMap_splitOnP, List.filter_flatMap]
  rfl

/-- A text whose characters are changed one by one by `f` is cut where the text was. Here the test
is asked of the changed characters. -/
theorem splitOnP_map (p : Char → Bool) (f : Char → Char) (cs : List Char) :
    (cs.map f).splitOnP p = (cs.splitOnP fun c => p (f c)).map (List.map f) := by
  induction cs with
  | nil => rfl
  | cons c rest ih =>
    obtain ⟨first, more, hrest⟩ :=
      List.exists_cons_of_ne_nil (List.splitOnP_ne_nil (fun c => p (f c)) rest)
    rw [hrest] at ih
    cases hp : p (f c) <;> simp [List.splitOnP_cons_eq_if_modifyHead, hp, hrest, ih]

/-- The runs of a text whose characters are changed one by one by `f`: cut the text where the
changed characters would be separators, then change the runs. -/
theorem runsWithout_map (p : Char → Bool) (f : Char → Char) (cs : List Char) :
    runsWithout p (cs.map f) = (runsWithout (fun c => p (f c)) cs).map (List.map f) := by
  have hempty : (fun piece : List Char => !piece.isEmpty) ∘ List.map f =
      fun piece => !piece.isEmpty := by
    funext piece
    cases piece <;> rfl
  rw [runsWithout, splitOnP_map, List.filter_map, hempty, runsWithout]

/-! ### Words -/

/-- A word of a text holds something (`ne_nil_of_mem_runsWithout`). -/
theorem toList_ne_nil_of_mem_words {s word : String} (h : word ∈ words s) :
    word.toList ≠ [] := by
  obtain ⟨run, hrun, rfl⟩ := List.mem_map.1 h
  simpa using ne_nil_of_mem_runsWithout hrun

/-- A word of a text holds no white space (`not_sep_of_mem_runsWithout`). -/
theorem not_isBlank_of_mem_words {s word : String} (h : word ∈ words s) :
    ∀ c ∈ word.toList, isBlank c = false := by
  obtain ⟨run, hrun, rfl⟩ := List.mem_map.1 h
  simpa using not_sep_of_mem_runsWithout hrun

/-- A word holds characters of the text alone (`mem_of_mem_runsWithout`). -/
theorem mem_of_mem_words {s word : String} (h : word ∈ words s) :
    ∀ c ∈ word.toList, c ∈ s.toList := by
  obtain ⟨run, hrun, rfl⟩ := List.mem_map.1 h
  simpa using mem_of_mem_runsWithout hrun

/-! ### Joining -/

/-- The characters of a joined text are those of its parts, with the separator between neighbours.
The first part has none in front. -/
theorem toList_joinWith_cons (separator text : String) (texts : List String) :
    (joinWith separator (text :: texts)).toList =
      text.toList ++ texts.flatMap fun t => separator.toList ++ t.toList := by
  -- on the texts behind the first, which is general, since the step makes the next one first
  induction texts generalizing text with
  | nil => simp [joinWith]
  | cons next rest ih =>
    have hstep : joinWith separator (text :: next :: rest) =
        text ++ separator ++ joinWith separator (next :: rest) :=
      String.intercalate_cons_cons
    rw [hstep, String.toList_append, String.toList_append, ih, List.flatMap_cons]
    simp only [List.append_assoc]

/-- The characters of a joined text, with those of the separator between its parts. It hands
`joinWith` over to `List.intercalate`, of which the library has lemmas. -/
theorem toList_joinWith (separator : String) (texts : List String) :
    (joinWith separator texts).toList = separator.toList.intercalate (texts.map String.toList) :=
  String.toList_intercalate

/-- Joined by the mark at which it was cut, a text is whole again. The mark has to be the one
character at which `split` cuts. -/
theorem joinWith_split {mark : String} {c : Char} (hmark : mark.toList = [c]) (s : String) :
    joinWith mark (split c s) = s := by
  have hback : String.toList ∘ String.ofList = id := funext fun _ => String.toList_ofList
  rw [← String.toList_inj, toList_joinWith, hmark, split, List.map_map, hback, List.map_id,
    List.intercalate_splitOn]

/-- A text that is joined by a mark which none of its parts holds is cut into their characters.
Of no parts the empty text is joined, which is cut into one piece, so there have to be some. -/
theorem splitOn_joinWith {mark : String} {c : Char} (hmark : mark.toList = [c])
    {texts : List String} (hne : texts ≠ []) (h : ∀ text ∈ texts, c ∉ text.toList) :
    (joinWith mark texts).toList.splitOn c = texts.map String.toList := by
  rw [toList_joinWith, hmark]
  exact List.splitOn_intercalate c (by simpa using h) (by simpa using hne)

/-- Texts that are joined by a mark which none of them holds can be told apart again. There have to
be some, as in `splitOn_joinWith`. -/
theorem split_joinWith {mark : String} {c : Char} (hmark : mark.toList = [c])
    {texts : List String} (hne : texts ≠ []) (h : ∀ text ∈ texts, c ∉ text.toList) :
    split c (joinWith mark texts) = texts := by
  have hback : String.ofList ∘ String.toList = id := funext fun _ => String.ofList_toList
  rw [split, splitOn_joinWith hmark hne h, List.map_map, hback, List.map_id]

/-- What `split` cuts off at a mark does not hold it. -/
theorem not_mem_of_mem_split {c : Char} {s part : String} (h : part ∈ split c s) :
    c ∉ part.toList := by
  obtain ⟨piece, hpiece, rfl⟩ := List.mem_map.1 h
  rw [String.toList_ofList]
  intro hc
  have hsep : (c == c) = false := not_sep_of_mem_splitOnP hpiece c hc
  exact absurd (beq_self_eq_true c) (by rw [hsep]; exact Bool.false_ne_true)

/-- Joined behind other texts, a text comes with a separator in front. Of no texts before it nothing
would stand in front, so `texts` is not empty. -/
theorem toList_joinWith_append {separator : String} {texts : List String} (h : texts ≠ [])
    (more : List String) :
    (joinWith separator (texts ++ more)).toList =
      (joinWith separator texts).toList ++ more.flatMap fun t => separator.toList ++ t.toList := by
  obtain ⟨text, rest, rfl⟩ := List.exists_cons_of_ne_nil h
  rw [List.cons_append, toList_joinWith_cons, toList_joinWith_cons, List.flatMap_append,
    List.append_assoc]

/-- A text of `joinWith` holds characters of its parts and of the separator alone. -/
theorem mem_joinWith {separator : String} {texts : List String} {c : Char}
    (h : c ∈ (joinWith separator texts).toList) :
    c ∈ separator.toList ∨ ∃ text ∈ texts, c ∈ text.toList := by
  cases texts with
  | nil => simp [joinWith] at h
  | cons text rest =>
    rw [toList_joinWith_cons, List.mem_append, List.mem_flatMap] at h
    rcases h with htext | ⟨t, ht, hc⟩
    · exact .inr ⟨text, List.mem_cons_self, htext⟩
    · rcases List.mem_append.1 hc with hsep | hc
      · exact .inl hsep
      · exact .inr ⟨t, List.mem_cons_of_mem text ht, hc⟩

/-- The words of words that are joined by spaces are these words. Each has to hold something and no
white space, as the `words` of a text do; so `words` is undone by joining and done again. -/
theorem words_joinWith {texts : List String}
    (h : ∀ text ∈ texts, text.toList ≠ [] ∧ ∀ c ∈ text.toList, isBlank c = false) :
    words (joinWith " " texts) = texts := by
  cases texts with
  | nil => rfl
  | cons text rest =>
    obtain ⟨⟨hne, hkept⟩, hrest⟩ := List.forall_mem_cons.1 h
    rw [words, toList_joinWith_cons]
    -- The first word is cut off at the first space, and what is left begins with the next one.
    induction rest generalizing text with
    | nil =>
      rw [List.flatMap_nil, List.append_nil, runsWithout_eq_singleton hne hkept, List.map_singleton,
        String.ofList_toList]
    | cons next rest ih =>
      obtain ⟨⟨hnext, hnextKept⟩, hmore⟩ := List.forall_mem_cons.1 hrest
      have hspace : " ".toList = [' '] := rfl
      rw [List.flatMap_cons, hspace, List.singleton_append, List.cons_append,
        runsWithout_append_cons hne hkept (by decide), List.map_cons, String.ofList_toList]
      exact congrArg _ (ih next hrest hmore hnext hnextKept)

/-! ### Stripping -/

/-- Around a text, characters that `strip` takes off make no difference. -/
theorem strip_enclosed {p : Char → Bool} {before behind : List Char}
    (hbefore : ∀ c ∈ before, p c = true) (hbehind : ∀ c ∈ behind, p c = true)
    (cs : List Char) : strip p (before ++ (cs ++ behind)) = strip p cs := by
  have hgone : behind.dropWhile p = [] := by
    rw [← List.append_nil behind, List.dropWhile_append_of_pos hbehind, List.dropWhile_nil]
  have hreverse : ∀ c ∈ behind.reverse, p c = true := by
    intro c hc
    exact hbehind c (List.mem_reverse.1 hc)
  unfold strip
  rw [List.dropWhile_append_of_pos hbefore, List.dropWhile_append]
  split
  · -- Nothing of the text is kept, so nothing stops the stripping behind it.
    rename_i hempty
    rw [hgone, List.isEmpty_iff.1 hempty]
  · rw [List.reverse_append, List.dropWhile_append_of_pos hreverse]

/-- Stripping adds nothing to a text: what `strip` leaves stood in it. -/
theorem mem_of_mem_strip {p : Char → Bool} {cs : List Char} {c : Char} (h : c ∈ strip p cs) :
    c ∈ cs := by
  have hback := (List.dropWhile_suffix p).subset (List.mem_reverse.1 h)
  exact (List.dropWhile_suffix p).subset (List.mem_reverse.1 hback)

/-- A character that `strip` is not to strip off is kept wherever it stands, also at an end. -/
theorem mem_strip {p : Char → Bool} {cs : List Char} {c : Char} (hc : c ∈ cs)
    (hkept : p c = false) : c ∈ strip p cs := by
  have hdrop : ∀ cs : List Char, c ∈ cs → c ∈ cs.dropWhile p := by
    intro cs hc
    rw [← List.takeWhile_append_dropWhile (p := p) (l := cs), List.mem_append] at hc
    refine hc.resolve_left fun htaken => ?_
    exact Bool.false_ne_true (hkept.symm.trans (List.all_eq_true.1 List.all_takeWhile c htaken))
  exact List.mem_reverse.2 (hdrop _ (List.mem_reverse.2 (hdrop cs hc)))

/-- Neither the first character nor the last satisfies the test, so `strip` stops at both. The empty
text has such ends, as it has neither. -/
structure EndsKept (p : Char → Bool) (cs : List Char) : Prop where
  first : ∀ c ∈ cs.head?, p c = false
  last : ∀ c ∈ cs.getLast?, p c = false

/-- Dropping stops at the first character that is not dropped. -/
theorem not_of_mem_head?_dropWhile {p : Char → Bool} {cs : List Char} {c : Char}
    (h : c ∈ (cs.dropWhile p).head?) : p c = false := by
  have hfirst := List.head?_dropWhile_not p cs
  rwa [Option.mem_def.1 h] at hfirst

/-- Nothing is dropped where the first character is kept. -/
theorem dropWhile_eq_self {p : Char → Bool} {cs : List Char} (h : ∀ c ∈ cs.head?, p c = false) :
    cs.dropWhile p = cs := by
  cases cs with
  | nil => rfl
  | cons c rest => rw [List.dropWhile_cons, if_neg (by simp [h c rfl])]

/-- A text with such ends (`EndsKept`) is kept whole by `strip`. -/
theorem EndsKept.strip_eq {p : Char → Bool} {cs : List Char} (h : EndsKept p cs) :
    strip p cs = cs := by
  rw [strip, dropWhile_eq_self h.first, dropWhile_eq_self (by simpa using h.last),
    List.reverse_reverse]

/-- What `strip` leaves of a text has such ends (`EndsKept`), so stripping twice is stripping
once. -/
theorem endsKept_strip (p : Char → Bool) (cs : List Char) : EndsKept p (strip p cs) := by
  constructor
  · intro c hc
    -- Cutting the end leaves the beginning as it was after the first cut.
    obtain ⟨behind, hbehind⟩ : strip p cs <+: cs.dropWhile p := by
      rw [strip, ← List.reverse_suffix, List.reverse_reverse]
      exact List.dropWhile_suffix p
    have hfirst : c ∈ (cs.dropWhile p).head? := by
      rw [← hbehind, List.head?_append, Option.mem_def.1 hc]
      rfl
    exact not_of_mem_head?_dropWhile hfirst
  · intro c hc
    rw [strip, List.getLast?_reverse] at hc
    exact not_of_mem_head?_dropWhile hc

/-- What `strip` takes off stands around what is left, and all of it satisfies the test. -/
theorem exists_eq_append_strip (p : Char → Bool) (cs : List Char) :
    ∃ before behind, (∀ c ∈ before, p c = true) ∧ (∀ c ∈ behind, p c = true) ∧
      cs = before ++ (strip p cs ++ behind) := by
  refine ⟨cs.takeWhile p, ((cs.dropWhile p).reverse.takeWhile p).reverse, ?_, ?_, ?_⟩
  · exact List.all_eq_true.1 List.all_takeWhile
  · intro c hc
    exact List.all_eq_true.1 List.all_takeWhile c (List.mem_reverse.1 hc)
  · rw [strip, ← List.reverse_append, List.takeWhile_append_dropWhile, List.reverse_reverse,
      List.takeWhile_append_dropWhile]

/-- What is left of a text is the text with such ends (`EndsKept`) that stands in it between
characters that are stripped off. It says what `strip` does without saying in which order the ends
are treated. -/
theorem strip_eq_iff {p : Char → Bool} {cs kept : List Char} :
    strip p cs = kept ↔ EndsKept p kept ∧
      ∃ before behind, (∀ c ∈ before, p c = true) ∧ (∀ c ∈ behind, p c = true) ∧
        cs = before ++ (kept ++ behind) := by
  constructor
  · rintro rfl
    exact ⟨endsKept_strip p cs, exists_eq_append_strip p cs⟩
  · rintro ⟨hends, before, behind, hbefore, hbehind, rfl⟩
    rw [strip_enclosed hbefore hbehind, hends.strip_eq]

/-- Nothing is left by `strip` exactly of a text that is stripped off whole. -/
theorem strip_eq_nil_iff {p : Char → Bool} {cs : List Char} :
    strip p cs = [] ↔ ∀ c ∈ cs, p c = true := by
  rw [strip_eq_iff]
  constructor
  · rintro ⟨-, before, behind, hbefore, hbehind, rfl⟩ c hc
    exact (List.mem_append.1 hc).elim (hbefore c) (hbehind c)
  · intro h
    exact ⟨⟨by simp, by simp⟩, cs, [], h, by simp, by simp⟩

/-- A text without such characters is kept whole by `strip`, whatever is inside of it. -/
theorem strip_eq_self {p : Char → Bool} {cs : List Char} (h : ∀ c ∈ cs, p c = false) :
    strip p cs = cs :=
  EndsKept.strip_eq
    ⟨fun c hc => h c (List.mem_of_mem_head? hc), fun c hc => h c (List.mem_of_mem_getLast? hc)⟩

/-! ### Ends -/

/-- A text begins with one character, as `startsWith` says, if that is its first. -/
theorem startsWith_iff_head? {start s : String} {c : Char} (hstart : start.toList = [c]) :
    startsWith start s = true ↔ s.toList.head? = some c := by
  rw [startsWith, hstart, List.isPrefixOf_iff_prefix, List.head?_eq_some_iff]
  exact exists_congr fun _ => eq_comm

/-- A text ends with one character, as `endsWith` says, if that is its last. -/
theorem endsWith_iff_getLast? {ending s : String} {c : Char} (hending : ending.toList = [c]) :
    endsWith ending s = true ↔ s.toList.getLast? = some c := by
  rw [endsWith, hending, List.isSuffixOf_iff_suffix, List.getLast?_eq_some_iff]
  exact exists_congr fun _ => eq_comm

end WrapperModel.Text
