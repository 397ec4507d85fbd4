import WrapperModel.Proofs.Naming

/-!
# `WrapperModel.Proofs.Naming.Passes`: the passes over a name, piece by piece

`capitalizeAfter` goes over a text from left to right and remembers whether a separator was just
passed. What it makes of a text can be said without the memory: the separators cut the text into
pieces, and every piece but the first gets a capital (`capitalizeAfter_of_splitOn`). The first gets
one too where a separator is taken to stand in front, or where the whole name gets a capital
(`pascalChars_eq_flatMap`).

The name of a task takes two passes, one over the spaces between words and one over the hyphens
in them. The first leaves every word with a capital in front. The second pass meets that capital
or, where a word begins with a hyphen, the hyphen, and makes of the word what it would make of it
on its own (`capitalizeAfter_capitalizeFirst`). The name of a placeholder takes two passes as well,
over the hyphens and then over the underscores, and the second meets each run between hyphens in the
same way (`pascalChars_pascalChars`).

* `camelCase_eq_runTogether`: words that are run together without a capital in front.
* `commandWords_eq`: the words of the path, without the program in front.
* `toList_taskPostfix_of_head`: the name as the second pass over the capitalised words.
* `taskPostfix_normal_form`: the two passes are one over the pieces of the words.
* `placeholderName_normal_form`: a segment is cut at hyphens and underscores alike.
-/

set_option autoImplicit false

namespace WrapperModel.Naming

open WrapperModel.Text

/-! ### One pass -/

/-- A pass says the same of every piece between separators: it gets a capital. Only the piece in
front is left as it is, if no separator was passed before it. -/
theorem capitalizeAfter_of_splitOn {separator : Char} {cs first : List Char}
    {more : List (List Char)} (passed : Bool)
    (h : cs.splitOn separator = first :: more) :
    capitalizeAfter separator passed cs =
      (if passed then capitalizeFirst first else first) ++ more.flatMap capitalizeFirst := by
  -- along the text, with its pieces; `passed` is general because a separator turns it on
  induction cs generalizing passed first more with
  | nil =>
    obtain ⟨rfl, rfl⟩ := List.cons.inj h
    cases passed <;> rfl
  | cons c rest ih =>
    obtain ⟨next, others, hrest⟩ := List.exists_cons_of_ne_nil (List.splitOn_ne_nil separator rest)
    by_cases hc : c = separator
    · -- A separator ends an empty piece, and the next one is capitalised.
      rw [List.splitOn_cons_eq_if_modifyHead, if_pos (by simpa using hc), hrest] at h
      obtain ⟨rfl, rfl⟩ := List.cons.inj h
      rw [capitalizeAfter, if_pos hc, ih true hrest, List.flatMap_cons]
      cases passed <;> rfl
    · rw [List.splitOn_cons_eq_if_modifyHead, if_neg (by simpa using hc), hrest] at h
      obtain ⟨rfl, rfl⟩ := List.cons.inj h
      rw [capitalizeAfter, if_neg hc, ih false hrest]
      cases passed with
      | false => rfl
      | true => exact (List.append_assoc _ _ _).symm

/-- Behind a separator, `capitalizeAfter` gives a capital to every piece that holds something, and
empty pieces vanish. -/
theorem capitalizeAfter_eq_flatMap (separator : Char) (cs : List Char) :
    capitalizeAfter separator true cs =
      (runsWithout (· = separator) cs).flatMap capitalizeFirst := by
  obtain ⟨first, more, hcut⟩ := List.exists_cons_of_ne_nil (List.splitOn_ne_nil separator cs)
  rw [flatMap_runsWithout_char rfl, capitalizeAfter_of_splitOn true hcut, hcut]
  rfl

/-- A name is made like a text behind a separator, unless it begins with one; then the separator
would be kept in front by the one and dropped by the other. -/
theorem pascalChars_eq_capitalizeAfter {separator : Char} {cs : List Char}
    (h : cs.head? ≠ some separator) :
    pascalChars separator cs = capitalizeAfter separator true cs := by
  cases cs with
  | nil => rfl
  | cons c rest =>
    have hc : c ≠ separator := fun heq => h (congrArg some heq)
    rw [capitalizeAfter, if_neg hc, if_pos rfl]
    rfl

/-- So every piece of a name that holds something gets a capital, with the same exception.
`runsWithout` are the pieces that hold something. -/
theorem pascalChars_eq_flatMap {separator : Char} {cs : List Char}
    (h : cs.head? ≠ some separator) :
    pascalChars separator cs = (runsWithout (· = separator) cs).flatMap capitalizeFirst := by
  rw [pascalChars_eq_capitalizeAfter h, capitalizeAfter_eq_flatMap]

/-- A text with one separator is two pieces, and both get a capital. It is what becomes of the two
sides of a map placeholder. -/
theorem pascalChars_pair {separator : Char} {left right : List Char} (hne : left ≠ [])
    (hleft : separator ∉ left) (hright : separator ∉ right) :
    pascalChars separator (left ++ separator :: right) =
      capitalizeFirst left ++ capitalizeFirst right := by
  -- The first part is not empty and holds no separator, so none stands in front.
  have hhead : (left ++ separator :: right).head? ≠ some separator := by
    obtain ⟨c, rest, rfl⟩ := List.exists_cons_of_ne_nil hne
    rw [List.cons_append, List.head?_cons, ne_eq, Option.some.injEq]
    rintro rfl
    exact hleft List.mem_cons_self
  rw [pascalChars_eq_flatMap hhead, flatMap_runsWithout_char rfl, List.splitOn_append_cons_self,
    List.splitOn_eq_singleton hleft, List.splitOn_eq_singleton hright, List.singleton_append,
    List.flatMap_cons, List.flatMap_singleton]

/-- The pieces of a text run together: the first as it is, and behind it those that hold something,
each with a capital in front. It says what `capitalizeAfter` does without the flag. -/
def runTogether : List (List Char) → List Char
  | [] => []
  | first :: later => first ++ (later.filter fun piece => !piece.isEmpty).flatMap capitalizeFirst

/-- Behind the first character, the pieces between separators are run together (`runTogether`). The
first piece is among them. -/
theorem camelChars_cons (separator c : Char) (rest : List Char) :
    camelChars separator (c :: rest) = c :: runTogether (rest.splitOn separator) := by
  obtain ⟨first, later, hcut⟩ := List.exists_cons_of_ne_nil (List.splitOn_ne_nil separator rest)
  rw [camelChars, capitalizeAfter_of_splitOn false hcut, hcut, runTogether,
    flatMap_filter_isEmpty rfl]
  rfl

/-- What `camelChars` makes of a text does not depend on what stands behind it, so a longer text
goes on where a shorter one ends. -/
theorem camelChars_prefix_append (separator : Char) (cs more : List Char) :
    camelChars separator cs <+: camelChars separator (cs ++ more) := by
  cases cs with
  | nil => exact List.nil_prefix
  | cons c rest =>
    rw [List.cons_append, camelChars, camelChars, capitalizeAfter_append]
    exact List.prefix_append _ _

/-- The words of a name run together by `camelCase`, said by its pieces (`runTogether`). Nothing is
made of the empty text. Any other text keeps its first character, a separator too, and behind it the
first piece. Every later piece that holds something has its first character replaced by the
upper-case form, which may be several characters. What is made of a longer text begins with what is
made of the shorter one. -/
theorem camelCase_eq_runTogether (separator : Char) :
    camelCase "" separator = "" ∧
      (∀ (c : Char) (rest : List Char),
        camelCase (String.ofList (c :: rest)) separator =
          String.ofList (c :: runTogether (rest.splitOn separator))) ∧
      ∀ s more : String,
        (camelCase s separator).toList <+: (camelCase (s ++ more) separator).toList := by
  refine ⟨rfl, fun c rest => ?_, fun s more => ?_⟩
  · rw [camelCase, String.toList_ofList, camelChars_cons]
  · rw [camelCase, camelCase, String.toList_ofList, String.toList_ofList, String.toList_append]
    exact camelChars_prefix_append separator s.toList more.toList

/-- Separators in front, in a row and at the end, and a letter as the separator. -/
example : camelCase "--ab--cd-" '-' = "-AbCd" ∧ camelCase "xaßaaz" 'a' = "xSSZ" := by
  decide +kernel

/-! ### Basic letters -/

/-- The text with a capital for its first letter, if that is one of the basic letters. For basic
characters it agrees with `capitalizeFirst`, whose first character may become several. -/
def capitalized : List Char → List Char
  | [] => []
  | c :: rest => c.toUpper :: rest

/-- A text that begins with a basic character is capitalised by changing that character, for which
`capitalized` needs no tables. -/
theorem capitalizeFirst_of_basic {cs : List Char} (h : ∀ c ∈ cs, c.toNat < 128) :
    capitalizeFirst cs = capitalized cs := by
  cases cs with
  | nil => rfl
  | cons c rest =>
    show upperChar c ++ rest = c.toUpper :: rest
    rw [upperChar_of_basic (h c List.mem_cons_self)]
    rfl

/-- Behind a separator, a pass over basic characters capitalises every piece that holds something,
in the sense of `capitalized`. -/
theorem capitalizeAfter_of_basic (separator : Char) {cs : List Char}
    (h : ∀ c ∈ cs, c.toNat < 128) :
    capitalizeAfter separator true cs =
      (runsWithout (· = separator) cs).flatMap capitalized := by
  have hrun : ∀ run ∈ runsWithout (· = separator) cs, capitalizeFirst run = capitalized run := by
    intro run hrun
    exact capitalizeFirst_of_basic fun c hc => h c (mem_of_mem_runsWithout hrun c hc)
  rw [capitalizeAfter_eq_flatMap, List.flatMap_def, List.map_congr_left hrun, ← List.flatMap_def]

/-- Two passes over a word are one: the capital that the first pass puts in front is what the
second would put there, whether it has just passed a separator or not. -/
theorem capitalizeAfter_capitalizeFirst {separator : Char} (hmark : IsCaseless separator)
    (passed : Bool) {word : List Char} (hne : word ≠ []) (hbasic : ∀ c ∈ word, c.toNat < 128) :
    capitalizeAfter separator passed (capitalizeFirst word) =
      capitalizeAfter separator true word := by
  obtain ⟨c, rest, rfl⟩ := List.exists_cons_of_ne_nil hne
  have hc : c.toNat < 128 := hbasic c List.mem_cons_self
  show capitalizeAfter separator passed (upperChar c ++ rest) = _
  by_cases hsep : c = separator
  · -- A word that begins with the separator is as it was, and the separator is passed here.
    subst hsep
    rw [hmark.upper_self, List.singleton_append, capitalizeAfter, capitalizeAfter, if_pos rfl,
      if_pos rfl]
  · have hupper : c.toUpper ≠ separator := by
      rintro rfl
      exact hsep (hmark.eq_of_mem_upper (upperChar_of_basic hc ▸ List.mem_singleton_self _)).symm
    rw [upperChar_of_basic hc, List.singleton_append, capitalizeAfter, if_neg hupper,
      upperChar_toUpper_of_basic hc, List.singleton_append, ite_self, capitalizeAfter, if_neg hsep,
      if_pos rfl, upperChar_of_basic hc, List.singleton_append]

/-- Texts that are run together behind capitals fall apart again in the second pass, each into its
pieces. None of them may be empty, since an empty one would let the flag through to the next. -/
theorem capitalizeAfter_flatMap {separator : Char} (hmark : IsCaseless separator) (passed : Bool)
    {texts : List (List Char)} (hne : ∀ text ∈ texts, text ≠ [])
    (hbasic : ∀ text ∈ texts, ∀ c ∈ text, c.toNat < 128) :
    capitalizeAfter separator passed (texts.flatMap capitalizeFirst) =
      texts.flatMap fun text => (runsWithout (· = separator) text).flatMap capitalized := by
  -- Each text begins in upper case already, so whether a separator was passed does not matter.
  induction texts generalizing passed with
  | nil => rfl
  | cons text rest ih =>
    obtain ⟨htext, hrest⟩ := List.forall_mem_cons.1 hne
    obtain ⟨htextBasic, hrestBasic⟩ := List.forall_mem_cons.1 hbasic
    rw [List.flatMap_cons, List.flatMap_cons, capitalizeAfter_append,
      capitalizeAfter_capitalizeFirst hmark passed htext htextBasic,
      capitalizeAfter_of_basic separator htextBasic, ih _ hrest hrestBasic]

/-- The words of a path fall apart in the second pass as well (`capitalizeAfter_flatMap`). -/
theorem capitalizeAfter_flatMap_capitalizeFirst {separator : Char}
    (hmark : IsCaseless separator) (passed : Bool) {path : List String}
    (hne : ∀ word ∈ path, word.toList ≠ [])
    (hbasic : ∀ word ∈ path, ∀ c ∈ word.toList, c.toNat < 128) :
    capitalizeAfter separator passed (path.flatMap fun word => capitalizeFirst word.toList) =
      path.flatMap fun word => (runsWithout (· = separator) word.toList).flatMap capitalized := by
  have htexts : ∀ text ∈ path.map String.toList, text ≠ [] := List.forall_mem_map.2 hne
  have hpass := capitalizeAfter_flatMap hmark passed htexts (List.forall_mem_map.2 hbasic)
  rwa [List.flatMap_map, List.flatMap_map] at hpass

/-! ### Tasks -/

/-- The words of a command are those of its path, and the program is left out once where it comes
first. It puts `commandWords` into words of the library. -/
theorem commandWords_eq (program command : String) :
    commandWords program command =
      if (words command).head? = some program then (words command).tail else words command := by
  unfold commandWords
  cases words command with
  | nil => rfl
  | cons first rest =>
    rw [List.head?_cons, List.tail_cons]
    simp only [Option.some.injEq]

/-- The first pass of a task's name runs the words together behind capitals. That there are no
spaces within a word makes the pieces between spaces the words themselves. -/
theorem toList_taskPostfix (program command : String) :
    (taskPostfix program command).toList =
      pascalChars '-' ((commandWords program command).flatMap fun word =>
        capitalizeFirst word.toList) := by
  have hword : ∀ word ∈ commandWords program command, word.toList ≠ [] ∧ ' ' ∉ word.toList := by
    intro word hmem
    have hfrom := mem_words_of_mem_commandWords hmem
    refine ⟨toList_ne_nil_of_mem_words hfrom, fun hspace => ?_⟩
    exact absurd (not_isBlank_of_mem_words hfrom ' ' hspace) (by decide)
  rw [taskPostfix, pascalCase, pascalCase, String.toList_ofList, String.toList_ofList]
  refine congrArg (pascalChars '-') ?_
  generalize commandWords program command = path at hword
  cases path with
  | nil => rfl
  | cons first rest =>
    obtain ⟨⟨hne, hspace⟩, hrest⟩ := List.forall_mem_cons.1 hword
    -- The joined text begins with the first word, so with no space.
    have hhead : (joinWith " " (first :: rest)).toList.head? ≠ some ' ' := by
      obtain ⟨c, more, hc⟩ := List.exists_cons_of_ne_nil hne
      rw [toList_joinWith_cons, hc, List.cons_append, List.head?_cons, ne_eq, Option.some.injEq]
      rintro rfl
      exact hspace (hc ▸ List.mem_cons_self)
    have hcut : (joinWith " " (first :: rest)).toList.splitOn ' ' =
        (first :: rest).map String.toList :=
      splitOn_joinWith rfl (List.cons_ne_nil _ _) fun word hmem => (hword word hmem).2
    rw [pascalChars_eq_flatMap hhead, flatMap_runsWithout_char rfl, hcut, List.flatMap_map]

/-- A task has the empty name exactly if no words are left of its path. A word that is nothing but
hyphens still names a task. -/
theorem taskPostfix_eq_empty_iff (program command : String) :
    taskPostfix program command = "" ↔ commandWords program command = [] := by
  rw [← String.toList_eq_nil_iff, toList_taskPostfix]
  have hword : ∀ word ∈ commandWords program command, word.toList ≠ [] := fun word hmem =>
    toList_ne_nil_of_mem_words (mem_words_of_mem_commandWords hmem)
  generalize commandWords program command = path at hword
  cases path with
  | nil => exact iff_of_true rfl rfl
  | cons first rest =>
    obtain ⟨c, more, hc⟩ := List.exists_cons_of_ne_nil (hword first List.mem_cons_self)
    -- A word has a first character, which is there in upper case after both passes.
    refine iff_of_false (pascalChars_ne_nil ?_) (List.cons_ne_nil first rest)
    rw [List.flatMap_cons, hc]
    exact List.append_ne_nil_of_left_ne_nil
      (List.append_ne_nil_of_left_ne_nil (upperChar_ne_nil c) more) _

/-- Words that do not begin with a mark without case do not begin with it in capitals. Only the
first word is asked, for the text begins with it. -/
theorem head?_flatMap_capitalizeFirst {mark : Char} (hmark : IsCaseless mark)
    {path : List String} (hne : ∀ word ∈ path, word.toList ≠ [])
    (h : ∀ first ∈ path.head?, first.toList.head? ≠ some mark) :
    (path.flatMap fun word => capitalizeFirst word.toList).head? ≠ some mark := by
  cases path with
  | nil => simp
  | cons first rest =>
    obtain ⟨c, more, hc⟩ := List.exists_cons_of_ne_nil (hne first List.mem_cons_self)
    have hfirst := h first rfl
    rw [hc, List.head?_cons, ne_eq, Option.some.injEq] at hfirst
    -- The first character is that of the word in upper case, which makes no mark of another.
    obtain ⟨d, others, hupper⟩ := List.exists_cons_of_ne_nil (upperChar_ne_nil c)
    rw [List.flatMap_cons, hc, capitalizeFirst, hupper, List.cons_append, List.cons_append,
      List.head?_cons, ne_eq, Option.some.injEq]
    rintro rfl
    exact hfirst (hmark.eq_of_mem_upper (hupper ▸ List.mem_cons_self)).symm

/-- Where the first word does not begin with a hyphen, the second pass of a task's name is one
behind a hyphen, so that the first word is treated like all others. -/
theorem toList_taskPostfix_of_head {program command : String}
    (h : ∀ first ∈ (commandWords program command).head?, first.toList.head? ≠ some '-') :
    (taskPostfix program command).toList =
      capitalizeAfter '-' true ((commandWords program command).flatMap fun word =>
        capitalizeFirst word.toList) := by
  have hmark : IsCaseless '-' := isCaseless_of_mem (by simp)
  have hne : ∀ word ∈ commandWords program command, word.toList ≠ [] := fun word hmem =>
    toList_ne_nil_of_mem_words (mem_words_of_mem_commandWords hmem)
  rw [toList_taskPostfix, pascalChars_eq_flatMap (head?_flatMap_capitalizeFirst hmark hne h),
    capitalizeAfter_eq_flatMap]

/-- Without the program in front, a path has the name that it has with it. A path that begins with
the program twice is left out, since the program is dropped once. -/
theorem taskPostfix_of_words_eq_cons {program command other : String}
    (hother : words other = program :: words command)
    (hnext : (words command).head? ≠ some program) :
    taskPostfix program other = taskPostfix program command := by
  have hsame : commandWords program other = commandWords program command := by
    rw [commandWords_eq, commandWords_eq, hother, if_neg hnext, List.head?_cons, if_pos rfl,
      List.tail_cons]
  rw [taskPostfix, taskPostfix, hsame]

/-- The normal form of a task's name. The `words` of the path, without the program in front, are cut
at their hyphens, and the pieces are run together, each `capitalized`. There is neither white space
nor a hyphen in the result, and it is empty exactly if no words are left. So it does not depend on
the white space between the words, nor on whether the program is written in front of them.

Of basic characters the capital is one character, which the second pass over the name leaves as it
is (`capitalizeAfter_capitalizeFirst`). A hyphen that comes first of all is kept, so the form is
said of paths without one. -/
theorem taskPostfix_normal_form (program command : String)
    (hbasic : ∀ c ∈ command.toList, c.toNat < 128) :
    let path := if (words command).head? = some program then (words command).tail
      else words command
    let name := taskPostfix program command
    ((∀ first ∈ path.head?, first.toList.head? ≠ some '-') →
        name.toList = path.flatMap (fun word =>
          (runsWithout (· = '-') word.toList).flatMap capitalized) ∧
        ∀ c ∈ name.toList, isBlank c = false ∧ c ≠ '-') ∧
      (name = "" ↔ path = []) ∧
      (∀ other, words other = words command → taskPostfix program other = name) ∧
      ∀ other, words other = program :: words command → (words command).head? ≠ some program →
        taskPostfix program other = name := by
  intro path name
  have hpath : commandWords program command = path := commandWords_eq program command
  have hword : ∀ word ∈ path, word ∈ words command := fun word hmem =>
    mem_words_of_mem_commandWords (hpath ▸ hmem)
  have hne : ∀ word ∈ path, word.toList ≠ [] := fun word hmem =>
    toList_ne_nil_of_mem_words (hword word hmem)
  have hwordBasic : ∀ word ∈ path, ∀ c ∈ word.toList, c.toNat < 128 := fun word hmem c hc =>
    hbasic c (mem_of_mem_words (hword word hmem) c hc)
  have hmark : IsCaseless '-' := isCaseless_of_mem (by simp)
  -- Only the first part needs basic characters and the first letter; the others look at words.
  refine ⟨fun hfirst => ?_, hpath ▸ taskPostfix_eq_empty_iff program command,
    fun other hother => taskPostfix_congr program hother,
    fun other hother hnext => taskPostfix_of_words_eq_cons hother hnext⟩
  have hpass : name.toList =
      capitalizeAfter '-' true (path.flatMap fun word => capitalizeFirst word.toList) :=
    hpath ▸ toList_taskPostfix_of_head (hpath.symm ▸ hfirst)
  refine ⟨hpass.trans (capitalizeAfter_flatMap_capitalizeFirst hmark true hne hwordBasic), ?_⟩
  intro c hc
  refine ⟨not_isBlank_of_mem_taskPostfix program command c hc, ?_⟩
  rintro rfl
  exact (mem_of_mem_capitalizeAfter hmark (hpass ▸ hc)).2 rfl

/-- The normal form at a path with blanks of several kinds, repeated hyphens and a hyphen at the end
of a word. The program in front is dropped. -/
theorem taskPostfix_normal_form_buildx :
    (∀ c ∈ "docker\tbuildx  im-age--tools- \n-x ls".toList, c.toNat < 128) ∧
      taskPostfix "docker" "docker\tbuildx  im-age--tools- \n-x ls" = "BuildxImAgeToolsXLs" := by
  have hbasic : ∀ c ∈ "docker\tbuildx  im-age--tools- \n-x ls".toList, c.toNat < 128 := by
    have hall : "docker\tbuildx  im-age--tools- \n-x ls".toList.all (·.toNat < 128) = true := by
      decide
    exact fun c hc => of_decide_eq_true (List.all_eq_true.1 hall c hc)
  refine ⟨hbasic, ?_⟩
  obtain ⟨hform, -⟩ := taskPostfix_normal_form "docker" _ hbasic
  rw [← String.toList_inj, (hform (by decide)).1]
  decide

/-! ### Placeholders -/

/-- The text with a capital for its first letter and small letters behind it, which is what a run of
a placeholder looks like in its name. -/
def titled : List Char → List Char
  | [] => []
  | c :: rest => c.toUpper :: rest.map Char.toLower

/-- A text of basic characters that is made small and then `capitalized` is the text `titled`: the
capital does not remember the case. -/
theorem capitalized_map_toLower {run : List Char} (hbasic : ∀ c ∈ run, c.toNat < 128) :
    capitalized (run.map Char.toLower) = titled run := by
  cases run with
  | nil => rfl
  | cons c rest =>
    rw [List.map_cons, capitalized, (toLower_of_basic (hbasic c List.mem_cons_self)).2, titled]

/-- A mark without case comes first in a name only if it comes first in the text, which
`pascalChars` keeps there. -/
theorem head?_pascalChars_ne {separator mark : Char} (hmark : IsCaseless mark) {cs : List Char}
    (h : cs.head? ≠ some mark) : (pascalChars separator cs).head? ≠ some mark := by
  cases cs with
  | nil => exact h
  | cons c rest =>
    -- The mark has no case, so it would have been there before.
    obtain ⟨d, others, hupper⟩ := List.exists_cons_of_ne_nil (upperChar_ne_nil c)
    have hpass : pascalChars separator (c :: rest) =
        d :: (others ++ capitalizeAfter separator false rest) :=
      congrArg (· ++ capitalizeAfter separator false rest) hupper
    rw [hpass, List.head?_cons, ne_eq, Option.some.injEq]
    rintro rfl
    exact h (congrArg some (hmark.eq_of_mem_upper (hupper ▸ List.mem_cons_self)).symm)

/-- Two passes over a text of basic characters, each with a separator of its own, are one cut at
both, if neither comes first. A separator that comes first is kept by its pass, and the outcome
would begin with it. -/
theorem pascalChars_pascalChars {first second : Char} (hmark : IsCaseless second)
    {cs : List Char} (hbasic : ∀ c ∈ cs, c.toNat < 128) (hfirst : cs.head? ≠ some first)
    (hsecond : cs.head? ≠ some second) :
    pascalChars second (pascalChars first cs) =
      (runsWithout (fun c => c = first || c = second) cs).flatMap capitalized := by
  rw [pascalChars_eq_capitalizeAfter (head?_pascalChars_ne hmark hsecond),
    pascalChars_eq_flatMap hfirst,
    capitalizeAfter_flatMap hmark true (fun run hrun => ne_nil_of_mem_runsWithout hrun)
      (fun run hrun c hc => hbasic c (mem_of_mem_runsWithout hrun c hc)),
    ← List.flatMap_assoc, flatMap_runsWithout_runsWithout]

/-- The marks that stand between the words of a segment have no small letters and are none. So
making a segment small moves no cut. -/
theorem toLower_eq_mark_iff {mark : Char} (hmark : mark ∈ ['-', '_']) (c : Char) :
    c.toLower = mark ↔ c = mark := by
  have hmarks : ∀ mark ∈ ['-', '_'], mark ∈ soughtChars ∧ mark.toUpper = mark :=
    forall_mem_of_all (by decide)
  obtain ⟨hsought, hupper⟩ := hmarks mark hmark
  rw [toLower_eq_iff hsought, hupper, or_self_iff]

/-- A text in small letters begins with such a mark only if the text does
(`toLower_eq_mark_iff`). -/
theorem head?_map_toLower_ne {mark : Char} (hmark : mark ∈ ['-', '_']) {cs : List Char}
    (h : cs.head? ≠ some mark) : (cs.map Char.toLower).head? ≠ some mark := by
  intro hlower
  obtain ⟨c, hc, hcmark⟩ := Option.map_eq_some_iff.1 (List.head?_map.symm.trans hlower)
  exact h ((toLower_eq_mark_iff hmark c).1 hcmark ▸ hc)

/-- The normal form of a placeholder's name. A segment that begins with neither a hyphen nor an
underscore is cut at both, in whatever order and number they stand, and the runs between them are
written one behind the other, each `titled`.

The characters are basic ones because some capitals have a lower-case form from which no capital
leads back, and because a sigma looks around. -/
theorem placeholderName_normal_form {segment : String}
    (hbasic : ∀ c ∈ segment.toList, c.toNat < 128)
    (hhead : ∀ c ∈ segment.toList.head?, c ≠ '-' ∧ c ≠ '_') :
    (placeholderName segment).toList =
      (runsWithout (fun c => c = '-' || c = '_') segment.toList).flatMap titled := by
  have hlower : ∀ c ∈ segment.toList.map Char.toLower, c.toNat < 128 :=
    List.forall_mem_map.2 fun c hc => (toLower_of_basic (hbasic c hc)).1
  have hhyphen : (segment.toList.map Char.toLower).head? ≠ some '-' :=
    head?_map_toLower_ne (by decide) fun hfirst => (hhead '-' hfirst).1 rfl
  have hline : (segment.toList.map Char.toLower).head? ≠ some '_' :=
    head?_map_toLower_ne (by decide) fun hfirst => (hhead '_' hfirst).2 rfl
  -- The segment can be cut before it is made small, since the marks have no case.
  have hcut : runsWithout (fun c => c = '-' || c = '_') (segment.toList.map Char.toLower) =
      (runsWithout (fun c => c = '-' || c = '_') segment.toList).map (List.map Char.toLower) := by
    rw [runsWithout_map]
    simp only [toLower_eq_mark_iff List.mem_cons_self,
      toLower_eq_mark_iff (List.mem_cons_of_mem '-' List.mem_cons_self)]
  rw [toList_placeholderName, lowerAfter_of_basic [] hbasic,
    pascalChars_pascalChars (isCaseless_of_mem (by simp)) hlower hhyphen hline, hcut,
    List.flatMap_map]
  refine congrArg List.flatten (List.map_congr_left fun run hrun => ?_)
  exact capitalized_map_toLower fun c hc => hbasic c (mem_of_mem_runsWithout hrun c hc)

/-- The normal form at a segment with hyphens and underscores side by side, in a row and at the end.
Letters of either case are mixed, and each run is `titled`. -/
theorem placeholderName_normal_form_mixed :
    (∀ c ∈ "sOURCE-_IMAGE_-_nAmE2--x_".toList, c.toNat < 128) ∧
      (∀ c ∈ "sOURCE-_IMAGE_-_nAmE2--x_".toList.head?, c ≠ '-' ∧ c ≠ '_') ∧
      placeholderName "sOURCE-_IMAGE_-_nAmE2--x_" = "SourceImageName2X" := by
  have hbasic : ∀ c ∈ "sOURCE-_IMAGE_-_nAmE2--x_".toList, c.toNat < 128 :=
    forall_mem_of_all (by decide)
  have hhead : ∀ c ∈ "sOURCE-_IMAGE_-_nAmE2--x_".toList.head?, c ≠ '-' ∧ c ≠ '_' := by
    rintro c ⟨⟩
    decide
  refine ⟨hbasic, hhead, ?_⟩
  rw [← String.toList_inj, placeholderName_normal_form hbasic hhead]
  decide

end WrapperModel.Naming
