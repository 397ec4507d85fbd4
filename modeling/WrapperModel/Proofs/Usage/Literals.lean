import WrapperModel.Proofs.Usage.Repetitions

/-!
# `WrapperModel.Proofs.Usage.Literals`: literal words and placeholders

`Parameter.isArgument` tells placeholders from literal words after the tokens were grouped.
`isPlaceholderToken` says the same of a token on its own, by the way it is written. The two agree
but for one thing: a token that repeats the word in front of it makes a placeholder of that word.

* `isArgument_of_mem_parameters`: an item is a placeholder if its text is written as one or if it
  is a list.
* `isArgument_or_of_forall`: grouping makes no literal word of placeholders. Whatever is closed up
  or taken, the items of placeholder tokens are placeholders.
* `parameters_literals`: literal words in front of other tokens are items of their own.
* `exists_parameters_singleton`, `parameters_cons_of_not_isRepetition`: so is any token in front of
  one that is neither a bar nor a repetition.
-/

set_option autoImplicit false

namespace WrapperModel.Usage

open WrapperModel.Text

/-- The token is written as a placeholder: it ends with a bracket, offers alternatives, has no
character but capitals, underscores and hyphens, or is a pair of words in capitals. Unlike
`Parameter.isArgument` it asks for nothing but the text of one token. -/
def isPlaceholderToken (token : String) : Bool :=
  endsWith "]" token || token.toList.contains '|' || token.toList.all isPlaceholderChar ||
    (mapPlaceholder? token.toList).isSome

/-- A bar on its own is written as a placeholder, and so is a repetition. So a literal word is
neither, and `isPlaceholderToken` is all that has to be asked of it. -/
theorem ne_of_isPlaceholderToken_eq_false {token : String} (h : isPlaceholderToken token = false) :
    token ≠ "|" ∧ isRepetition token.toList = false := by
  constructor
  · rintro rfl
    exact absurd h (by decide)
  · rw [← Bool.not_eq_true]
    intro hrepetition
    obtain ⟨body, hbody⟩ := isRepetition_iff.1 hrepetition
    -- A repetition ends in a bracket, which makes a placeholder of it.
    have hends : endsWith "]" token = true := by
      rw [endsWith_iff_getLast? rfl, hbody]
      exact getLast?_append_ellipsis ('[' :: body)
    simp [isPlaceholderToken, hends] at h

/-! ### Placeholders -/

/-- An item that is read is a placeholder if its text is written as one, and also if it is a list. A
word that is repeated counts as a placeholder, though it is not written as one. -/
theorem isArgument_readItem (raw : String) (next : Option String) :
    let reading := readItem raw.toList next
    (⟨raw, reading.isList, reading.isDictionary⟩ : Parameter).isArgument =
      (reading.isList || isPlaceholderToken raw) := by
  intro reading
  have hends : endsWith "]" raw = [']'].isSuffixOf raw.toList := rfl
  have hmap : reading.isDictionary = (mapPlaceholder? raw.toList).isSome := by
    rw [Bool.eq_iff_iff, isDictionary_readItem, ← Option.ne_none_iff_isSome, ne_eq,
      ← not_isMap_iff, Classical.not_not]
  simp only [Parameter.isArgument, isPlaceholderToken, hmap, hends]
  -- Both sides ask the same questions in another order.
  ac_rfl

/-- The items of some tokens are placeholders where their text is written as one
(`isPlaceholderToken`), and where they are lists. -/
theorem isArgument_of_mem_parameters {tokens : List String} {p : Parameter}
    (hp : p ∈ parameters tokens) : p.isArgument = (p.isList || isPlaceholderToken p.raw) := by
  obtain ⟨raw, next, rfl⟩ := exists_eq_readItem hp
  exact isArgument_readItem raw next

/-- `closeUp` leaves the text of a token as it is, or puts a bar into it, and with a bar it is
written as a placeholder (`isPlaceholderToken`). -/
theorem fst_closeUp (raw : String) (tokens : List String) :
    (closeUp raw tokens).1 = raw ∨ '|' ∈ (closeUp raw tokens).1.toList := by
  fun_induction closeUp raw tokens with
  | case1 raw alternative rest ih =>
    rcases ih with heq | hbar
    · exact .inr (by simp [heq])
    · exact .inr hbar
  | case2 raw => exact .inr (by simp)
  | case3 raw tokens => exact .inl rfl

/-- What `closeUp` leaves behind an item is an end of the tokens, so a property of all tokens goes
along in an induction. -/
theorem snd_closeUp_suffix (raw : String) (tokens : List String) :
    (closeUp raw tokens).2 <:+ tokens := by
  fun_induction closeUp raw tokens with
  | case1 raw alternative rest ih =>
    exact ih.trans ((List.suffix_cons alternative rest).trans (List.suffix_cons "|" _))
  | case2 => exact List.nil_suffix
  | case3 raw tokens => exact List.suffix_rfl

/-- Where every token is written as a placeholder or is one given word, every item is a placeholder
or that word. The word is the program in the one use; without it the lemma would not cover templates
of placeholders alone. -/
theorem isArgument_or_of_forall {tokens : List String} {word : String}
    (h : ∀ token ∈ tokens, isPlaceholderToken token = true ∨ token = word) :
    ∀ p ∈ parameters tokens, p.isArgument = true ∨ p.raw = word := by
  -- item by item: the text of an item is its first token, or has a bar in it
  fun_induction parameters tokens with
  | case1 => simp
  | case2 token rest item reading ih =>
    have hargument := isArgument_readItem item.1 item.2.head?
    intro p hp
    rcases List.mem_cons.1 hp with rfl | hp
    · show _ ∨ item.1 = word
      rw [hargument]
      rcases fst_closeUp token rest with hraw | hbar
      · rcases h token List.mem_cons_self with hwritten | heq
        · left
          rw [show item.1 = token from hraw, hwritten, Bool.or_true]
        · exact .inr (hraw.trans heq)
      · left
        have hwritten : isPlaceholderToken item.1 = true := by simp [isPlaceholderToken, item, hbar]
        rw [hwritten, Bool.or_true]
    · -- Nothing is left behind the item but tokens that were there.
      have hleft : item.2 ⊆ token :: rest := by
        intro t ht
        exact List.mem_cons_of_mem token ((snd_closeUp_suffix token rest).subset ht)
      refine ih ?_ p hp
      intro t ht
      split at ht
      · exact h t (hleft (List.mem_of_mem_tail ht))
      · exact h t (hleft ht)

/-! ### Literal words -/

/-- In front of a token that is neither a bar nor its repetition (`repeated`), a literal word is an
item of its own. One of the two would make the word part of an item, or a list. -/
theorem parameters_literal {word : String} {behind : List String}
    (hword : isPlaceholderToken word = false)
    (hbehind : ∀ token ∈ behind.head?, token ≠ "|" ∧ token ≠ repeated word) :
    parameters (word :: behind) = ⟨word, false, false⟩ :: parameters behind := by
  have hbar : behind.head? ≠ some "|" := fun h => (hbehind "|" h).1 rfl
  have hrepetition := (ne_of_isPlaceholderToken_eq_false hword).2
  simp only [isPlaceholderToken, Bool.or_eq_false_iff, Option.isSome_eq_false_iff,
    Option.isNone_iff_eq_none] at hword
  obtain ⟨⟨⟨-, hfree⟩, -⟩, hmap⟩ := hword
  -- A literal word holds no bar, so only the word itself can be repeated.
  have hnext : (behind.head?.any fun token => repeatsAsList word.toList token.toList) = false := by
    rw [Option.any_eq_false]
    intro token htoken
    have hne : token.toList ≠ repetition word.toList := by
      rw [← toList_repeated, ne_eq, String.toList_inj]
      exact (hbehind token htoken).2
    rw [repeatsAsList, hfree, decide_eq_false hne, Bool.false_and, Bool.or_false]
  rw [parameters_cons word hbar, readItem_of_not_isMap (not_isMap_iff.2 hmap), hrepetition, hnext]
  rfl

/-- The item of a literal word is no placeholder: it is written as none, and has neither flag. -/
theorem isArgument_literal {word : String} (h : isPlaceholderToken word = false) :
    (⟨word, false, false⟩ : Parameter).isArgument = false := by
  have hitem : ⟨word, false, false⟩ ∈ parameters [word] := by
    rw [parameters_literal h (by simp)]
    exact List.mem_cons_self
  rw [isArgument_of_mem_parameters hitem, h]
  rfl

/-- Literal words are items of their own, if the last of them is not closed up with the tokens
behind it and not repeated by the first of these. Between the words themselves neither can
happen. -/
theorem parameters_literals {literals behind : List String}
    (hliterals : ∀ word ∈ literals, isPlaceholderToken word = false)
    (hcut : ∀ word ∈ literals.getLast?, ∀ token ∈ behind.head?,
      token ≠ "|" ∧ token ≠ repeated word) :
    parameters (literals ++ behind) =
      literals.map (fun word => ⟨word, false, false⟩) ++ parameters behind := by
  induction literals with
  | nil => rfl
  | cons word rest ih =>
    obtain ⟨hword, hrest⟩ := List.forall_mem_cons.1 hliterals
    cases rest with
    | nil =>
      rw [List.singleton_append, parameters_literal hword (hcut word rfl), List.map_singleton,
        List.singleton_append]
    | cons next more =>
      -- What follows is a literal word again, and that is no repetition.
      have hnext : ∀ token ∈ (next :: more ++ behind).head?,
          token ≠ "|" ∧ token ≠ repeated word := by
        rintro token ⟨⟩
        obtain ⟨hbar, hrepetition⟩ :=
          ne_of_isPlaceholderToken_eq_false (hrest next List.mem_cons_self)
        refine ⟨hbar, ?_⟩
        rintro rfl
        exact absurd (isRepetition_repeated word) (by simp [hrepetition])
      rw [List.cons_append, parameters_literal hword hnext, ih hrest (by simpa using hcut)]
      rfl

/-! ### Tokens on their own -/

/-- A token on its own is one item, which is a placeholder if it is written as one
(`isPlaceholderToken`). A list on its own is a repetition, so the flags say nothing more. -/
theorem exists_parameters_singleton (token : String) :
    ∃ p, p.raw = token ∧ p.isArgument = isPlaceholderToken token ∧ parameters [token] = [p] := by
  refine ⟨_, rfl, ?_, parameters_singleton token⟩
  rw [isArgument_readItem]
  cases hwritten : isPlaceholderToken token with
  | true => exact Bool.or_true _
  | false =>
    -- Where nothing follows, only a repetition is a list, and that is written as a placeholder.
    have hrepetition := (ne_of_isPlaceholderToken_eq_false hwritten).2
    rw [Bool.or_false, ← Bool.not_eq_true, isList_readItem, ← isRepetition_iff, hrepetition]
    simp

/-- In front of a token that is neither a bar nor a repetition, a token is read on its own. The
condition is weaker than being a literal word, so placeholders are covered as well. -/
theorem parameters_cons_of_not_isRepetition {next : String} (token : String)
    (more : List String) (hbar : next ≠ "|") (hrepetition : isRepetition next.toList = false) :
    parameters (token :: next :: more) = parameters [token] ++ parameters (next :: more) := by
  have hfree : ¬TakenBehind (token :: barred []) (next :: more) := by
    intro htaken
    exact Bool.false_ne_true (hrepetition.symm.trans (isRepetition_of_takenBehind htaken))
  exact parameters_append_of_not_taken hbar hfree

end WrapperModel.Usage
