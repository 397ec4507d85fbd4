import WrapperModel.Usage.MapPlaceholder

/-!
# `WrapperModel.Proofs.Usage.MapPlaceholder`: the grammar of map placeholders

`IsMapPlaceholder key value cs` is the grammar of map placeholders said without the
function that reads them.

* `mapPlaceholder?_eq_some_iff`: `mapPlaceholder?` accepts the grammar and nothing else, and
  gives its two words.
* `isRepetition_iff`: an item is a repetition exactly when it has the form `[body...]`.
-/

set_option autoImplicit false

namespace WrapperModel.Usage

/-- `cs` is written as two words of basic capitals around an equals sign. An opening bracket may
stand in front and `...]` behind, each with or without the other. It is the grammar that
`mapPlaceholder?` reads, said without reading. -/
structure IsMapPlaceholder (key value cs : List Char) : Prop where
  key_ne_nil : key ≠ []
  value_ne_nil : value ≠ []
  key_capital : ∀ c ∈ key, isBasicCapital c = true
  value_capital : ∀ c ∈ value, isBasicCapital c = true
  written : ∃ opening closing, (opening = [] ∨ opening = ['[']) ∧
    (closing = [] ∨ closing = ellipsis) ∧ cs = opening ++ (key ++ '=' :: (value ++ closing))

/-- Without the opening bracket a text is what stands behind it, or the text itself where it has
none in front. `dropBracket` takes one bracket only. -/
theorem dropBracket_eq_iff {cs body : List Char} :
    dropBracket cs = body ↔ cs = '[' :: body ∨ (cs = body ∧ body.head? ≠ some '[') := by
  unfold dropBracket
  split
  · simp
    rintro rfl
    simp
  · -- Without a bracket in front nothing is dropped.
    rename_i h
    constructor
    · rintro rfl
      refine .inr ⟨rfl, ?_⟩
      cases cs with
      | nil => simp
      | cons c rest =>
        rintro heq
        cases heq
        exact h rest rfl
    · rintro (rfl | ⟨rfl, -⟩)
      · exact absurd rfl (h body)
      · rfl

/-- A run of capitals in front of something else is what `takeWhile` takes from the text. It cuts
both words of the grammar off. -/
theorem takeWhile_capitals {word : List Char} (rest : List Char)
    (hword : ∀ c ∈ word, isBasicCapital c = true)
    (hrest : ∀ c ∈ rest.head?, isBasicCapital c = false) :
    (word ++ rest).takeWhile isBasicCapital = word ∧
      (word ++ rest).dropWhile isBasicCapital = rest := by
  have hnone : rest.takeWhile isBasicCapital = [] ∧ rest.dropWhile isBasicCapital = rest := by
    cases rest with
    | nil => simp
    | cons c more => simp [hrest c rfl]
  rw [List.takeWhile_append_of_pos hword, List.dropWhile_append_of_pos hword, hnone.1, hnone.2]
  simp

/-- Only texts of the grammar are read by `mapPlaceholder?`: each of its tests gives one condition
of `IsMapPlaceholder`. -/
theorem isMapPlaceholder_of_eq_some {cs key value : List Char}
    (h : mapPlaceholder? cs = some (key, value)) : IsMapPlaceholder key value cs := by
  simp only [mapPlaceholder?] at h
  have hkey := List.takeWhile_append_dropWhile (p := isBasicCapital) (l := dropBracket cs)
  split at h
  · rename_i rest hrest
    split at h
    · rename_i hcond
      simp only [Bool.and_eq_true, Bool.or_eq_true, Bool.not_eq_true', List.isEmpty_iff,
        List.isEmpty_eq_false_iff, decide_eq_true_eq] at hcond
      obtain ⟨⟨hne, hne'⟩, htail⟩ := hcond
      simp only [Option.some.injEq, Prod.mk.injEq] at h
      obtain ⟨rfl, rfl⟩ := h
      rw [hrest, ← List.takeWhile_append_dropWhile (p := isBasicCapital) (l := rest)] at hkey
      refine ⟨hne, hne', List.all_eq_true.1 List.all_takeWhile,
        List.all_eq_true.1 List.all_takeWhile, ?_⟩
      -- The bracket in front belongs to the token and not to the pair.
      rcases dropBracket_eq_iff.1 hkey.symm with hcs | ⟨hcs, -⟩
      · exact ⟨['['], _, .inr rfl, htail, hcs⟩
      · exact ⟨[], _, .inl rfl, htail, hcs⟩
    · simp at h
  · simp at h

/-- The opening bracket is dropped from in front of a word of capitals, where there is one. The word
must not be empty, for what follows might begin with a bracket. -/
theorem dropBracket_opening {opening word : List Char} (rest : List Char)
    (hopening : opening = [] ∨ opening = ['[']) (hne : word ≠ [])
    (hword : ∀ c ∈ word, isBasicCapital c = true) :
    dropBracket (opening ++ (word ++ rest)) = word ++ rest := by
  obtain ⟨c, more, rfl⟩ := List.exists_cons_of_ne_nil hne
  rw [dropBracket_eq_iff]
  rcases hopening with rfl | rfl
  · refine .inr ⟨rfl, ?_⟩
    -- A basic capital is no bracket.
    intro heq
    cases heq
    exact absurd (hword '[' List.mem_cons_self) (by decide)
  · exact .inl rfl

/-- Every text of the grammar is read as the map placeholder of its two words. The words are
determined by the text, since an equals sign is no capital. -/
theorem IsMapPlaceholder.eq_some {cs key value : List Char} (h : IsMapPlaceholder key value cs) :
    mapPlaceholder? cs = some (key, value) := by
  obtain ⟨hne, hne', hkey, hvalue, opening, closing, hopening, hclosing, rfl⟩ := h
  have hbody := dropBracket_opening ('=' :: (value ++ closing)) hopening hne hkey
  have hclosed : ∀ c ∈ closing.head?, isBasicCapital c = false := by
    rcases hclosing with rfl | rfl
    · simp
    · rintro c ⟨⟩
      decide
  -- The first word stops at the equals sign, the second at the closing dots or at the end.
  obtain ⟨htake, hdrop⟩ := takeWhile_capitals ('=' :: (value ++ closing)) hkey
    (by rintro c ⟨⟩; decide)
  obtain ⟨htake', hdrop'⟩ := takeWhile_capitals closing hvalue hclosed
  simp only [mapPlaceholder?, hbody, htake, hdrop, htake', hdrop']
  rw [if_pos]
  rcases hclosing with rfl | rfl <;> simp [hne, hne']

/-- Reading a map placeholder accepts the grammar (`IsMapPlaceholder`) and nothing else, and gives
its words. -/
theorem mapPlaceholder?_eq_some_iff {cs key value : List Char} :
    mapPlaceholder? cs = some (key, value) ↔ IsMapPlaceholder key value cs :=
  ⟨isMapPlaceholder_of_eq_some, IsMapPlaceholder.eq_some⟩

/-- An item is a repetition exactly when it is a body in brackets with dots behind it
(`repetition`). The body may be empty. -/
theorem isRepetition_iff {cs : List Char} :
    isRepetition cs = true ↔ ∃ body, cs = repetition body := by
  rw [isRepetition, Bool.and_eq_true, List.isPrefixOf_iff_prefix, List.isSuffixOf_iff_suffix]
  constructor
  · rintro ⟨⟨inner, rfl⟩, ⟨front, hfront⟩⟩
    -- The bracket in front is none of the marks at the end.
    cases front with
    | nil => exact absurd hfront (by simp [ellipsis])
    | cons c body =>
      rw [List.cons_append, List.singleton_append, List.cons.injEq] at hfront
      obtain ⟨-, rfl⟩ := hfront
      exact ⟨body, rfl⟩
  · rintro ⟨body, rfl⟩
    exact ⟨⟨body ++ ellipsis, rfl⟩, ⟨'[' :: body, rfl⟩⟩

end WrapperModel.Usage
