import WrapperModel.Enumeration.Mining

/-!
# `WrapperModel.Proofs.Enumeration.Mining`: what a description can yield

`mine` reads a list of two literals or more and keeps each at its first place.

* `nodup_eraseDups`, `eraseDups_eq_self`, `eraseDups_concat`: what the library's
  `List.eraseDups` leaves, where there are no repetitions, and where one more item comes last.
* `two_le_length_of_firstLiteralList?`: no shorter list is ever taken.
* `mine_ne_nil`, `nodup_mine`: what is mined is not empty and repeats nothing.
-/

set_option autoImplicit false

namespace WrapperModel.Enumeration

open WrapperModel.Text

/-! ### Items without repetitions -/

section
variable {α : Type} [DecidableEq α]

/-- `List.eraseDups` leaves no item twice. The induction is on the length of the list, because
behind the first item it goes on with the items that differ from it and not with the tail. -/
theorem nodup_eraseDups (xs : List α) : xs.eraseDups.Nodup := by
  cases xs with
  | nil => exact List.nodup_nil
  | cons x rest =>
    -- The library recurses on what is left without the first, which is no longer than the rest.
    have hshorter : (rest.filter fun y => !y == x).length < rest.length + 1 :=
      Nat.lt_add_one_of_le (List.length_filter_le _ rest)
    rw [List.eraseDups_cons, List.nodup_cons, List.mem_eraseDups]
    exact ⟨by simp, nodup_eraseDups _⟩
termination_by xs.length

/-- `List.eraseDups` keeps a list as it is whose items all differ. -/
theorem eraseDups_eq_self {xs : List α} (h : xs.Nodup) : xs.eraseDups = xs := by
  induction xs with
  | nil => rfl
  | cons x rest ih =>
    obtain ⟨hx, hrest⟩ := List.nodup_cons.1 h
    have hkept : (rest.filter fun y => !y == x) = rest := by
      rw [List.filter_eq_self]
      intro y hy
      have hne : y ≠ x := fun heq => hx (heq ▸ hy)
      simpa using hne
    rw [List.eraseDups_cons, hkept, ih hrest]

/-- An item at the end of a list is kept by `List.eraseDups` exactly when it did not stand there
before. So a list that grows at its end only gains items at the end of what is kept of it. -/
theorem eraseDups_concat (xs : List α) (x : α) :
    (xs ++ [x]).eraseDups = if x ∈ xs then xs.eraseDups else xs.eraseDups ++ [x] := by
  rw [List.eraseDups_append]
  split
  · rename_i h
    have hnone : [x].removeAll xs = [] := by simp [List.removeAll, h]
    rw [hnone, List.eraseDups_nil, List.append_nil]
  · rename_i h
    have hone : [x].removeAll xs = [x] := by simp [List.removeAll, h]
    rw [hone]
    rfl

end

/-! ### Lists in descriptions -/

/-- Reading the items one by one with `mapM` keeps their number, if it succeeds at all. -/
theorem length_of_mapM {α β : Type} {read : α → Option β} {xs : List α} {ys : List β}
    (h : xs.mapM read = some ys) : ys.length = xs.length := by
  induction xs generalizing ys with
  | nil =>
    rw [List.mapM_nil] at h
    cases h
    rfl
  | cons x xs ih =>
    rw [List.mapM_cons] at h
    obtain ⟨y, -, h⟩ := Option.bind_eq_some_iff.1 h
    obtain ⟨more, hmore, h⟩ := Option.bind_eq_some_iff.1 h
    cases h
    simp [ih hmore]

/-- The list that was opened has two literals at least, as many as it has pieces between bars. -/
theorem two_le_length_of_literalList? {cs : List Char} {literals : List (List Char)}
    (h : literalList? cs = some literals) : 2 ≤ literals.length := by
  simp only [literalList?] at h
  split at h
  · rename_i hcond
    simp only [Bool.and_eq_true, decide_eq_true_eq] at hcond
    rw [length_of_mapM h]
    exact hcond.2
  · simp at h

/-- The list that begins first has two literals at least, since `literalList?` gives no shorter one
wherever it is asked. -/
theorem two_le_length_of_firstLiteralList? {cs : List Char} {literals : List (List Char)}
    (h : firstLiteralList? cs = some literals) : 2 ≤ literals.length := by
  induction cs with
  | nil => simp [firstLiteralList?] at h
  | cons c rest ih =>
    rw [firstLiteralList?] at h
    split at h
    · rename_i found hfound
      cases h
      split at hfound
      · exact two_le_length_of_literalList? hfound
      · simp at hfound
    · exact ih h

/-- What a description lists is not empty, so no enumeration that is built is without values. Taking
repetitions away leaves one value at least. -/
theorem mine_ne_nil {description : String} {values : List String}
    (h : mine description = some values) : values ≠ [] := by
  obtain ⟨literals, hliterals, rfl⟩ := Option.map_eq_some_iff.1 h
  have hlength := two_le_length_of_firstLiteralList? hliterals
  cases literals with
  | nil => simp at hlength
  | cons literal more => simp [List.eraseDups_cons]

/-- What a description lists repeats no value: `mine` takes repetitions away. -/
theorem nodup_mine {description : String} {values : List String}
    (h : mine description = some values) : values.Nodup := by
  obtain ⟨literals, -, rfl⟩ := Option.map_eq_some_iff.1 h
  exact nodup_eraseDups _

end WrapperModel.Enumeration
