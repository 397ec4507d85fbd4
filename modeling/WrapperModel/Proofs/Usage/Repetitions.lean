import WrapperModel.Proofs.Usage.Alternation

/-!
# `WrapperModel.Proofs.Usage.Repetitions`: the two ways of writing a repetition

That an argument may be repeated is written in two ways. Either its token stands in front of the
token `repeated` in brackets, as in `NODE [NODE...]`, or the bracketed token stands alone. In the
first way the item takes the token behind it, in the second it is recognised by its brackets.

* `isMap_repetition_iff`: brackets and dots around a token make no map of what is none.
* `parameters_token_repeated`, `parameters_repeated`: both ways give one item, which is a map
  where the token is a pair and a list otherwise.
* `name_repeated`: both items have the same name.
-/

set_option autoImplicit false

namespace WrapperModel.Usage

open WrapperModel.Text WrapperModel.Naming

/-- The token which says that `token` may be repeated. It is the `repetition` of its characters. -/
def repeated (token : String) : String :=
  "[" ++ token ++ "...]"

/-- Character by character, `repeated` is what `repetition` writes. -/
theorem toList_repeated (token : String) : (repeated token).toList = repetition token.toList := by
  simp [repeated, repetition, ellipsis]

/-- A token that is `repeated` is recognised as a repetition. -/
theorem isRepetition_repeated (token : String) : isRepetition (repeated token).toList = true :=
  isRepetition_iff.2 ⟨token.toList, toList_repeated token⟩

/-- A repetition is no bar, so it is never closed up with what stands in front of it. -/
theorem repeated_ne_bar (token : String) : repeated token ≠ "|" := by
  intro heq
  have hchars := congrArg (fun s => s.toList.head?) heq
  simp [toList_repeated, repetition] at hchars

/-! ### Pairs in brackets -/

/-- What closes a repetition ends with a bracket, so a text without one at its end is none. -/
theorem getLast?_append_ellipsis (cs : List Char) : (cs ++ ellipsis).getLast? = some ']' := by
  rw [List.getLast?_append]
  rfl

/-- A map placeholder without brackets is its two words and the sign between them. It is the form in
which a map is written before its repetition. -/
theorem IsMapPlaceholder.eq_of_bare {key value cs : List Char} (h : IsMapPlaceholder key value cs)
    (hopen : cs.head? ≠ some '[') (hclose : cs.getLast? ≠ some ']') :
    cs = key ++ '=' :: value := by
  obtain ⟨opening, closing, hopening, hclosing, rfl⟩ := h.written
  rcases hopening with rfl | rfl
  · rcases hclosing with rfl | rfl
    · simp
    · -- The marks of a repetition end in a bracket, which is excluded.
      rw [← List.cons_append, ← List.append_assoc, ← List.append_assoc,
        getLast?_append_ellipsis] at hclose
      exact absurd rfl hclose
  · exact absurd rfl hopen

/-- In a repetition that is a map placeholder, the words stand between the brackets. The grammar
would let a bracket stand at one end alone, but a repetition has both. -/
theorem IsMapPlaceholder.eq_of_repetition {key value body : List Char}
    (h : IsMapPlaceholder key value (repetition body)) : body = key ++ '=' :: value := by
  obtain ⟨opening, closing, hopening, hclosing, hwritten⟩ := h.written
  rcases hopening with rfl | rfl
  · -- The first word would begin with the bracket.
    have hfirst : '[' ∈ key := by
      obtain ⟨c, more, hkey⟩ := List.exists_cons_of_ne_nil h.key_ne_nil
      have hhead := congrArg List.head? hwritten
      simp only [repetition, hkey, List.nil_append, List.cons_append, List.head?_cons,
        Option.some.injEq] at hhead
      rw [hkey, ← hhead]
      exact List.mem_cons_self
    exact absurd (h.key_capital _ hfirst) (by decide)
  · have hbody : body ++ ellipsis = key ++ '=' :: (value ++ closing) :=
      (List.cons.inj hwritten).2
    rcases hclosing with rfl | rfl
    · -- The second word would end with the bracket.
      have hlast : ']' ∈ value := by
        have hends := congrArg List.getLast? hbody
        rw [getLast?_append_ellipsis, List.append_nil, List.getLast?_append,
          List.getLast?_cons_of_ne_nil h.value_ne_nil] at hends
        apply List.mem_of_getLast?
        simpa [h.value_ne_nil] using hends.symm
      exact absurd (h.value_capital _ hlast) (by decide)
    · rw [← List.cons_append, ← List.append_assoc, List.append_cancel_right_eq] at hbody
      exact hbody

/-- Between the brackets of a repetition stands a pair exactly when the whole is a map placeholder
(`IsMap`). The text must not have brackets of its own, which would be doubled. -/
theorem isMap_repetition_iff {raw : List Char} (hopen : raw.head? ≠ some '[')
    (hclose : raw.getLast? ≠ some ']') : IsMap (repetition raw) ↔ IsMap raw := by
  constructor
  · rintro ⟨key, value, h⟩
    refine ⟨key, value, { h with written := ⟨[], [], .inl rfl, .inl rfl, ?_⟩ }⟩
    simpa using h.eq_of_repetition
  · rintro ⟨key, value, h⟩
    refine ⟨key, value, { h with written := ⟨['['], ellipsis, .inr rfl, .inr rfl, ?_⟩ }⟩
    simp [repetition, h.eq_of_bare hopen hclose]

/-! ### The items -/

/-- The first item of some tokens, where no bar follows it: `readItem` is asked once, and the rest
is read behind what it takes. -/
theorem parameters_cons (token : String) {behind : List String} (h : behind.head? ≠ some "|") :
    let reading := readItem token.toList behind.head?
    parameters (token :: behind) =
      ⟨token, reading.isList, reading.isDictionary⟩ ::
        parameters (if reading.takesNext then behind.tail else behind) := by
  rw [parameters, closeUp_of_head_ne h]

/-- A token on its own is one item, as `readItem` reads it with nothing behind it. -/
theorem parameters_singleton (token : String) :
    let reading := readItem token.toList none
    parameters [token] = [⟨token, reading.isList, reading.isDictionary⟩] := by
  have hend : ([] : List String).head? ≠ some "|" := by simp
  have hnil : parameters [] = [] := by rw [parameters]
  rw [parameters_cons token hend]
  -- There is nothing to take, so the same is left in either case.
  split <;> exact congrArg _ hnil

/-- A token without brackets in front of its repetition is one item with it: a map where the token
is a pair, else a list. The flags say which, by what `mapPlaceholder?` makes of the token. -/
theorem parameters_token_repeated {token : String} (hopen : token.toList.head? ≠ some '[')
    (hclose : token.toList.getLast? ≠ some ']') :
    parameters [token, repeated token] =
      [⟨token, (mapPlaceholder? token.toList).isNone, (mapPlaceholder? token.toList).isSome⟩] := by
  have hbar : [repeated token].head? ≠ some "|" := by simpa using repeated_ne_bar token
  rw [parameters_cons token hbar, List.head?_cons]
  by_cases hmap : IsMap token.toList
  · obtain ⟨key, value, h⟩ := hmap
    have htaken : (repeated token).toList = repetition (key ++ '=' :: value) := by
      rw [toList_repeated, h.eq_of_bare hopen hclose]
    rw [readItem_of_isMap h, mapPlaceholder?_eq_some_iff.2 h]
    simp [hopen, htaken, parameters]
  · have hrepetition : isRepetition token.toList = false := by
      rw [← Bool.not_eq_true, isRepetition_iff]
      rintro ⟨body, hbody⟩
      rw [hbody] at hopen
      exact hopen rfl
    -- Whatever it is otherwise, the token is followed by its own repetition and takes it.
    rw [readItem_of_not_isMap hmap, not_isMap_iff.1 hmap]
    simp [hrepetition, repeatsAsList, toList_repeated, parameters]

/-- The repetition alone is the same: a map where a pair stands between its brackets, else a list.
Only the text of the item is another than in `parameters_token_repeated`. -/
theorem parameters_repeated {token : String} (hopen : token.toList.head? ≠ some '[')
    (hclose : token.toList.getLast? ≠ some ']') :
    parameters [repeated token] =
      [⟨repeated token, (mapPlaceholder? token.toList).isNone,
        (mapPlaceholder? token.toList).isSome⟩] := by
  rw [parameters_singleton, toList_repeated]
  -- A repetition is that of a pair exactly if the token is one.
  by_cases hmap : IsMap token.toList
  · obtain ⟨key, value, h⟩ := (isMap_repetition_iff hopen hclose).2 hmap
    obtain ⟨key', value', h'⟩ := hmap
    rw [readItem_of_isMap h, mapPlaceholder?_eq_some_iff.2 h']
    rfl
  · have hrepetition : isRepetition (repetition token.toList) = true :=
      isRepetition_iff.2 ⟨_, rfl⟩
    rw [readItem_of_not_isMap (mt (isMap_repetition_iff hopen hclose).1 hmap),
      not_isMap_iff.1 hmap, if_pos hrepetition]
    rfl

/-- The marks around a repetition do not belong to its name, as `Parameter.name` strips them off. -/
theorem name_repeated (token : String) (isList isDictionary : Bool) :
    (⟨repeated token, isList, isDictionary⟩ : Parameter).name =
      (⟨token, isList, isDictionary⟩ : Parameter).name := by
  have hbare : trimWhere isBracketMark (repeated token) = trimWhere isBracketMark token := by
    have hopening : ∀ c ∈ ['['], isBracketMark c = true := by simp [isBracketMark]
    have hclosing : ∀ c ∈ ellipsis, isBracketMark c = true := by simp [ellipsis, isBracketMark]
    -- What makes a repetition of a token are marks, and a name begins behind them.
    have hstrip : strip isBracketMark (['['] ++ (token.toList ++ ellipsis)) =
        strip isBracketMark token.toList :=
      strip_enclosed hopening hclosing token.toList
    rw [trimWhere, toList_repeated]
    exact congrArg String.ofList hstrip
  simp only [Parameter.name, hbare]

end WrapperModel.Usage
