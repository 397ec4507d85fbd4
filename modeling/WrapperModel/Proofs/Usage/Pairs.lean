import WrapperModel.Proofs.Naming.Passes
import WrapperModel.Proofs.Usage.Literals
import WrapperModel.Proofs.Usage.Names

/-!
# `WrapperModel.Proofs.Usage.Pairs`: placeholders for pairs, from all sides

Three parts of the reading look at a placeholder such as `[KEY=VALUE...]`. One recognises it and
gives its two words, one takes the marks off and makes a name of the rest, and one puts the words
together again, to see whether the next token repeats them. `parameters_pair` says that the three
agree on the words.

* `IsMapPlaceholder.unique`: a placeholder for pairs has one key and one value.
* `IsMapPlaceholder.name_eq`: its name is made of both words, each in small letters with a capital
  in front.
* `parameters_cons_ne`: a bracketed token that is left behind makes a difference.
* `parameters_pair`: all of this for one token.
-/

set_option autoImplicit false

namespace WrapperModel.Usage

open WrapperModel.Text WrapperModel.Naming

/-! ### The words -/

/-- The two words of a map placeholder can be read off its text, because `mapPlaceholder?` reads
both of them from it. -/
theorem IsMapPlaceholder.unique {key value key' value' cs : List Char}
    (h : IsMapPlaceholder key value cs) (h' : IsMapPlaceholder key' value' cs) :
    key' = key ∧ value' = value := by
  have hwords : some (key', value') = some (key, value) := h'.eq_some.symm.trans h.eq_some
  simpa using hwords

/-- The token that repeats the words of a map placeholder is a map placeholder of these words,
however the first one was bracketed. -/
theorem IsMapPlaceholder.repetition {key value cs : List Char} (h : IsMapPlaceholder key value cs) :
    IsMapPlaceholder key value (repetition (key ++ '=' :: value)) :=
  { h with written := ⟨['['], ellipsis, .inr rfl, .inr rfl, by simp [Usage.repetition]⟩ }

/-! ### Names -/

/-- A basic capital has a code between those of its first and its last, which is how the library
compares characters. -/
theorem bounds_of_isBasicCapital {c : Char} (h : isBasicCapital c = true) :
    65 ≤ c.toNat ∧ c.toNat < 91 := by
  rw [isBasicCapital, Bool.and_eq_true, decide_eq_true_eq, decide_eq_true_eq] at h
  exact ⟨h.1, Nat.lt_succ_of_le h.2⟩

/-- A small letter that was a basic capital is a basic character, and no equals sign. So the case
tables are not needed for it. -/
theorem toLower_of_isBasicCapital {c : Char} (h : isBasicCapital c = true) :
    c.toLower.toNat < 128 ∧ c.toLower ≠ '=' := by
  obtain ⟨hfirst, hlast⟩ := bounds_of_isBasicCapital h
  revert hfirst
  refine of_forall_codes c hlast ?_
  decide

/-- The words of a map placeholder are made small one by one. `lowerAfter` looks at the characters
around only for a letter that they do not have. -/
theorem IsMapPlaceholder.lowerAfter_eq {key value cs : List Char}
    (h : IsMapPlaceholder key value cs) :
    lowerAfter [] (key ++ '=' :: value) =
      key.map Char.toLower ++ '=' :: value.map Char.toLower := by
  have hbasic : ∀ c ∈ key ++ '=' :: value, c.toNat < 128 := by
    intro c hc
    rcases h.capital_or c hc with hcapital | rfl
    · exact Nat.lt_trans (bounds_of_isBasicCapital hcapital).2 (by decide)
    · decide
  rw [lowerAfter_of_basic [] hbasic, List.map_append]
  rfl

/-- A word of capitals in small letters gets a capital like a text of basic characters, so
`capitalizeFirst` and `capitalized` agree on it. -/
theorem capitalizeFirst_lower {word : List Char} (h : ∀ c ∈ word, isBasicCapital c = true) :
    capitalizeFirst (word.map Char.toLower) = capitalized (word.map Char.toLower) := by
  refine capitalizeFirst_of_basic fun d hd => ?_
  obtain ⟨c, hc, rfl⟩ := List.mem_map.1 hd
  exact (toLower_of_isBasicCapital (h c hc)).1

/-- No equals sign comes of making capitals small, so the two words stay apart in `pascalChars`. -/
theorem equals_not_mem_lower {word : List Char} (h : ∀ c ∈ word, isBasicCapital c = true) :
    '=' ∉ word.map Char.toLower := by
  intro hmem
  obtain ⟨c, hc, heq⟩ := List.mem_map.1 hmem
  exact (toLower_of_isBasicCapital (h c hc)).2 heq

/-- The name of a map placeholder is made of both its words, each in small letters with a capital in
front. The sign between them and the brackets around are gone. -/
theorem IsMapPlaceholder.name_eq {key value : List Char} {raw : String}
    (h : IsMapPlaceholder key value raw.toList) :
    (⟨raw, false, true⟩ : Parameter).name =
      String.ofList
        (capitalized (key.map Char.toLower) ++ capitalized (value.map Char.toLower)) := by
  show pascalCase (lowercase (trimWhere isBracketMark raw)) '=' = _
  rw [trimWhere, strip_eq_of_isMapPlaceholder h, pascalCase, lowercase, String.toList_ofList,
    String.toList_ofList, h.lowerAfter_eq,
    pascalChars_pair (by simpa using h.key_ne_nil) (equals_not_mem_lower h.key_capital)
      (equals_not_mem_lower h.value_capital),
    capitalizeFirst_lower h.key_capital, capitalizeFirst_lower h.value_capital]

/-! ### Tokens behind a pair -/

/-- Closing up adds at the end, so the text of an item begins with that of its first token, and with
its bracket. -/
theorem prefix_fst_closeUp (raw : String) (tokens : List String) :
    raw.toList <+: (closeUp raw tokens).1.toList := by
  fun_induction closeUp raw tokens with
  | case1 raw alternative rest ih =>
    refine List.IsPrefix.trans ?_ ih
    rw [String.append_assoc, String.toList_append]
    exact List.prefix_append _ _
  | case2 raw =>
    rw [String.toList_append]
    exact List.prefix_append _ _
  | case3 raw tokens => exact List.prefix_rfl

/-- A map placeholder in brackets is an item of its own, or opens an alternation. Either way the
items are not those of the tokens behind it, so it cannot have been taken without a trace. -/
theorem parameters_cons_ne {key value : List Char} {token : String}
    (h : IsMapPlaceholder key value token.toList) (hopen : token.toList.head? = some '[')
    (rest : List String) : parameters (token :: rest) ≠ parameters rest := by
  by_cases hbar : rest.head? = some "|"
  · obtain ⟨more, rfl⟩ := List.head?_eq_some_iff.1 hbar
    rw [parameters, parameters]
    intro heq
    -- One of the first items begins with the bracket, the other with the bar.
    have hraw : (closeUp token ("|" :: more)).1 = (closeUp "|" more).1 :=
      congrArg Parameter.raw (List.cons.inj heq).1
    obtain ⟨added, hbracket⟩ := prefix_fst_closeUp token ("|" :: more)
    obtain ⟨added', hpipe⟩ := prefix_fst_closeUp "|" more
    obtain ⟨inner, htoken⟩ := List.head?_eq_some_iff.1 hopen
    rw [← hraw, ← hbracket, htoken] at hpipe
    exact absurd (List.cons.inj hpipe).1 (by decide)
  · rw [parameters_cons token hbar, readItem_of_isMap h, hopen]
    exact List.cons_ne_self _ _

/-- A token is read as a pair exactly if it is written as one (`IsMapPlaceholder`), and the pair
says which two words. They make the name of the item, and the token that repeats them is taken with
it exactly if the item does not begin with a bracket itself. -/
theorem parameters_pair (s : String) :
    ∃ p, parameters [s] = [p] ∧ p.raw = s ∧
      (p.isDictionary = true ↔ ∃ key value, IsMapPlaceholder key value s.toList) ∧
      ∀ key value, IsMapPlaceholder key value s.toList →
        (∀ key' value', IsMapPlaceholder key' value' s.toList → key' = key ∧ value' = value) ∧
        p.name = String.ofList
          (capitalized (key.map Char.toLower) ++ capitalized (value.map Char.toLower)) ∧
        ∀ rest, let next := repeated (String.ofList (key ++ '=' :: value))
          (parameters (s :: next :: rest) = p :: parameters rest ↔ s.toList.head? ≠ some '[') ∧
          (s.toList.head? = some '[' →
            parameters (s :: next :: rest) = p :: parameters (next :: rest)) := by
  refine ⟨_, parameters_singleton s, rfl, isDictionary_readItem, fun key value h => ?_⟩
  refine ⟨fun key' value' h' => h.unique h', ?_, fun rest => ?_⟩
  · rw [readItem_of_isMap h]
    exact h.name_eq
  · intro next
    have hnext : next.toList = repetition (key ++ '=' :: value) := by
      rw [toList_repeated, String.toList_ofList]
    have hpair : IsMapPlaceholder key value next.toList := hnext ▸ h.repetition
    have hbar : (next :: rest).head? ≠ some "|" := fun heq =>
      repeated_ne_bar _ (Option.some.inj heq)
    have hleft : parameters (next :: rest) ≠ parameters rest :=
      parameters_cons_ne hpair (by rw [hnext]; rfl) rest
    rw [parameters_cons s hbar, readItem_of_isMap h, readItem_of_isMap h, List.head?_cons,
      List.tail_cons]
    -- Only a pair without a bracket in front takes its repetition.
    by_cases hopen : s.toList.head? = some '['
    · simp [hopen, hleft]
    · simp [hopen, hnext]

/-- The reading of a placeholder that is closed but not opened, and of the token that repeats it.
Such a placeholder takes its repetition, since only an opening bracket keeps it from doing so; here
the brackets do not match, and `IsMapPlaceholder` holds all the same. -/
theorem parameters_pair_labels :
    ∃ p, parameters ["KEY=VALUE...]"] = [p] ∧ p.isDictionary = true ∧ p.name = "KeyValue" ∧
      parameters ["KEY=VALUE...]", "[KEY=VALUE...]", "IMAGE"] = p :: parameters ["IMAGE"] := by
  have hpair : IsMapPlaceholder "KEY".toList "VALUE".toList "KEY=VALUE...]".toList :=
    mapPlaceholder?_eq_some_iff.1 (by decide)
  obtain ⟨p, hone, -, hmap, hwords⟩ := parameters_pair "KEY=VALUE...]"
  obtain ⟨-, hname, htaken⟩ := hwords _ _ hpair
  refine ⟨p, hone, hmap.2 ⟨_, _, hpair⟩, ?_, (htaken ["IMAGE"]).1.2 (by decide)⟩
  rw [hname]
  decide

end WrapperModel.Usage
