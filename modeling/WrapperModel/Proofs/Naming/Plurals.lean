import WrapperModel.Proofs.Naming

/-!
# `WrapperModel.Proofs.Naming.Plurals`: plurals and plurals of plurals

`pluralRule` asks five questions about the end of a word, in a fixed order, and the first that is
answered with yes decides. `RuleFits` says for each answer what is known of the word then, and
`ruleFits_pluralRule` that the rule of a word fits it. The facts below go through these cases.

A plural ends in an `s`, so what is made of it in its turn depends on the letters before that `s`
alone (`pluralRule_concat_s`). A plural in `es` or `ies` is left as it is. Where only an `s` was
added, the outcome may look like a singular word in `s`: `Menu` becomes `Menus`, but `Bu` becomes
`Bus`, which becomes `Buses`.

* `pluralChars_eq_self_iff`: a word stays as it is if its rule says so.
* `getLast?_pluralChars`: how a plural ends.
* `prefix_pluralChars`: how a plural begins.
* `pluralRule_pluralChars_iff`: when a plural is left as it is.
* `plural_shape`: the three together.
-/

set_option autoImplicit false

namespace WrapperModel.Naming

open WrapperModel.Text

/-! ### Endings -/

/-- A word that has an ending has its last letter. -/
theorem getLast?_of_suffix {ending word : List Char} {c : Char} (h : ending <:+ word)
    (hlast : ending.getLast? = some c) : word.getLast? = some c := by
  obtain ⟨front, rfl⟩ := h
  rw [List.getLast?_append, hlast]
  rfl

/-- Where one of these stands before an `s`, the word is singular: they are the `singularEndings`
without their `s`, except for the double one. -/
def singularStems : List String :=
  ["alia", "statu", "bu"]

/-- A word in `s` is singular exactly if a singular stem or another `s` stands before the `s`. It
moves the question from `singularEndings` to what stands before the last letter. -/
theorem exists_singularEndings_iff (stem : List Char) :
    (∃ ending ∈ singularEndings, ending <:+ stem ++ ['s']) ↔
      ∃ singular ∈ singularStems ++ ["s"], singular.toList <:+ stem := by
  have hendings : singularEndings =
      (singularStems ++ ["s"]).map fun singular => singular.toList ++ ['s'] := rfl
  constructor
  · rintro ⟨ending, hlisted, hends⟩
    obtain ⟨singular, hsingular, rfl⟩ := List.mem_map.1 (hendings ▸ hlisted)
    exact ⟨singular, hsingular, List.suffix_append_self_iff.1 hends⟩
  · rintro ⟨singular, hsingular, hends⟩
    exact ⟨_, hendings ▸ List.mem_map_of_mem hsingular, List.suffix_append_self_iff.2 hends⟩

/-- A word that ends in anything but `a` or `u` ends in no singular stem. The letter of an ending is
enough to tell, so the endings need not be compared. -/
theorem not_singularStem_suffix {word : List Char} {c : Char} (hlast : word.getLast? = some c)
    (hc : c ∉ ['a', 'u']) : ∀ singular ∈ singularStems, ¬ singular.toList <:+ word := by
  have hstems : ∀ singular ∈ singularStems, singular.toList.getLast? ∈ ['a', 'u'].map some := by
    decide
  intro singular hsingular hends
  obtain ⟨d, hd, hstem⟩ := List.mem_map.1 (hstems singular hsingular)
  obtain rfl := Option.some.inj ((getLast?_of_suffix hends hstem.symm).symm.trans hlast)
  exact hc hd

/-- The endings of singular words in `s` end in it (`singularEndings`). -/
theorem getLast?_of_singular {word ending : List Char} (hlisted : ending ∈ singularEndings)
    (hends : ending <:+ word) : word.getLast? = some 's' := by
  have hlast : ∀ ending ∈ singularEndings, ending.getLast? = some 's' := by
    decide
  exact getLast?_of_suffix hends (hlast ending hlisted)

/-- The endings that take `es` end in three letters, `x`, `z` and `h` (`sibilantEndings`). -/
theorem getLast?_of_sibilant {word ending : List Char} (hlisted : ending ∈ sibilantEndings)
    (hends : ending <:+ word) : ∃ c ∈ ['x', 'z', 'h'], word.getLast? = some c := by
  have hlast : ∀ ending ∈ sibilantEndings, ending.getLast? ∈ ['x', 'z', 'h'].map some := by
    decide
  obtain ⟨c, hc, hending⟩ := List.mem_map.1 (hlast ending hlisted)
  exact ⟨c, hc, getLast?_of_suffix hends hending.symm⟩

/-- The word ends in `y`, in either case, behind a character that is no vowel in either case. A
digit or a mark counts as such a character, too, but something has to stand there. -/
def EndsInConsonantY (cs : List Char) : Prop :=
  ∃ stem before last, cs = stem ++ [before, last] ∧ last ∈ ['y', 'Y'] ∧
    before ∉ "aeiouAEIOU".toList

/-- What `endsInConsonantY` asks of a word that is written backwards and in small letters. -/
theorem endsInConsonantY_eq_true_iff {backwards : List Char} :
    endsInConsonantY backwards = true ↔
      ∃ before rest, backwards = 'y' :: before :: rest ∧ before ∉ ['a', 'e', 'i', 'o', 'u'] := by
  unfold endsInConsonantY
  split
  · rename_i before rest
    simp
  · rename_i hother
    refine iff_of_false Bool.false_ne_true ?_
    rintro ⟨before, rest, rfl, -⟩
    exact hother before rest rfl

/-- A character is a vowel in lower case exactly if it is one in either case, since nothing but a
capital vowel is made a small one. -/
theorem toLower_mem_vowels_iff (c : Char) :
    c.toLower ∈ ['a', 'e', 'i', 'o', 'u'] ↔ c ∈ "aeiouAEIOU".toList := by
  -- The list of ten is that of five in both cases, in another order.
  have heither : "aeiouAEIOU".toList.Perm
      (['a', 'e', 'i', 'o', 'u'].flatMap fun vowel => [vowel, vowel.toUpper]) := by
    decide
  rw [heither.mem_iff, List.mem_flatMap]
  have hsought : ∀ vowel ∈ ['a', 'e', 'i', 'o', 'u'], vowel ∈ soughtChars :=
    forall_mem_of_all (by decide)
  constructor
  · intro h
    exact ⟨c.toLower, h, by simpa using (toLower_eq_iff (hsought _ h)).1 rfl⟩
  · rintro ⟨vowel, hvowel, hc⟩
    have hlower : c.toLower = vowel := (toLower_eq_iff (hsought vowel hvowel)).2 (by simpa using hc)
    exact hlower ▸ hvowel

/-- The question about a word in small letters is one about the word in either case,
`EndsInConsonantY`. -/
theorem endsInConsonantY_iff (cs : List Char) :
    endsInConsonantY (cs.map Char.toLower).reverse = true ↔ EndsInConsonantY cs := by
  have hy : ∀ c : Char, c.toLower = 'y' ↔ c ∈ ['y', 'Y'] := by
    intro c
    rw [toLower_eq_iff (by decide), List.mem_cons, List.mem_singleton]
    rfl
  rw [endsInConsonantY_eq_true_iff, ← List.map_reverse]
  -- Both ways the word is taken apart from its end, letter by letter.
  constructor
  · rintro ⟨before', rest', hmap, hvowel⟩
    obtain ⟨last, more, hreverse, hlast, hmore⟩ := List.map_eq_cons_iff.1 hmap
    obtain ⟨before, rest, rfl, rfl, -⟩ := List.map_eq_cons_iff.1 hmore
    refine ⟨rest.reverse, before, last, ?_, (hy last).1 hlast,
      mt (toLower_mem_vowels_iff before).2 hvowel⟩
    rw [← List.reverse_reverse cs, hreverse]
    simp
  · rintro ⟨stem, before, last, rfl, hlast, hvowel⟩
    refine ⟨before.toLower, stem.reverse.map Char.toLower, ?_,
      mt (toLower_mem_vowels_iff before).1 hvowel⟩
    simp [(hy last).2 hlast]

/-- A word that `EndsInConsonantY` ends in `y` in small letters, so none of the other endings is its
own. -/
theorem EndsInConsonantY.getLast?_lower {cs : List Char} (h : EndsInConsonantY cs) :
    (cs.map Char.toLower).getLast? = some 'y' := by
  obtain ⟨before, rest, hreverse, -⟩ :=
    endsInConsonantY_eq_true_iff.1 ((endsInConsonantY_iff cs).2 h)
  rw [← List.head?_reverse, hreverse, List.head?_cons]

/-! ### Rules -/

/-- What is known of a word in small letters when a rule was chosen for it, one constructor for each
way to the rule. Two rules have two ways, so a constructor tells more than the rule; the negations
are those that later facts need. -/
inductive RuleFits (lower : List Char) : PluralRule → Prop
  | empty (nothing : lower = []) : RuleFits lower .unchanged
  | singular {ending : List Char} (listed : ending ∈ singularEndings) (ends : ending <:+ lower) :
      RuleFits lower .addEs
  | plural (ends : ['s'] <:+ lower) (others : ∀ ending ∈ singularEndings, ¬ ending <:+ lower) :
      RuleFits lower .unchanged
  | sibilant {ending : List Char} (listed : ending ∈ sibilantEndings) (ends : ending <:+ lower) :
      RuleFits lower .addEs
  | consonantY (ends : endsInConsonantY lower.reverse = true) : RuleFits lower .yToIes
  | other (something : lower ≠ []) (noS : ¬ ['s'] <:+ lower)
      (noY : ¬ endsInConsonantY lower.reverse = true) : RuleFits lower .addS

/-- The rule of a word fits it (`RuleFits`). The questions of `pluralRule` are gone through here,
once, and nowhere below. -/
theorem ruleFits_pluralRule (lower : List Char) : RuleFits lower (pluralRule lower) := by
  unfold pluralRule
  simp only [List.any_eq_true, List.isSuffixOf_iff_suffix]
  -- The rules in the order in which they are tried, each with what the others left over.
  split
  · exact .empty (List.isEmpty_iff.1 ‹_›)
  · rename_i hsome
    split
    · obtain ⟨ending, hlisted, hends⟩ := ‹∃ ending ∈ singularEndings, _›
      exact .singular hlisted hends
    · rename_i hothers
      split
      · exact .plural ‹_› fun ending hlisted hends => hothers ⟨ending, hlisted, hends⟩
      · split
        · obtain ⟨ending, hlisted, hends⟩ := ‹∃ ending ∈ sibilantEndings, _›
          exact .sibilant hlisted hends
        · split
          · exact .consonantY ‹_›
          · exact .other (fun hnil => hsome (List.isEmpty_iff.2 hnil)) ‹_› ‹_›

/-- Every rule but one makes every word longer, so a word that is left as it is had that rule. -/
theorem PluralRule.apply_eq_self_iff {rule : PluralRule} {cs : List Char} :
    rule.apply cs = cs ↔ rule = .unchanged := by
  -- Every other rule makes the word longer, even the one that drops a letter.
  have hlonger : rule ≠ .unchanged → cs.length < (rule.apply cs).length := by
    intro hrule
    cases rule with
    | unchanged => exact absurd rfl hrule
    | addS => simp [PluralRule.apply]
    | addEs => simp [PluralRule.apply]
    | yToIes =>
      simp only [PluralRule.apply, List.length_append, List.length_dropLast, List.length_cons,
        List.length_nil]
      omega
  constructor
  · intro hsame
    refine Decidable.byContradiction fun hrule => ?_
    exact absurd (congrArg List.length hsame) (Nat.ne_of_gt (hlonger hrule))
  · rintro rfl
    rfl

/-- A word is its own plural exactly if its rule leaves it as it is
(`PluralRule.apply_eq_self_iff`). -/
theorem pluralChars_eq_self_iff {cs : List Char} :
    pluralChars cs = cs ↔ pluralRule (cs.map Char.toLower) = .unchanged :=
  PluralRule.apply_eq_self_iff

/-! ### Plurals of plurals -/

/-- A word in `s` is a plural unless a singular stem or another `s` stands before the `s`. No other
question of `pluralRule` is reached by such a word. -/
theorem pluralRule_concat_s (stem : List Char) :
    pluralRule (stem ++ ['s']) = .unchanged ↔
      ∀ singular ∈ singularStems ++ ["s"], ¬ singular.toList <:+ stem := by
  unfold pluralRule
  simp only [List.any_eq_true, List.isSuffixOf_iff_suffix, exists_singularEndings_iff]
  rw [if_neg (by simp)]
  split
  · rename_i hsingular
    obtain ⟨singular, hlisted, hends⟩ := hsingular
    exact iff_of_false nofun fun hnone => hnone singular hlisted hends
  · rename_i hnone
    -- The word ends in the letter, so a rule is found no later than here.
    rw [if_pos (List.suffix_append stem ['s'])]
    exact iff_of_true rfl fun singular hlisted hends => hnone ⟨singular, hlisted, hends⟩

/-- A word in `es` is a plural: no singular stem ends in `e`. So the plurals that `es` makes stay as
they are. -/
theorem pluralRule_append_es (stem : List Char) :
    pluralRule (stem ++ ['e', 's']) = .unchanged := by
  have hlast : (stem ++ ['e']).getLast? = some 'e' := List.getLast?_concat
  rw [← List.singleton_append, ← List.append_assoc, pluralRule_concat_s]
  -- None of the stems ends in that letter.
  intro singular hsingular
  rcases List.mem_append.1 hsingular with hstem | hs
  · exact not_singularStem_suffix hlast (by decide) singular hstem
  · obtain rfl := List.mem_singleton.1 hs
    intro hends
    exact absurd ((getLast?_of_suffix hends rfl).symm.trans hlast) (by decide)

/-- A plural is left as it is, unless the word it was made of ends like a singular word in `s` that
has lost its `s` (`singularStems`). -/
theorem pluralRule_pluralChars_iff (cs : List Char) :
    pluralRule ((pluralChars cs).map Char.toLower) = .unchanged ↔
      ∀ singular ∈ singularStems, ¬ singular.toList <:+ cs.map Char.toLower := by
  have hfits := ruleFits_pluralRule (cs.map Char.toLower)
  have hes : ∀ word : List Char,
      pluralRule ((word ++ ['e', 's']).map Char.toLower) = .unchanged := fun word => by
    rw [List.map_append]
    exact pluralRule_append_es _
  rw [pluralChars]
  generalize hrule : pluralRule (cs.map Char.toLower) = rule at hfits
  cases hfits with
  | empty nothing =>
    rw [nothing]
    exact iff_of_true (nothing ▸ hrule) (by decide)
  | singular listed ends =>
    exact iff_of_true (hes cs) (not_singularStem_suffix (getLast?_of_singular listed ends)
      (by decide))
  | plural ends others =>
    exact iff_of_true hrule (not_singularStem_suffix (getLast?_of_suffix ends rfl) (by decide))
  | sibilant listed ends =>
    have hapart : ∀ c ∈ ['x', 'z', 'h'], c ∉ ['a', 'u'] :=
      forall_mem_of_all (by decide)
    obtain ⟨c, hc, hlast⟩ := getLast?_of_sibilant listed ends
    exact iff_of_true (hes cs) (not_singularStem_suffix hlast (hapart c hc))
  | consonantY ends =>
    have hlast := ((endsInConsonantY_iff cs).1 ends).getLast?_lower
    refine iff_of_true ?_ (not_singularStem_suffix hlast (by decide))
    have hies : PluralRule.yToIes.apply cs = (cs.dropLast ++ ['i']) ++ ['e', 's'] := by
      simp [PluralRule.apply]
    rw [hies]
    exact hes _
  | other something noS noY =>
    -- The plural is the word with an `s`, and the letters before that `s` are the word.
    have hs : (PluralRule.addS.apply cs).map Char.toLower = cs.map Char.toLower ++ ['s'] := by
      rw [PluralRule.apply, List.map_append]
      rfl
    rw [hs, pluralRule_concat_s, List.forall_mem_append]
    refine and_iff_left ?_
    intro singular hsingular
    obtain rfl := List.mem_singleton.1 hsingular
    exact noS

/-! ### Ends and beginnings -/

/-- Every plural ends in `s`, in either case: the capital comes from a word in capitals that is its
own plural. The empty word is left out, since its plural is empty. -/
theorem getLast?_pluralChars {cs : List Char} (hne : cs ≠ []) :
    ∃ c ∈ ['s', 'S'], (pluralChars cs).getLast? = some c := by
  have hfits := ruleFits_pluralRule (cs.map Char.toLower)
  rw [pluralChars]
  generalize pluralRule (cs.map Char.toLower) = rule at hfits
  cases hfits with
  | empty nothing => exact absurd (List.map_eq_nil_iff.1 nothing) hne
  -- The word is a plural as it stands, so its own last letter counts, in either case.
  | plural ends others =>
    have hlast := getLast?_of_suffix ends rfl
    rw [List.getLast?_map] at hlast
    obtain ⟨c, hc, hlower⟩ := Option.map_eq_some_iff.1 hlast
    exact ⟨c, by simpa using (toLower_eq_iff (by decide)).1 hlower, hc⟩
  | singular listed ends => exact ⟨'s', by simp, by simp [PluralRule.apply]⟩
  | sibilant listed ends => exact ⟨'s', by simp, by simp [PluralRule.apply]⟩
  | consonantY ends => exact ⟨'s', by simp, by simp [PluralRule.apply]⟩
  | other something noS noY => exact ⟨'s', by simp, by simp [PluralRule.apply]⟩

/-- A plural begins with the word. Only a `y` behind a character that is no vowel is dropped, and
then the plural begins with what is left. -/
theorem prefix_pluralChars (cs : List Char) :
    ¬ EndsInConsonantY cs ∧ cs <+: pluralChars cs ∨
      EndsInConsonantY cs ∧ cs.dropLast <+: pluralChars cs := by
  have hfits := ruleFits_pluralRule (cs.map Char.toLower)
  -- Only a word that ends in the letter in question can lose it.
  have hkept : ∀ c, (cs.map Char.toLower).getLast? = some c → c ≠ 'y' → ¬ EndsInConsonantY cs :=
    fun c hlast hc h => hc (Option.some.inj (hlast.symm.trans h.getLast?_lower))
  rw [pluralChars]
  generalize pluralRule (cs.map Char.toLower) = rule at hfits
  cases hfits with
  | empty nothing =>
    refine .inl ⟨fun h => ?_, List.prefix_rfl⟩
    exact absurd (nothing ▸ h.getLast?_lower) (by simp)
  | singular listed ends =>
    exact .inl ⟨hkept 's' (getLast?_of_singular listed ends) (by decide), List.prefix_append _ _⟩
  | plural ends others =>
    exact .inl ⟨hkept 's' (getLast?_of_suffix ends rfl) (by decide), List.prefix_rfl⟩
  | sibilant listed ends =>
    obtain ⟨c, hc, hlast⟩ := getLast?_of_sibilant listed ends
    refine .inl ⟨hkept c hlast ?_, List.prefix_append _ _⟩
    rintro rfl
    exact absurd hc (by decide)
  | consonantY ends => exact .inr ⟨(endsInConsonantY_iff cs).1 ends, List.prefix_append _ _⟩
  | other something noS noY =>
    exact .inl ⟨mt (endsInConsonantY_iff cs).2 noY, List.prefix_append _ _⟩

/-- The shape of plurals. Nothing but the empty name has an empty plural, and any other plural ends
in `s`. It begins with the name, less its last letter if that is a `y` behind a character that is no
vowel (`EndsInConsonantY`). A plural is its own plural unless the name ends in `alia`, `statu` or
`bu`, which an `s` makes the singular words in `alias`, `status` and `bus`. -/
theorem plural_shape (s : String) :
    (plural s = "" ↔ s = "") ∧
      (s ≠ "" → ∃ c ∈ ['s', 'S'], (plural s).toList.getLast? = some c) ∧
      (¬ EndsInConsonantY s.toList ∧ s.toList <+: (plural s).toList ∨
        EndsInConsonantY s.toList ∧ s.toList.dropLast <+: (plural s).toList) ∧
      (plural (plural s) = plural s ↔
        ∀ ending ∈ ["alia", "statu", "bu"], endsWith ending (lowerAscii s) = false) := by
  have hplural : ∀ s : String, (plural s).toList = pluralChars s.toList := fun s =>
    String.toList_ofList
  have hne : s ≠ "" → s.toList ≠ [] := mt String.toList_eq_nil_iff.1
  refine ⟨⟨fun hempty => ?_, ?_⟩, fun hs => ?_, ?_, ?_⟩
  · -- a plural that is empty: it would be one of a word that holds something
    refine Decidable.byContradiction fun hs => pluralChars_ne_nil (hne hs) ?_
    rw [← hplural, hempty]
    rfl
  · rintro rfl
    decide
  · rw [hplural]
    exact getLast?_pluralChars (hne hs)
  · rw [hplural]
    exact prefix_pluralChars s.toList
  · rw [← String.toList_inj, hplural, hplural, pluralChars_eq_self_iff, pluralRule_pluralChars_iff]
    simp only [endsWith, lowerAscii, String.toList_ofList, ← Bool.not_eq_true,
      List.isSuffixOf_iff_suffix, singularStems]

/-- One plural that is its own, and one that is taken for a singular word in its turn. -/
example : plural "PolicY" = "Policies" ∧ plural "Policies" = "Policies" ∧
    plural "Bu" = "Bus" ∧ plural "Bus" = "Buses" := by
  decide

end WrapperModel.Naming
