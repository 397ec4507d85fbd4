import WrapperModel.Proofs.Naming
import WrapperModel.Proofs.Usage.Segments
import WrapperModel.Text.Alphanumeric

/-!
# `WrapperModel.Proofs.Usage.Names`: the names of items

The name of a map placeholder is made of both its words, the name of any other item of its naming
segment. Neither holds a mark at which segments are cut.

* `namingSegment_mem_or`: the naming segment is a run between segment marks, if there is one.
* `strip_eq_of_isMapPlaceholder`: without brackets a map placeholder is its two words.
* `not_mem_name`: no name holds a colon, a bar or an opening bracket.
* `not_mem_tail_name`: hyphens and underscores stand at the beginning of a name only.
* `name_ne_empty`: an item with a letter or a digit has a name.
-/

set_option autoImplicit false

namespace WrapperModel.Usage

open WrapperModel.Text WrapperModel.Naming

/-! ### Segments -/

/-- The naming segment is one of the runs between segment marks, or empty where there is none. Which
run it is does not matter for the characters of a name. -/
theorem namingSegment_mem_or (cs : List Char) :
    Parameter.namingSegment cs ∈ runsWithout isSegmentMark cs ∨
      (runsWithout isSegmentMark cs = [] ∧ Parameter.namingSegment cs = []) := by
  simp only [Parameter.namingSegment]
  split
  · rename_i segment hfind
    exact .inl (List.mem_of_find?_eq_some hfind)
  · cases runsWithout isSegmentMark cs with
    | nil => exact .inr ⟨rfl, rfl⟩
    | cons first rest => exact .inl List.mem_cons_self

/-- The naming segment holds no segment mark, because the runs between the marks hold none. -/
theorem not_mem_namingSegment {mark : Char} (hmark : isSegmentMark mark = true) (cs : List Char) :
    mark ∉ Parameter.namingSegment cs := by
  intro hmem
  rcases namingSegment_mem_or cs with hrun | ⟨-, hnil⟩
  · exact Bool.false_ne_true ((not_sep_of_mem_runsWithout hrun mark hmem).symm.trans hmark)
  · simp [hnil] at hmem

/-- A letter or a digit is none of the marks that surround placeholders (`isBracketMark`) or cut
segments (`isSegmentMark`). -/
theorem not_mark_of_isAlphanumeric {c : Char} (h : isAlphanumeric c = true) :
    isBracketMark c = false ∧ isSegmentMark c = false := by
  have hmarks : ['[', ']', '.', ':', '@', '/', '(', ')', '|'].any isAlphanumeric = false := by
    decide +kernel
  have hother : c ∉ ['[', ']', '.', ':', '@', '/', '(', ')', '|'] := fun hmem =>
    List.any_eq_false.1 hmarks c hmem h
  simp only [List.mem_cons, not_or] at hother
  simp [isBracketMark, isSegmentMark, hother]

/-! ### Map placeholders -/

/-- The words of a map placeholder and the sign between them hold basic capitals only, so every
other mark can be excluded from its name. -/
theorem IsMapPlaceholder.capital_or {key value cs : List Char} (h : IsMapPlaceholder key value cs) :
    ∀ c ∈ key ++ '=' :: value, isBasicCapital c = true ∨ c = '=' := by
  intro c hc
  rcases List.mem_append.1 hc with hkey | hrest
  · exact .inl (h.key_capital c hkey)
  · rcases List.mem_cons.1 hrest with rfl | hvalue
    · exact .inr rfl
    · exact .inl (h.value_capital c hvalue)

/-- Without the marks around it a map placeholder is its two words and the sign between them:
brackets and dots are marks, capitals are none. -/
theorem strip_eq_of_isMapPlaceholder {key value cs : List Char}
    (h : IsMapPlaceholder key value cs) : strip isBracketMark cs = key ++ '=' :: value := by
  -- What is between the brackets consists of capitals and one equals sign.
  have hkept : ∀ c ∈ key ++ '=' :: value, isBracketMark c = false := by
    have hmarks : ∀ mark ∈ ['[', ']', '.', ':', '@', '/', '(', ')'],
        ¬(isBasicCapital mark = true ∨ mark = '=') := by
      simp [isBasicCapital]
    intro c hc
    rw [isBracketMark, ← Bool.not_eq_true, List.contains_iff_mem]
    exact fun hmem => hmarks c hmem (h.capital_or c hc)
  obtain ⟨opening, closing, hopening, hclosing, rfl⟩ := h.written
  have hbefore : ∀ c ∈ opening, isBracketMark c = true := by
    rcases hopening with rfl | rfl <;> simp [isBracketMark]
  have hbehind : ∀ c ∈ closing, isBracketMark c = true := by
    rcases hclosing with rfl | rfl <;> simp [ellipsis, isBracketMark]
  have hshape : opening ++ (key ++ '=' :: (value ++ closing)) =
      opening ++ ((key ++ '=' :: value) ++ closing) := by
    simp
  rw [hshape, strip_enclosed hbefore hbehind, strip_eq_self hkept]

/-- An item that stands for a map is written as a map placeholder (`IsMap`), whatever the tokens
around it are. -/
theorem isMap_of_isDictionary {tokens : List String} {p : Parameter} (hp : p ∈ parameters tokens)
    (hmap : p.isDictionary = true) : IsMap p.raw.toList := by
  obtain ⟨raw, next, rfl⟩ := exists_eq_readItem hp
  exact isDictionary_readItem.1 hmap

/-! ### Names -/

/-- The name of an item is made of the words of its map placeholder, or of its naming segment. Both
are read off `Parameter.name` here, and nowhere below. -/
theorem name_cases {tokens : List String} {p : Parameter} (hp : p ∈ parameters tokens) :
    (∃ key value, IsMapPlaceholder key value p.raw.toList ∧
      p.name.toList = pascalChars '=' (lowerAfter [] (key ++ '=' :: value))) ∨
    p.name =
      placeholderName
        (String.ofList (Parameter.namingSegment (strip isBracketMark p.raw.toList))) := by
  cases hmap : p.isDictionary with
  | false => exact .inr (by simp [Parameter.name, hmap, trimWhere])
  | true =>
    obtain ⟨key, value, h⟩ := isMap_of_isDictionary hp hmap
    refine .inl ⟨key, value, h, ?_⟩
    simp [Parameter.name, hmap, trimWhere, pascalCase, lowercase, strip_eq_of_isMapPlaceholder h]

/-- The name of a map placeholder holds no mark that has no case, since its words hold capitals only
and `lowerAfter` only changes their case. -/
theorem IsMapPlaceholder.not_mem_name {key value cs : List Char} {mark : Char}
    (h : IsMapPlaceholder key value cs) (hmark : mark ∈ [':', '|', '[', '-', '_']) :
    mark ∉ pascalChars '=' (lowerAfter [] (key ++ '=' :: value)) := by
  have hmarks : ∀ mark ∈ [':', '|', '[', '-', '_'], ¬(isBasicCapital mark = true ∨ mark = '=') := by
    simp [isBasicCapital]
  have hcaseless := isCaseless_of_mem hmark
  intro hmem
  have hlower := mem_of_mem_pascalChars hcaseless hmem
  exact hmarks mark hmark (h.capital_or mark (hcaseless.mem_of_mem_lower hlower))

/-- No name of an item holds a colon, a bar or an opening bracket. These are the marks at which
segments are cut. A map is named from both its words, and is a case of its own. -/
theorem not_mem_name {tokens : List String} {p : Parameter} (hp : p ∈ parameters tokens)
    {mark : Char} (hmark : mark ∈ [':', '|', '[']) : mark ∉ p.name.toList := by
  -- The name comes from the two words of a pair, or from a segment between the marks.
  rcases name_cases hp with ⟨key, value, h, hname⟩ | hname
  · rw [hname]
    exact h.not_mem_name (List.mem_append_left ['-', '_'] hmark)
  · rw [hname]
    intro hmem
    have hcaseless := isCaseless_of_mem (List.mem_append_left ['-', '_'] hmark)
    have hsegment := mem_of_mem_placeholderName hcaseless hmem
    rw [String.toList_ofList] at hsegment
    exact not_mem_namingSegment (List.contains_iff_mem.2 hmark) _ hsegment

/-- Hyphens and underscores stand at the beginning of a name only, because the words behind are run
together at them. -/
theorem not_mem_tail_name {tokens : List String} {p : Parameter} (hp : p ∈ parameters tokens)
    {mark : Char} (hmark : mark ∈ ['-', '_']) : mark ∉ p.name.toList.tail := by
  rcases name_cases hp with ⟨key, value, h, hname⟩ | hname
  · rw [hname]
    exact fun hmem =>
      h.not_mem_name (List.mem_append_right [':', '|', '['] hmark) (List.mem_of_mem_tail hmem)
  · rw [hname]
    exact not_mem_tail_placeholderName hmark _

/-- An item with a letter or a digit has a name: the character is kept when the marks around the
item are taken off, so there is a segment. -/
theorem name_ne_empty {tokens : List String} {p : Parameter} (hp : p ∈ parameters tokens)
    (hletter : ∃ c ∈ p.raw.toList, isAlphanumeric c = true) : p.name ≠ "" := by
  rcases name_cases hp with ⟨key, value, h, hname⟩ | hname
  · rw [ne_eq, ← String.toList_eq_nil_iff, hname]
    exact pascalChars_ne_nil (lowerAfter_ne_nil (by simp))
  · obtain ⟨c, hc, hletter⟩ := hletter
    obtain ⟨hbracket, hsegment⟩ := not_mark_of_isAlphanumeric hletter
    -- Neither the brackets nor the segment marks take the character away.
    have hruns : runsWithout isSegmentMark (strip isBracketMark p.raw.toList) ≠ [] :=
      runsWithout_ne_nil (mem_strip hc hbracket) hsegment
    have hrun := (namingSegment_mem_or _).resolve_right fun hnone => hruns hnone.1
    rw [hname]
    exact placeholderName_ne_empty (by simpa using ne_nil_of_mem_runsWithout hrun)

end WrapperModel.Usage
