import WrapperModel.Assembly
import WrapperModel.Proofs.Usage.Names

/-!
# `WrapperModel.Proofs.Assembly.PlaceholderNames`: the names of placeholders' properties

The property of a placeholder has the placeholder's name, or its plural. A plural adds letters
alone, so the marks of both are the same.

* `not_mem_placeholderPropertyName`: the name of such a property holds no colon, bar or opening
  bracket.
* `isUsableName_of_letter`: a placeholder with a letter or a digit has a usable name, and so has
  its property.
-/

set_option autoImplicit false

namespace WrapperModel.Assembly

open WrapperModel.Text WrapperModel.Naming WrapperModel.Usage
open WrapperModel.Definition (CommandDefinition)

/-- A name that can be used for a property: it is not empty, holds none of the marks at which a
placeholder is cut, and a hyphen or an underscore stands in it at most in front, where the words of
a name are not run together. -/
structure IsUsableName (name : String) : Prop where
  ne_empty : name ≠ ""
  not_mem : ∀ mark ∈ [':', '|', '['], mark ∉ name.toList
  not_mem_tail : ∀ mark ∈ ['-', '_'], mark ∉ name.toList.tail

/-- The plural of a usable name is usable: it adds letters at the end, and where it takes one off
the name has others. -/
theorem IsUsableName.plural {name : String} (h : IsUsableName name) :
    IsUsableName (Naming.plural name) := by
  -- A plural adds letters only, so no mark can come in with it.
  have hletters : ∀ mark ∈ [':', '|', '[', '-', '_'], mark ∉ ['s', 'e', 'i'] := by simp
  have hchars : (Naming.plural name).toList = pluralChars name.toList := String.toList_ofList
  refine ⟨?_, ?_, ?_⟩
  · rw [ne_eq, ← String.toList_eq_nil_iff, hchars]
    exact pluralChars_ne_nil (mt String.toList_eq_nil_iff.1 h.ne_empty)
  · intro mark hmark hmem
    have hother := hletters mark (List.mem_append_left ['-', '_'] hmark)
    exact h.not_mem mark hmark (mem_of_mem_pluralChars hother (hchars ▸ hmem))
  · intro mark hmark hmem
    have hother := hletters mark (List.mem_append_right [':', '|', '['] hmark)
    exact h.not_mem_tail mark hmark (mem_tail_of_mem_tail_pluralChars hother (hchars ▸ hmem))

/-- The name of a placeholder's property holds no colon, bar or opening bracket, also where it is
empty. Nothing is asked of the tokens. -/
theorem not_mem_placeholderPropertyName {tokens : List String} {p : Parameter}
    (hp : p ∈ parameters tokens) {mark : Char} (hmark : mark ∈ [':', '|', '[']) :
    mark ∉ (placeholderPropertyName p).toList := by
  have hletters : ∀ mark ∈ [':', '|', '['], mark ∉ ['s', 'e', 'i'] := by simp
  unfold placeholderPropertyName
  split
  · intro hmem
    rw [Naming.plural, String.toList_ofList] at hmem
    exact not_mem_name hp hmark (mem_of_mem_pluralChars (hletters mark hmark) hmem)
  · exact not_mem_name hp hmark

/-- An item of a usage template that holds a letter or a digit has a usable name (`IsUsableName`),
however its brackets and separators stand, and so has the `placeholderProperty` that is made of it,
in whatever command. Without a letter or digit there may be nothing left of the item once its marks
are gone. -/
theorem isUsableName_of_letter {template : String} {p : Parameter} (hp : p ∈ ofTemplate template)
    (hletter : ∃ c ∈ p.raw.toList, isAlphanumeric c = true) :
    IsUsableName p.name ∧
      ∀ (profile : ToolProfile) (d : CommandDefinition),
        IsUsableName (placeholderProperty profile d p).name := by
  have hname : IsUsableName p.name :=
    ⟨name_ne_empty hp hletter, fun _ => not_mem_name hp, fun _ => not_mem_tail_name hp⟩
  refine ⟨hname, fun profile d => ?_⟩
  show IsUsableName (placeholderPropertyName p)
  unfold placeholderPropertyName
  -- A list is named in the plural, everything else by the name itself.
  split
  · exact hname.plural
  · exact hname

/-- The names of a list with an empty alternative in front, an open one behind, and hyphens and
underscores of all places. The hyphen in front of the first letter stays in the name, which is
usable nevertheless (`IsUsableName`). -/
theorem isUsableName_of_letter_mixed :
    ∃ p ∈ ofTemplate "docker tag [|:-_sourCE_i-mage|...]", p.isArgument = true ∧
      p.name = "-SourceIMage" ∧ placeholderPropertyName p = "-SourceIMages" ∧
      IsUsableName "-SourceIMage" ∧ IsUsableName "-SourceIMages" := by
  have hp : ⟨"[|:-_sourCE_i-mage|...]", true, false⟩ ∈
      ofTemplate "docker tag [|:-_sourCE_i-mage|...]" := by decide +kernel
  have hname : (⟨"[|:-_sourCE_i-mage|...]", true, false⟩ : Parameter).name = "-SourceIMage" := by
    decide +kernel
  have hplural : placeholderPropertyName ⟨"[|:-_sourCE_i-mage|...]", true, false⟩ =
      "-SourceIMages" := by decide +kernel
  obtain ⟨husable, hproperty⟩ := isUsableName_of_letter hp ⟨'a', by decide, by decide +kernel⟩
  exact ⟨_, hp, by decide +kernel, hname, hplural, hname ▸ husable,
    hplural ▸ hproperty {} { command := "docker tag" }⟩

end WrapperModel.Assembly
