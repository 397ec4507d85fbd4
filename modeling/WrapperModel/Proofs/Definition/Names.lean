import Mathlib.Data.List.Basic
import Mathlib.Data.List.Pairwise
import WrapperModel.Definition.Catalogue
import WrapperModel.Proofs.Text.Bytes

/-!
# `WrapperModel.Proofs.Definition.Names`: names of documents and their order

The names of documents are bytes, of which the part behind the last dot is fixed and the stem in
front of it may be any. So the name of a document is a text exactly if its stem is. What is
skipped goes by the text of the stem and what is stamped by the text of the name; both are the
empty text where there is none.

* `nameText_bytes`, `nameText_of_not_isText`: a name that is a text is taken for that text, and
  every other name for the empty one.
* `stemAndExtension?_eq_some_iff`: a name is cut at its last dot, if there is something in
  front of it.
* `documentStem?_eq_some_iff`: the names of documents are a stem, a dot and an extension.
* `IsDocumentName.isText_iff`: the name of a document is a text if its stem is.
* `IsDocumentName.isSkipped_iff`, `nameText_mem_iff`: which documents are skipped, and how this is
  said of their bytes.
* `pairwise_lt_mergeSort`, `mergeSort_eq_of_perm`: distinct names are sorted into one ascending
  order, in whatever order they are found.
-/

set_option autoImplicit false

namespace WrapperModel.Definition

open WrapperModel.Files (FileName dotByte nameText)
open WrapperModel.Text (bytes bytes_inj bytes_append text?_eq_some_iff text?_eq_none_iff IsText
  isText_of_append)

/-! ### Names as texts -/

/-- `nameText` gives a text for its bytes, so names that are texts are taken for what they are. -/
theorem nameText_bytes (s : String) : nameText (bytes s) = s := by
  rw [nameText, text?_eq_some_iff.2 rfl, Option.getD_some]

/-- `nameText` gives the empty text for bytes that are those of no text. All such names go under
this one text. -/
theorem nameText_of_not_isText {name : FileName} (h : ¬IsText name) : nameText name = "" := by
  rw [nameText, text?_eq_none_iff.2 h, Option.getD_none]

/-- A name that is a text has the bytes of its `nameText`, and no other name has. So nothing is lost
exactly if the name is a text. -/
theorem isText_iff_eq_bytes {name : FileName} : IsText name ↔ name = bytes (nameText name) := by
  constructor
  · rintro ⟨s, rfl⟩
    rw [nameText_bytes]
  · intro h
    exact ⟨_, h⟩

/-! ### Stems and extensions -/

/-- `stemAndExtension?` cuts a name at a dot with something in front of it and no dot behind, and
there is no other cut. -/
theorem stemAndExtension?_eq_some_iff {name stem extension : FileName} :
    stemAndExtension? name = some (stem, extension) ↔
      stem ≠ [] ∧ name = stem ++ dotByte :: extension ∧ dotByte ∉ extension := by
  constructor
  · intro h
    -- The name is cut at its last dot, so it is looked at from behind.
    unfold stemAndExtension? at h
    split at h
    · rename_i dot b before hrest
      obtain ⟨rfl, rfl⟩ := Prod.mk.inj (Option.some.inj h)
      have hdot : dot = dotByte := by
        have := List.head?_dropWhile_not (· ≠ dotByte) name.reverse
        rw [hrest] at this
        simpa using this
      have hname : name.reverse.takeWhile (· ≠ dotByte) ++ dot :: b :: before = name.reverse := by
        rw [← hrest, List.takeWhile_append_dropWhile]
      have hbehind : ∀ d ∈ name.reverse.takeWhile (· ≠ dotByte), (decide (d ≠ dotByte)) = true :=
        List.all_eq_true.1 List.all_takeWhile
      generalize name.reverse.takeWhile (· ≠ dotByte) = behind at hname hbehind
      refine ⟨by simp, ?_, ?_⟩
      · rw [← List.reverse_inj, ← hname, hdot]
        simp
      · intro hmem
        simpa using hbehind dotByte (by simpa using hmem)
    · cases h
  · rintro ⟨hstem, rfl, hextension⟩
    obtain ⟨b, before, hbefore⟩ : ∃ b before, stem.reverse = b :: before :=
      List.exists_cons_of_ne_nil (by simpa using hstem)
    have hstem : (b :: before).reverse = stem := by
      rw [← hbefore, List.reverse_reverse]
    have hreversed : (stem ++ dotByte :: extension).reverse =
        extension.reverse ++ dotByte :: b :: before := by
      rw [List.reverse_append, List.reverse_cons, hbefore, List.append_assoc]
      rfl
    have hkept : ∀ d ∈ extension.reverse, (decide (d ≠ dotByte)) = true := by
      intro d hd
      have hne : d ≠ dotByte := fun h => hextension (h ▸ List.mem_reverse.1 hd)
      simpa using hne
    unfold stemAndExtension?
    rw [hreversed, List.dropWhile_append_of_pos hkept, List.takeWhile_append_of_pos hkept]
    simp [← hstem]

/-- The name is a stem that holds something, a dot, and the extension of a document. The stem is any
bytes; dots in it belong to it. -/
def IsDocumentName (stem name : FileName) : Prop :=
  stem ≠ [] ∧ (name = stem ++ bytes ".yaml" ∨ name = stem ++ bytes ".yml")

instance (stem name : FileName) : Decidable (IsDocumentName stem name) :=
  inferInstanceAs (Decidable (_ ∧ _))

/-- `documentStem?` finds the stems of the names of documents (`IsDocumentName`), and of no other
names. -/
theorem documentStem?_eq_some_iff {name stem : FileName} :
    documentStem? name = some stem ↔ IsDocumentName stem name := by
  have hcut : documentStem? name = some stem ↔ ∃ extension ∈ documentExtensions,
      stemAndExtension? name = some (stem, bytes extension) := by
    unfold documentStem?
    cases stemAndExtension? name with
    | none => simp
    | some parts =>
      obtain ⟨front, behind⟩ := parts
      simp only [Option.ite_none_right_eq_some, List.contains_iff_mem, List.mem_map,
        Option.some.injEq, Prod.mk.injEq]
      constructor
      · rintro ⟨⟨extension, hextension, rfl⟩, rfl⟩
        exact ⟨extension, hextension, rfl, rfl⟩
      · rintro ⟨extension, hextension, rfl, rfl⟩
        exact ⟨⟨extension, hextension, rfl⟩, rfl⟩
  have hyaml : dotByte :: bytes "yaml" = bytes ".yaml" := by decide
  have hyml : dotByte :: bytes "yml" = bytes ".yml" := by decide
  simp only [hcut, stemAndExtension?_eq_some_iff, documentExtensions, List.mem_cons,
    List.not_mem_nil, or_false, exists_eq_or_imp, exists_eq_left, hyaml, hyml]
  -- Neither extension holds a dot.
  constructor
  · rintro (⟨hstem, hname, -⟩ | ⟨hstem, hname, -⟩)
    · exact ⟨hstem, .inl hname⟩
    · exact ⟨hstem, .inr hname⟩
  · rintro ⟨hstem, hname | hname⟩
    · exact .inl ⟨hstem, hname, by decide⟩
    · exact .inr ⟨hstem, hname, by decide⟩

/-- `isDocumentName` holds of the names that have a stem, and of no others. It is the test that the
directory is listed with. -/
theorem isDocumentName_iff {name : FileName} :
    isDocumentName name = true ↔ ∃ stem, IsDocumentName stem name := by
  rw [isDocumentName, Option.isSome_iff_exists]
  simp only [documentStem?_eq_some_iff]

namespace IsDocumentName

variable {stem name : FileName}

/-- A document has one stem, because its name is cut at its last dot, and no extension of a document
holds one. -/
theorem stem_unique {other : FileName} (h : IsDocumentName stem name)
    (hother : IsDocumentName other name) : stem = other :=
  Option.some.inj
    ((documentStem?_eq_some_iff.2 h).symm.trans (documentStem?_eq_some_iff.2 hother))

/-- The name of a document is a text exactly if its stem is. The dot of the extension begins a
character, so what stands in front of it in a text is a text. -/
theorem isText_iff (h : IsDocumentName stem name) : IsText name ↔ IsText stem := by
  obtain ⟨extension, hname, hdot⟩ : ∃ extension, name = stem ++ bytes extension ∧
      ∃ rest, bytes extension = dotByte :: rest := by
    rcases h.2 with hname | hname
    · exact ⟨_, hname, bytes "yaml", by decide⟩
    · exact ⟨_, hname, bytes "yml", by decide⟩
  obtain ⟨rest, hrest⟩ := hdot
  -- The extension is a text, so the rest of the name is one exactly if the whole is.
  constructor
  · intro htext
    rw [hname, hrest] at htext
    exact isText_of_append (by decide) htext
  · rintro ⟨s, rfl⟩
    exact ⟨s ++ extension, by rw [bytes_append, hname]⟩

/-- The text of the stem of a document is its `nameText`, so the empty text for a stem that is
none. -/
theorem stemText?_eq (h : IsDocumentName stem name) : stemText? name = some (nameText stem) := by
  rw [stemText?, documentStem?_eq_some_iff.2 h, Option.map_some]

/-- A document is skipped exactly if the text of its stem is one of those to be skipped. A stem is
never empty, so the empty text stands for stems that are no texts alone. -/
theorem isSkipped_iff (h : IsDocumentName stem name) {skip : List String} :
    isSkipped skip name = true ↔ nameText stem ∈ skip := by
  rw [isSkipped, h.stemText?_eq]
  simp

end IsDocumentName

/-- A stem that is a text is to be skipped exactly if its bytes are those of one of the stems to be
skipped. Of other stems this does not hold: their `nameText` is empty, and the empty text may be in
the list. -/
theorem nameText_mem_iff {stem : FileName} (h : IsText stem) {skip : List String} :
    nameText stem ∈ skip ↔ stem ∈ skip.map bytes := by
  obtain ⟨s, rfl⟩ := h
  rw [nameText_bytes, List.mem_map]
  constructor
  · intro hs
    exact ⟨s, hs, rfl⟩
  · rintro ⟨other, hother, heq⟩
    rwa [← bytes_inj.1 heq]

/-- A stem that is no text is none of those to be skipped, since these are texts. Whether it is
skipped nevertheless is what `isSkipped_iff` says. -/
theorem not_mem_map_bytes {stem : FileName} (h : ¬IsText stem) (skip : List String) :
    stem ∉ skip.map bytes := by
  intro hmem
  obtain ⟨s, -, hs⟩ := List.mem_map.1 hmem
  exact h ⟨s, hs.symm⟩

/-! ### Sorting -/

/-- `List.mergeSort` puts names in the order of their bytes, in which the library compares lists. -/
theorem pairwise_le_mergeSort (names : List FileName) : names.mergeSort.Pairwise (· ≤ ·) := by
  have hsorted : names.mergeSort.Pairwise fun name other => decide (name ≤ other) = true :=
    List.pairwise_mergeSort (by simpa using fun a b c => List.le_trans)
      (by simpa using fun a b => List.le_total a b) names
  exact hsorted.imp of_decide_eq_true

/-- Names that are distinct are sorted by `List.mergeSort` into an ascending order. -/
theorem pairwise_lt_mergeSort {names : List FileName} (h : names.Nodup) :
    names.mergeSort.Pairwise (· < ·) := by
  have hnodup : names.mergeSort.Nodup := (List.mergeSort_perm names _).nodup_iff.2 h
  refine (pairwise_le_mergeSort names).imp₂ ?_ hnodup
  intro name other hle hne
  -- Two names in order are either in strict order or one and the same, and the latter is excluded.
  exact List.not_le.1 fun hge => hne (List.le_antisymm hle hge)

/-- Names in ascending order are the only ones into which the same names can be sorted. Where a
sorted list is known, this says what `List.mergeSort` gives, which does not run in proofs. -/
theorem mergeSort_eq {names sorted : List FileName} (hperm : names.Perm sorted)
    (hsorted : sorted.Pairwise (· ≤ ·)) : names.mergeSort = sorted :=
  List.Perm.eq_of_pairwise (fun _ _ _ _ hle hge => List.le_antisymm hle hge)
    (pairwise_le_mergeSort names) hsorted ((List.mergeSort_perm names _).trans hperm)

/-- Names are sorted alike in whatever order they are found, since the order of bytes is total. -/
theorem mergeSort_eq_of_perm {names others : List FileName} (h : names.Perm others) :
    names.mergeSort = others.mergeSort :=
  mergeSort_eq (h.trans (List.mergeSort_perm others _).symm) (pairwise_le_mergeSort others)

end WrapperModel.Definition
