import WrapperModel.Model.Validation

/-!
# `WrapperModel.Proofs.Model.Validation`: what a finding tells

The findings of a tool come from its enumerations, from the properties of its classes and
from its tasks. Each part has one lemma that says where a finding can come from, and, where
the part can be free of findings, one that says when it is.

* `repeats_eq_nil_iff`: nothing repeats exactly when the items are distinct.
* `Enumeration.findings_eq_nil_iff`: an enumeration of distinct values yields no finding.
* `mem_propertyFindings`, `propertyFindings_eq_nil_iff`: the properties of a class.
* `mem_taskFindings`: the tasks.
-/

set_option autoImplicit false

namespace WrapperModel.Model

open WrapperModel.Text

/-! ### Repetitions -/

/-- Nothing repeats exactly when the items are distinct and none of them came before, which is what
`seen` remembers. -/
theorem repeatsAfter_eq_nil_iff {seen xs : List String} :
    repeatsAfter seen xs = [] ↔ xs.Nodup ∧ ∀ x ∈ xs, x ∉ seen := by
  induction xs generalizing seen with
  | nil => simp [repeatsAfter]
  | cons x rest ih =>
    rw [repeatsAfter, List.append_eq_nil_iff, ih, List.nodup_cons]
    -- What was seen grows by the first name, so the rest has to avoid that one as well.
    constructor
    · rintro ⟨hx, hnodup, hseen⟩
      have hnew : x ∉ seen := by simpa using hx
      refine ⟨⟨fun hmem => hseen x hmem List.mem_cons_self, hnodup⟩, ?_⟩
      intro y hy
      rcases List.mem_cons.1 hy with rfl | hy
      · exact hnew
      · exact fun hys => hseen y hy (List.mem_cons_of_mem x hys)
    · rintro ⟨⟨hx, hnodup⟩, hseen⟩
      refine ⟨by simpa using hseen x List.mem_cons_self, hnodup, ?_⟩
      intro y hy hmem
      rcases List.mem_cons.1 hmem with rfl | hys
      · exact hx hy
      · exact hseen y (List.mem_cons_of_mem x hy) hys

/-- Nothing repeats exactly when the items are distinct (`List.Nodup`). -/
theorem repeats_eq_nil_iff {xs : List String} : repeats xs = [] ↔ xs.Nodup := by
  rw [repeats, repeatsAfter_eq_nil_iff]
  simp

/-- An enumeration yields no finding exactly when it has values, and none of them twice. Its name is
not looked at here. -/
theorem Enumeration.findings_eq_nil_iff {e : Enumeration} :
    e.findings = [] ↔ e.values ≠ [] ∧ e.values.Nodup := by
  rw [Enumeration.findings]
  by_cases hempty : e.values = []
  · simp [hempty]
  · rw [if_neg (by simpa using hempty), List.map_eq_nil_iff, repeats_eq_nil_iff]
    exact (and_iff_right hempty).symm

/-! ### Properties -/

/-- A type refers to an enumeration exactly when it is an enumeration, and then by its name. Other
types have a word and no name. -/
theorem PropertyType.enumeration?_eq_some_iff {type : PropertyType} {name : String} :
    type.enumeration? = some name ↔ type = .enumeration name := by
  cases type <;> simp [PropertyType.enumeration?]

/-- A finding on the properties of a class tells of a repeated name, or of a property whose
enumeration is not declared. -/
theorem mem_propertyFindings {declared seen : List String} {className : String}
    {properties : List Property} {finding : Finding}
    (h : finding ∈ propertyFindings declared className seen properties) :
    (∃ p ∈ properties, finding = .duplicateProperty className p.name) ∨
    (∃ p ∈ properties, ∃ name, p.type = .enumeration name ∧ name ∉ declared ∧
      finding = .unknownEnumeration className p.name name) := by
  -- on the properties; of the three parts in front, the first two are the findings on this one
  induction properties generalizing seen with
  | nil => simp [propertyFindings] at h
  | cons p rest ih =>
    rw [propertyFindings, List.mem_append, List.mem_append] at h
    rcases h with (hrepeated | hunknown) | hrest
    · split at hrepeated
      · exact .inl ⟨p, List.mem_cons_self, List.mem_singleton.1 hrepeated⟩
      · simp at hrepeated
    · split at hunknown
      · rename_i name hname
        split at hunknown
        · simp at hunknown
        · rename_i hdeclared
          exact .inr ⟨p, List.mem_cons_self, name, PropertyType.enumeration?_eq_some_iff.1 hname,
            by simpa using hdeclared, List.mem_singleton.1 hunknown⟩
      · simp at hunknown
    · rcases ih hrest with ⟨q, hq, hfinding⟩ | ⟨q, hq, hfinding⟩
      · exact .inl ⟨q, List.mem_cons_of_mem p hq, hfinding⟩
      · exact .inr ⟨q, List.mem_cons_of_mem p hq, hfinding⟩

/-- The properties of a class yield no finding exactly when their names are distinct and not among
those `seen`, and the enumerations that they refer to are declared. -/
theorem propertyFindings_eq_nil_iff {declared seen : List String} {className : String}
    {properties : List Property} :
    propertyFindings declared className seen properties = [] ↔
      (properties.map fun p => p.name).Nodup ∧ (∀ p ∈ properties, p.name ∉ seen) ∧
      ∀ p ∈ properties, ∀ name, p.type = .enumeration name → name ∈ declared := by
  induction properties generalizing seen with
  | nil => simp [propertyFindings]
  | cons p rest ih =>
    rw [propertyFindings, List.append_eq_nil_iff, List.append_eq_nil_iff, ih, List.map_cons,
      List.nodup_cons]
    -- As for names alone (`repeatsAfter_eq_nil_iff`), with the type of each property beside it.
    constructor
    · rintro ⟨⟨hp, hunknown⟩, hnodup, hseen, hrest⟩
      have hnew : p.name ∉ seen := by simpa using hp
      have hname : ∀ name, p.type = .enumeration name → name ∈ declared := by
        intro name htype
        simpa [htype, PropertyType.enumeration?] using hunknown
      refine ⟨⟨?_, hnodup⟩, ?_, List.forall_mem_cons.2 ⟨hname, hrest⟩⟩
      · rw [List.mem_map]
        rintro ⟨q, hq, heq⟩
        exact hseen q hq (heq ▸ List.mem_cons_self)
      · exact List.forall_mem_cons.2
          ⟨hnew, fun q hq hmem => hseen q hq (List.mem_cons_of_mem p.name hmem)⟩
    · rintro ⟨⟨hp, hnodup⟩, hseen, hdeclared⟩
      obtain ⟨hnew, hseen⟩ := List.forall_mem_cons.1 hseen
      obtain ⟨hname, hrest⟩ := List.forall_mem_cons.1 hdeclared
      refine ⟨⟨by simpa using hnew, ?_⟩, hnodup, ?_, hrest⟩
      · split
        · rename_i name htype
          simpa using hname name (PropertyType.enumeration?_eq_some_iff.1 htype)
        · rfl
      · intro q hq hmem
        rcases List.mem_cons.1 hmem with heq | hmem
        · exact hp (List.mem_map.2 ⟨q, hq, heq⟩)
        · exact hseen q hq hmem

/-! ### Tasks -/

/-- A finding on the tasks tells of a blank name or of a repeated one, or is a finding on
the properties of one task's settings class. -/
theorem mem_taskFindings {declared seen : List String} {tasks : List Task} {finding : Finding}
    (h : finding ∈ taskFindings declared seen tasks) :
    (∃ task ∈ tasks, isBlankText task.postfixName = true ∧ finding = .emptyTaskName) ∨
    (∃ task ∈ tasks, finding = .duplicateTask task.postfixName) ∨
    (∃ task ∈ tasks, finding ∈
      propertyFindings declared task.settingsClass.name [] task.settingsClass.properties) := by
  induction tasks generalizing seen with
  | nil => simp [taskFindings] at h
  | cons task rest ih =>
    simp only [List.mem_cons, exists_eq_or_imp]
    rw [taskFindings] at h
    -- A nameless task is found as such, and nothing else about it is looked at.
    split at h
    · rename_i hblank
      rcases List.mem_cons.1 h with rfl | hrest
      · exact .inl (.inl ⟨hblank, rfl⟩)
      · exact (ih hrest).imp .inr (Or.imp .inr .inr)
    · rw [List.mem_append, List.mem_append] at h
      rcases h with (hrepeated | hproperty) | hrest
      · split at hrepeated
        · exact .inr (.inl (.inl (List.mem_singleton.1 hrepeated)))
        · simp at hrepeated
      · exact .inr (.inr (.inl hproperty))
      · exact (ih hrest).imp .inr (Or.imp .inr .inr)

end WrapperModel.Model
