import Mathlib.Algebra.GroupWithZero.Nat
import Mathlib.Data.List.Basic
import Mathlib.Data.List.Count
import WrapperModel.Proofs.Model.Validation

/-!
# `WrapperModel.Proofs.Model.Multiplicity`: how often a model has each finding

Validation goes through a model once and remembers the names that it has passed. What it
finds does not depend on the order: `Tool.multiplicity` counts every defect where it is,
without remembering anything.

* `count_repeatsAfter`: an item is repeated once for each further occurrence.
* `propertyFindings_perm`, `taskFindings_perm`: the repeated names of a class or of the
  tasks, and beside them what is found at each property or task on its own.
* `Tool.findings_eq_nil_iff`: nothing is found exactly in a well-formed model.
* `Tool.count_findings`: with names for the tool and all its tasks, every finding is there
  as often as its defect.
* `Tool.findings_sound_complete`: both together.
-/

set_option autoImplicit false

namespace WrapperModel.Model

open WrapperModel.Text

/-! ### Repetitions -/

/-- Behind items that came before, an item is repeated at each of its places; any other is
repeated at each place but the first. -/
theorem count_repeatsAfter (seen xs : List String) (x : String) :
    (repeatsAfter seen xs).count x = if x ∈ seen then xs.count x else xs.count x - 1 := by
  -- on the items, for any `seen`: each item is among those seen by the next
  induction xs generalizing seen with
  | nil => simp [repeatsAfter]
  | cons y rest ih =>
    rw [repeatsAfter, List.count_append, ih]
    by_cases hxy : y = x
    · subst hxy
      by_cases hseen : y ∈ seen <;> simp [hseen, Nat.add_comm]
    · have hhead : (if seen.contains y then [y] else []).count x = 0 := by
        split <;> simp [hxy]
      rw [hhead, List.count_cons_of_ne hxy]
      simp [Ne.symm hxy]

/-- An item is repeated once for each occurrence behind the first. It is `count_repeatsAfter` with
nothing in front. -/
theorem count_repeats (xs : List String) (x : String) :
    (repeats xs).count x = xs.count x - 1 := by
  rw [repeats, count_repeatsAfter]
  simp

/-! ### Enumerations -/

/-- How often an enumeration has a defect: once that it has no values, and for each value
its occurrences behind the first. -/
def Enumeration.multiplicity (e : Enumeration) : Finding → Nat
  | .emptyEnumeration name => if e.name = name ∧ e.values = [] then 1 else 0
  | .duplicateEnumerationValue name value => if e.name = name then e.values.count value - 1 else 0
  | _ => 0

/-- An enumeration yields every finding as often as `Enumeration.multiplicity` counts its defect. -/
theorem Enumeration.count_findings (e : Enumeration) (finding : Finding) :
    e.findings.count finding = e.multiplicity finding := by
  rw [Enumeration.findings]
  -- Without values nothing can be repeated; with values only repetitions are found.
  by_cases hempty : e.values = []
  · rw [if_pos (by simp [hempty])]
    cases finding <;> simp [Enumeration.multiplicity, hempty, List.count_singleton]
  · rw [if_neg (by simp [hempty])]
    cases finding with
    | duplicateEnumerationValue name value =>
      rw [Enumeration.multiplicity]
      split
      · rename_i hname
        rw [hname, List.count_map_of_injective _ _
          fun _ _ h => (Finding.duplicateEnumerationValue.inj h).2, count_repeats]
      · rename_i hname
        exact List.count_eq_zero.2 (by simp [hname])
    | emptyEnumeration name =>
      rw [Enumeration.multiplicity, if_neg (by simp [hempty])]
      exact List.count_eq_zero.2 (by simp)
    | _ => exact List.count_eq_zero.2 (by simp)

/-! ### Classes -/

/-- What is found at a property on its own: that its enumeration is not declared. Unlike a repeated
name it does not depend on the properties before. -/
def unknownEnumeration? (declared : List String) (className : String) (p : Property) :
    Option Finding :=
  match p.type.enumeration? with
  | some enumeration =>
    if enumeration ∈ declared then none
    else some (.unknownEnumeration className p.name enumeration)
  | none => none

/-- A property yields the finding on an enumeration exactly when it has that name, refers to
that enumeration, and the enumeration is not declared. -/
theorem unknownEnumeration?_eq_some_iff {declared : List String} {className : String}
    {p : Property} {finding : Finding} :
    unknownEnumeration? declared className p = some finding ↔
      ∃ enumeration, p.type = .enumeration enumeration ∧ enumeration ∉ declared ∧
        finding = .unknownEnumeration className p.name enumeration := by
  rw [unknownEnumeration?]
  split
  · rename_i enumeration htype
    rw [PropertyType.enumeration?_eq_some_iff.1 htype]
    by_cases hdeclared : enumeration ∈ declared <;> simp [hdeclared, eq_comm]
  · rename_i htype
    simp [← PropertyType.enumeration?_eq_some_iff, htype]

/-- The findings on a property and on those behind it: that its name came before, what
`unknownEnumeration?` finds at the property on its own, and the findings on the rest. -/
theorem propertyFindings_cons (declared seen : List String) (className : String) (p : Property)
    (rest : List Property) :
    propertyFindings declared className seen (p :: rest) =
      (if seen.contains p.name then [p.name] else []).map (.duplicateProperty className) ++
        (unknownEnumeration? declared className p).toList ++
        propertyFindings declared className (p.name :: seen) rest := by
  have hrepeated : (if seen.contains p.name then [p.name] else []).map
      (Finding.duplicateProperty className) =
        if seen.contains p.name then [.duplicateProperty className p.name] else [] := by
    split <;> rfl
  rw [propertyFindings, hrepeated, unknownEnumeration?]
  -- Only a type that is an enumeration can be undeclared.
  cases p.type.enumeration? with
  | none => rfl
  | some enumeration => by_cases hdeclared : enumeration ∈ declared <;> simp [hdeclared]

/-- What comes first in two lists that are joined piece by piece may go to the front. It sorts the
findings by kind. -/
theorem append_append_perm {α : Type} (a b first second : List α) :
    (a ++ b ++ (first ++ second)).Perm (a ++ first ++ (b ++ second)) := by
  rw [List.append_assoc, List.append_assoc]
  exact (List.perm_append_comm_assoc b first second).append_left a

/-- The findings on the properties of a class are the repeated names, and what is found at each
property on its own. The order is lost here, and with it the memory of the names that were
passed. -/
theorem propertyFindings_perm (declared seen : List String) (className : String)
    (properties : List Property) :
    (propertyFindings declared className seen properties).Perm
      ((repeatsAfter seen (properties.map fun p => p.name)).map (.duplicateProperty className) ++
        properties.filterMap (unknownEnumeration? declared className)) := by
  induction properties generalizing seen with
  | nil => exact .refl _
  | cons p rest ih =>
    rw [propertyFindings_cons, List.map_cons, repeatsAfter, List.map_append,
      List.filterMap_eq_flatMap_toList, List.flatMap_cons, ← List.filterMap_eq_flatMap_toList]
    exact ((ih _).append_left _).trans (append_append_perm _ _ _ _)

/-- How often the properties of a class have a defect: for each name its occurrences behind the
first, and each reference to an enumeration that is not `declared`. -/
def classMultiplicity (declared : List String) (c : DataClass) : Finding → Nat
  | .duplicateProperty className property =>
    if c.name = className then (c.properties.map fun p => p.name).count property - 1 else 0
  | .unknownEnumeration className property enumeration =>
    if c.name = className ∧ enumeration ∉ declared then
      c.properties.countP fun p => p.name = property ∧ p.type = .enumeration enumeration
    else 0
  | _ => 0

/-- The properties of a class yield every finding as often as `classMultiplicity` counts its
defect. -/
theorem count_propertyFindings (declared : List String) (c : DataClass) (finding : Finding) :
    (propertyFindings declared c.name [] c.properties).count finding =
      classMultiplicity declared c finding := by
  -- Each kind of finding comes from one part of the list only.
  cases finding with
  | duplicateProperty className property =>
    rw [(propertyFindings_perm declared [] c.name c.properties).count_eq, List.count_append]
    have hunknown : (c.properties.filterMap (unknownEnumeration? declared c.name)).count
        (.duplicateProperty className property) = 0 :=
      List.count_eq_zero.2 (by simp [unknownEnumeration?_eq_some_iff])
    rw [hunknown, Nat.add_zero, classMultiplicity]
    split
    · rename_i hname
      rw [hname, List.count_map_of_injective _ _ fun _ _ h => (Finding.duplicateProperty.inj h).2]
      exact count_repeats _ property
    · rename_i hname
      exact List.count_eq_zero.2 (by simp [hname])
  | unknownEnumeration className property enumeration =>
    rw [(propertyFindings_perm declared [] c.name c.properties).count_eq, List.count_append]
    have hrepeated : ((repeatsAfter [] (c.properties.map fun p => p.name)).map
        (Finding.duplicateProperty c.name)).count
        (.unknownEnumeration className property enumeration) = 0 :=
      List.count_eq_zero.2 (by simp)
    rw [hrepeated, Nat.zero_add, classMultiplicity, List.count_filterMap]
    split
    · rename_i hcond
      apply List.countP_congr
      intro p _
      obtain ⟨hname, hdeclared⟩ := hcond
      simp only [beq_iff_eq, unknownEnumeration?_eq_some_iff, decide_eq_true_eq,
        Finding.unknownEnumeration.injEq]
      constructor
      · rintro ⟨name, htype, -, -, hp, rfl⟩
        exact ⟨hp.symm, htype⟩
      · rintro ⟨hp, htype⟩
        exact ⟨enumeration, htype, hdeclared, hname.symm, hp.symm, rfl⟩
    · rename_i hcond
      rw [List.countP_eq_zero]
      intro p _
      simp only [beq_iff_eq, unknownEnumeration?_eq_some_iff, Finding.unknownEnumeration.injEq]
      rintro ⟨name, -, hdeclared, hname, -, rfl⟩
      exact hcond ⟨hname.symm, hdeclared⟩
  | _ =>
    apply List.count_eq_zero.2
    intro hmem
    rcases mem_propertyFindings hmem with ⟨p, -, h⟩ | ⟨p, -, name, -, -, h⟩ <;> cases h

/-! ### Tasks -/

/-- A settings class as a class of its name and properties, for which validation makes no difference
between the two. So one list of classes covers both. -/
def SettingsClass.toClass (c : SettingsClass) : DataClass :=
  ⟨c.name, c.properties⟩

/-- A task without a name is found, whatever stands before it and whatever was `seen`. -/
theorem emptyTaskName_mem_taskFindings {declared seen : List String} {tasks : List Task}
    {task : Task} (htask : task ∈ tasks) (hblank : isBlankText task.postfixName = true) :
    .emptyTaskName ∈ taskFindings declared seen tasks := by
  induction tasks generalizing seen with
  | nil => cases htask
  | cons first rest ih =>
    rw [taskFindings]
    rcases List.mem_cons.1 htask with rfl | hrest
    · rw [if_pos hblank]
      exact List.mem_cons_self
    · -- The finding is one of the rest, whatever is found on the first task.
      split
      · exact List.mem_cons_of_mem _ (ih hrest)
      · exact List.mem_append_right _ (ih hrest)

/-- Where all tasks have names, the findings on them are the repeated names, and what is found at
the properties of each. -/
theorem taskFindings_perm {declared : List String} (seen : List String) {tasks : List Task}
    (h : ∀ task ∈ tasks, isBlankText task.postfixName = false) :
    (taskFindings declared seen tasks).Perm
      ((repeatsAfter seen (tasks.map fun task => task.postfixName)).map .duplicateTask ++
        tasks.flatMap fun task => propertyFindings declared task.settingsClass.name []
          task.settingsClass.properties) := by
  induction tasks generalizing seen with
  | nil => exact .refl _
  | cons task rest ih =>
    obtain ⟨hname, hrest⟩ := List.forall_mem_cons.1 h
    have hrepeated : (if seen.contains task.postfixName then [task.postfixName] else []).map
        Finding.duplicateTask =
          if seen.contains task.postfixName then [.duplicateTask task.postfixName] else [] := by
      split <;> rfl
    -- No task is passed over, since all have names; only the order of the findings differs.
    rw [taskFindings, if_neg (by simp [hname]), ← hrepeated, List.map_cons, repeatsAfter,
      List.map_append, List.flatMap_cons]
    exact ((ih _ hrest).append_left _).trans (append_append_perm _ _ _ _)

/-! ### Tools -/

/-- The classes of a tool: those that all tasks share, and the settings of each task
(`SettingsClass.toClass`). The properties that tasks have in common belong to no class. -/
def Tool.classes (tool : Tool) : List DataClass :=
  tool.dataClasses ++ tool.tasks.map fun task => task.settingsClass.toClass

/-- What validation asks of a model. That nothing is found means this and nothing else
(`Tool.findings_eq_nil_iff`). -/
structure Tool.IsWellFormed (tool : Tool) : Prop where
  /-- The tool has a name. -/
  named : isBlankText tool.name = false
  /-- Every enumeration has values, and none of them twice. -/
  enumerations : ∀ e ∈ tool.enumerations, e.values ≠ [] ∧ e.values.Nodup
  /-- Every task has a name. -/
  tasks_named : ∀ task ∈ tool.tasks, isBlankText task.postfixName = false
  /-- No two tasks have the same name. -/
  tasks_distinct : (tool.tasks.map fun task => task.postfixName).Nodup
  /-- No two properties of a class have the same name. -/
  properties_distinct : ∀ c ∈ tool.classes, (c.properties.map fun p => p.name).Nodup
  /-- The enumerations that properties refer to are declared. -/
  declared : ∀ c ∈ tool.classes, ∀ p ∈ c.properties, ∀ name,
    p.type = .enumeration name → name ∈ tool.enumerationNames

/-- Where the tool and all its tasks have names, the findings are those on its enumerations, those
on the properties of its classes, and the repeated names of tasks. A missing name would leave parts
out, which is what the two hypotheses exclude. -/
theorem Tool.findings_perm {tool : Tool} (hname : isBlankText tool.name = false)
    (htasks : ∀ task ∈ tool.tasks, isBlankText task.postfixName = false) :
    tool.findings.Perm
      (tool.enumerations.flatMap Enumeration.findings ++
        (tool.classes.flatMap fun c =>
          propertyFindings tool.enumerationNames c.name [] c.properties) ++
        (repeats (tool.tasks.map fun task => task.postfixName)).map .duplicateTask) := by
  rw [Tool.findings, if_neg (by simp [hname]), Tool.classes, List.flatMap_append,
    List.flatMap_map, List.append_assoc, List.append_assoc, List.append_assoc]
  -- The names of tasks go behind the properties, so that all classes stand together.
  exact (((taskFindings_perm [] htasks).trans List.perm_append_comm).append_left _).append_left _

/-- Nothing is found exactly in a model that `Tool.IsWellFormed`, where each kind of defect is
excluded by a condition of its own. -/
theorem Tool.findings_eq_nil_iff (tool : Tool) : tool.findings = [] ↔ tool.IsWellFormed := by
  by_cases hnames : isBlankText tool.name = false ∧
      ∀ task ∈ tool.tasks, isBlankText task.postfixName = false
  · obtain ⟨hname, htasks⟩ := hnames
    -- The list has three parts, and each of them is empty under one condition.
    have hparts : tool.findings = [] ↔
        (∀ e ∈ tool.enumerations, e.findings = []) ∧
        (∀ c ∈ tool.classes, propertyFindings tool.enumerationNames c.name [] c.properties = []) ∧
        repeats (tool.tasks.map fun task => task.postfixName) = [] := by
      rw [← List.perm_nil, (Tool.findings_perm hname htasks).congr_left, List.perm_nil,
        List.append_eq_nil_iff, List.append_eq_nil_iff, List.flatMap_eq_nil_iff,
        List.flatMap_eq_nil_iff, List.map_eq_nil_iff, and_assoc]
    simp only [hparts, Enumeration.findings_eq_nil_iff, propertyFindings_eq_nil_iff,
      repeats_eq_nil_iff]
    constructor
    · rintro ⟨henumerations, hclasses, hdistinct⟩
      exact ⟨hname, henumerations, htasks, hdistinct, fun c hc => (hclasses c hc).1,
        fun c hc => (hclasses c hc).2.2⟩
    · intro h
      exact ⟨h.enumerations, fun c hc => ⟨h.properties_distinct c hc, by simp, h.declared c hc⟩,
        h.tasks_distinct⟩
  · -- A name is missing, which is found and keeps the model from being well-formed.
    refine iff_of_false (fun hnil => hnames ?_) fun h => hnames ⟨h.named, h.tasks_named⟩
    rw [Tool.findings] at hnil
    split at hnil
    · cases hnil
    · rename_i hname
      refine ⟨by simpa using hname, ?_⟩
      intro task htask
      rw [← Bool.not_eq_true]
      intro hblank
      have hfound : .emptyTaskName ∈ taskFindings tool.enumerationNames [] tool.tasks :=
        emptyTaskName_mem_taskFindings htask hblank
      rw [(List.append_eq_nil_iff.1 hnil).2] at hfound
      cases hfound

/-- How often the names of tasks have a defect: for each its occurrences behind the first. No other
finding is about a name of a task that is there. -/
def taskMultiplicity (tasks : List Task) : Finding → Nat
  | .duplicateTask name => (tasks.map fun task => task.postfixName).count name - 1
  | _ => 0

/-- How often a model has a defect: as often as its enumerations, its classes and the names of its
tasks have it. Nothing is remembered from part to part. -/
def Tool.multiplicity (tool : Tool) (finding : Finding) : Nat :=
  (tool.enumerations.map fun e => e.multiplicity finding).sum +
    (tool.classes.map fun c => classMultiplicity tool.enumerationNames c finding).sum +
    taskMultiplicity tool.tasks finding

/-- Where the tool and all its tasks have names, every finding is there as often as
`Tool.multiplicity` counts its defect. -/
theorem Tool.count_findings {tool : Tool} (hname : isBlankText tool.name = false)
    (htasks : ∀ task ∈ tool.tasks, isBlankText task.postfixName = false) (finding : Finding) :
    tool.findings.count finding = tool.multiplicity finding := by
  have henumeration : List.count finding ∘ Enumeration.findings =
      fun e => e.multiplicity finding := funext fun e => e.count_findings finding
  have hclass : (List.count finding ∘ fun c : DataClass =>
      propertyFindings tool.enumerationNames c.name [] c.properties) =
      fun c => classMultiplicity tool.enumerationNames c finding :=
    funext fun c => count_propertyFindings tool.enumerationNames c finding
  rw [(Tool.findings_perm hname htasks).count_eq, List.count_append, List.count_append,
    List.count_flatMap, List.count_flatMap, henumeration, hclass, Tool.multiplicity]
  -- Of the names of tasks only one kind of finding is made.
  congr 1
  cases finding with
  | duplicateTask name =>
    rw [List.count_map_of_injective _ _ fun _ _ h => Finding.duplicateTask.inj h]
    exact count_repeats _ name
  | _ => exact List.count_eq_zero.2 (by simp)

/-- Validation is sound and complete with multiplicity. Nothing is found exactly in a model that
`Tool.IsWellFormed`. Where the tool and all its tasks have names, every finding is there as often as
its defect, whatever the order of the parts. -/
theorem Tool.findings_sound_complete (tool : Tool) :
    (tool.findings = [] ↔ tool.IsWellFormed) ∧
    (isBlankText tool.name = false →
      (∀ task ∈ tool.tasks, isBlankText task.postfixName = false) →
      ∀ finding, tool.findings.count finding = tool.multiplicity finding) :=
  ⟨tool.findings_eq_nil_iff, fun hname htasks => Tool.count_findings hname htasks⟩

/-- A model in which tasks, classes and enumerations of one name stand several times, so that counts
above one occur. -/
def repetitive : Tool :=
  { name := "Tool"
    dataClasses :=
      [⟨"Cli", [{ name := "Level" }, { name := "Level" }, { name := "Level" }]⟩,
        ⟨"Cli", [{ name := "Level", type := .enumeration "Gone" },
          { name := "Level", type := .enumeration "Gone" }]⟩]
    tasks := [{ postfixName := "Run" }, { postfixName := "Run" }, { postfixName := "Run" }]
    enumerations := [⟨"Mode", ["a", "b", "a", "a"]⟩, ⟨"Mode", []⟩, ⟨"Mode", []⟩] }

/-- The repetitions of `repetitive` are counted class by class and entry by entry, though classes
and enumerations share their names. -/
theorem findings_repetitive :
    (isBlankText repetitive.name = false ∧
      ∀ task ∈ repetitive.tasks, isBlankText task.postfixName = false) ∧
    repetitive.findings.count (.emptyEnumeration "Mode") = 2 ∧
    repetitive.findings.count (.duplicateEnumerationValue "Mode" "a") = 2 ∧
    repetitive.findings.count (.duplicateProperty "Cli" "Level") = 3 ∧
    repetitive.findings.count (.unknownEnumeration "Cli" "Level" "Gone") = 2 ∧
    repetitive.findings.count (.duplicateTask "Run") = 2 := by
  have hname : isBlankText repetitive.name = false := by decide
  have htasks : ∀ task ∈ repetitive.tasks, isBlankText task.postfixName = false := by decide
  have hcount := (Tool.findings_sound_complete repetitive).2 hname htasks
  simp only [hcount]
  exact ⟨⟨hname, htasks⟩, by decide⟩

end WrapperModel.Model
