import Mathlib.Algebra.Order.BigOperators.Group.List
import WrapperModel.Proofs.Model.Multiplicity

/-!
# `WrapperModel.Proofs.Model.Coverage`: how far validation reaches

Validation passes over parts of a model. Of a tool without a name only that is told, the
settings of a task without a name are not looked at, and the properties that all tasks have
in common are looked at in no tool.

`Tool.defects` counts every defect of the enumerations, the classes and the names where it
is, whatever else is wrong with the model.

* `Tool.findings_perm_namedTasks`: a tool yields one finding for each task without a name, and
  the findings that it yields without these tasks.
* `Tool.count_findings_add_masked`: every defect is found or masked, as often as it is there.
* `Tool.findings_complete_iff`: when every defect is found.
* `Tool.inOrder_of_findings_eq_nil`: a model in which nothing is found has the properties of
  all its classes in order, and nothing is said of its common properties.
-/

set_option autoImplicit false

namespace WrapperModel.Model

open WrapperModel.Text

/-! ### Tasks without names -/

/-- The task has no name, or a blank one. Such a task yields one finding, and its settings are
passed over. -/
def Task.isNameless (task : Task) : Bool :=
  isBlankText task.postfixName

/-- The tool with those of its tasks that have names. All else is kept, so its enumerations are
declared as before. -/
def Tool.withNamedTasks (tool : Tool) : Tool :=
  { tool with tasks := tool.tasks.filter fun task => !task.isNameless }

/-- A task without a name yields that finding and no other, and leaves nothing in `seen`. So the
tasks behind it are found as if it were not there. -/
theorem taskFindings_cons_nameless (declared seen : List String) {task : Task}
    (h : task.isNameless = true) (rest : List Task) :
    taskFindings declared seen (task :: rest) =
      .emptyTaskName :: taskFindings declared seen rest :=
  if_pos h

/-- A task with a name yields the finding that its name came before, and the findings on its
settings. Its name is then `seen`. -/
theorem taskFindings_cons_named (declared seen : List String) {task : Task}
    (h : task.isNameless = false) (rest : List Task) :
    taskFindings declared seen (task :: rest) =
      (if seen.contains task.postfixName then [.duplicateTask task.postfixName] else []) ++
        propertyFindings declared task.settingsClass.name [] task.settingsClass.properties ++
        taskFindings declared (task.postfixName :: seen) rest :=
  if_neg (ne_true_of_eq_false h)

/-- The findings on tasks are one for each task without a name, and those that the other tasks yield
on their own. Because a nameless task leaves nothing in `seen`, the others do not notice that it is
gone. -/
theorem taskFindings_perm_filter (declared seen : List String) (tasks : List Task) :
    (taskFindings declared seen tasks).Perm
      (List.replicate (tasks.countP Task.isNameless) .emptyTaskName ++
        taskFindings declared seen (tasks.filter fun task => !task.isNameless)) := by
  -- on the tasks, for any `seen`, which grows only at those that have names
  induction tasks generalizing seen with
  | nil => exact .refl _
  | cons task rest ih =>
    cases hname : task.isNameless with
    | true =>
      rw [taskFindings_cons_nameless declared seen hname, List.countP_cons_of_pos hname,
        List.filter_cons_of_neg (by simp [hname]), List.replicate_succ]
      exact (ih seen).cons _
    | false =>
      rw [taskFindings_cons_named declared seen hname, List.countP_cons_of_neg (by simp [hname]),
        List.filter_cons_of_pos (by simp [hname]), taskFindings_cons_named declared seen hname]
      exact ((ih _).append_left _).trans (List.perm_append_comm_assoc _ _ _)

/-- A tool with a name yields one finding for each task without one, and the findings that it yields
without these tasks. The name is asked for because without it nothing else is found. -/
theorem Tool.findings_perm_namedTasks {tool : Tool} (hname : isBlankText tool.name = false) :
    tool.findings.Perm
      (List.replicate (tool.tasks.countP Task.isNameless) .emptyTaskName ++
        tool.withNamedTasks.findings) := by
  have hnamed : isBlankText tool.withNamedTasks.name = false := hname
  rw [Tool.findings, Tool.findings, if_neg (by simp [hname]), if_neg (by simp [hnamed])]
  exact ((taskFindings_perm_filter _ [] tool.tasks).append_left _).trans
    (List.perm_append_comm_assoc _ _ _)

/-! ### Defects -/

/-- How often the names of a tool and of its tasks have a defect: that a name is missing, and for
each other name of a task its occurrences behind the first. A blank name that comes twice is missing
twice and not repeated. -/
def Tool.nameDefects (tool : Tool) : Finding → Nat
  | .emptyToolName => if isBlankText tool.name then 1 else 0
  | .emptyTaskName => tool.tasks.countP Task.isNameless
  | .duplicateTask name =>
    if isBlankText name then 0 else (tool.tasks.map fun task => task.postfixName).count name - 1
  | _ => 0

/-- How often a model has a defect, whatever other defects it has. Unlike `Tool.findings` it looks
everywhere in the enumerations, the classes and the names. -/
def Tool.defects (tool : Tool) (finding : Finding) : Nat :=
  (tool.enumerations.map fun e => e.multiplicity finding).sum +
    (tool.classes.map fun c => classMultiplicity tool.enumerationNames c finding).sum +
    tool.nameDefects finding

/-- How often a defect is in the settings of tasks without names (`Task.isNameless`), which nothing
looks at. -/
def Tool.namelessDefects (tool : Tool) (finding : Finding) : Nat :=
  ((tool.tasks.filter Task.isNameless).map fun task =>
    classMultiplicity tool.enumerationNames task.settingsClass.toClass finding).sum

/-- How often a defect is passed over. Where the tool has no name, all others are; elsewhere
those in the settings of tasks without names. -/
def Tool.masked (tool : Tool) (finding : Finding) : Nat :=
  if isBlankText tool.name then
    if finding = .emptyToolName then 0 else tool.defects finding
  else tool.namelessDefects finding

/-- A missing name of the tool is a defect of nothing but that name, and there once. So it is never
masked. -/
theorem Tool.defects_emptyToolName (tool : Tool) :
    tool.defects .emptyToolName = if isBlankText tool.name then 1 else 0 := by
  simp [Tool.defects, Enumeration.multiplicity, classMultiplicity, Tool.nameDefects]

/-- The defects of names in a tool with a name: the names that are missing, and the repetitions
among the tasks that have names (`Tool.withNamedTasks`). -/
theorem Tool.nameDefects_eq {tool : Tool} (hname : isBlankText tool.name = false)
    (finding : Finding) :
    tool.nameDefects finding =
      (List.replicate (tool.tasks.countP Task.isNameless) Finding.emptyTaskName).count finding +
        taskMultiplicity tool.withNamedTasks.tasks finding := by
  rw [List.count_replicate]
  cases finding with
  | duplicateTask name =>
    -- Leaving out the nameless tasks leaves out the blank names, and no other.
    have hnames : tool.withNamedTasks.tasks.map (fun task => task.postfixName) =
        (tool.tasks.map fun task => task.postfixName).filter fun name => !isBlankText name := by
      rw [List.filter_map]
      rfl
    rw [Tool.nameDefects, taskMultiplicity, hnames]
    by_cases hblank : isBlankText name = true
    · rw [if_pos hblank, List.count_eq_zero.2 (by simp [hblank])]
      rfl
    · rw [if_neg hblank, List.count_filter (by simp [hblank])]
      exact (Nat.zero_add _).symm
  | emptyToolName => simp [Tool.nameDefects, taskMultiplicity, hname]
  | _ => simp [Tool.nameDefects, taskMultiplicity]

/-- The defects of a tool with a name are those of the tool with its named tasks, the missing names,
and the defects in the settings of tasks without names, which are the masked ones. -/
theorem Tool.defects_eq {tool : Tool} (hname : isBlankText tool.name = false)
    (finding : Finding) :
    tool.defects finding =
      (List.replicate (tool.tasks.countP Task.isNameless) Finding.emptyTaskName).count finding +
        tool.withNamedTasks.multiplicity finding + tool.namelessDefects finding := by
  -- Of the settings classes, those of nameless tasks are counted apart.
  have hsplit : (tool.tasks.map fun task =>
      classMultiplicity tool.enumerationNames task.settingsClass.toClass finding).sum =
        tool.namelessDefects finding + (tool.withNamedTasks.tasks.map fun task =>
          classMultiplicity tool.enumerationNames task.settingsClass.toClass finding).sum := by
    rw [Tool.namelessDefects, Tool.withNamedTasks, ← List.sum_append, ← List.map_append]
    exact ((List.filter_append_perm Task.isNameless tool.tasks).map _).sum_eq.symm
  have hclasses : ∀ other : Tool, (other.classes.map fun c =>
      classMultiplicity tool.enumerationNames c finding).sum =
        (other.dataClasses.map fun c => classMultiplicity tool.enumerationNames c finding).sum +
        (other.tasks.map fun task =>
          classMultiplicity tool.enumerationNames task.settingsClass.toClass finding).sum := by
    intro other
    rw [Tool.classes, List.map_append, List.sum_append, List.map_map]
    rfl
  have hnamed : tool.withNamedTasks.multiplicity finding =
      (tool.enumerations.map fun e => e.multiplicity finding).sum +
        (tool.withNamedTasks.classes.map fun c =>
          classMultiplicity tool.enumerationNames c finding).sum +
        taskMultiplicity tool.withNamedTasks.tasks finding := rfl
  have hdata : tool.withNamedTasks.dataClasses = tool.dataClasses := rfl
  rw [Tool.defects, hnamed, Tool.nameDefects_eq hname, hclasses, hclasses, hsplit, hdata]
  omega

/-- Every defect is found or masked (`Tool.masked`), as often as it is there. -/
theorem Tool.count_findings_add_masked (tool : Tool) (finding : Finding) :
    tool.findings.count finding + tool.masked finding = tool.defects finding := by
  cases hname : isBlankText tool.name with
  | true =>
    rw [Tool.findings, Tool.masked, if_pos hname, if_pos hname, List.count_singleton]
    -- without a name everything but that is masked; with one, the findings are those of the named
    -- tasks
    by_cases hfinding : finding = .emptyToolName
    · simp [hfinding, Tool.defects_emptyToolName, hname]
    · simp [hfinding, Ne.symm hfinding]
  | false =>
    have hnamed : ∀ task ∈ tool.withNamedTasks.tasks, isBlankText task.postfixName = false := by
      intro task htask
      simpa [Task.isNameless] using (List.mem_filter.1 htask).2
    rw [(Tool.findings_perm_namedTasks hname).count_eq, List.count_append,
      @Tool.count_findings tool.withNamedTasks hname hnamed, Tool.masked, hname,
      Tool.defects_eq hname]
    rfl

/-! ### Properties in order -/

/-- The names of the properties are distinct, and the enumerations that they refer to are
`declared`. It is what validation asks of every class. -/
structure InOrder (declared : List String) (properties : List Property) : Prop where
  distinct : (properties.map fun p => p.name).Nodup
  declared : ∀ p ∈ properties, ∀ name, p.type = .enumeration name → name ∈ declared

/-- A class has no defects exactly when its properties are `InOrder`. -/
theorem classMultiplicity_eq_zero_iff {declared : List String} {c : DataClass} :
    (∀ finding, classMultiplicity declared c finding = 0) ↔ InOrder declared c.properties := by
  simp only [← count_propertyFindings, List.count_eq_zero, ← List.eq_nil_iff_forall_not_mem,
    propertyFindings_eq_nil_iff]
  constructor
  · rintro ⟨hdistinct, -, hdeclared⟩
    exact ⟨hdistinct, hdeclared⟩
  · intro h
    exact ⟨h.distinct, by simp, h.declared⟩

/-- What hides no defect: a tool without a name has no other, and the settings of a task
without a name are in order. -/
structure Tool.MasksNothing (tool : Tool) : Prop where
  nameless : isBlankText tool.name = true →
    ∀ finding, finding ≠ .emptyToolName → tool.defects finding = 0
  tasks : isBlankText tool.name = false → ∀ task ∈ tool.tasks,
    isBlankText task.postfixName = true →
      InOrder tool.enumerationNames task.settingsClass.properties

/-- No defect is masked exactly where nothing hides one (`Tool.MasksNothing`). -/
theorem Tool.masked_eq_zero_iff (tool : Tool) :
    (∀ finding, tool.masked finding = 0) ↔ tool.MasksNothing := by
  cases hname : isBlankText tool.name with
  -- With a blank name all other defects are masked, else those of the nameless tasks.
  | true =>
    have hmasked : ∀ finding, tool.masked finding =
        if finding = .emptyToolName then 0 else tool.defects finding := fun finding => if_pos hname
    simp only [hmasked, ite_eq_left_iff]
    exact ⟨fun h => ⟨fun _ => h, fun h => by simp [hname] at h⟩, fun h => h.nameless hname⟩
  | false =>
    have hmasked : ∀ finding, (tool.masked finding = 0 ↔
        ∀ task ∈ tool.tasks, isBlankText task.postfixName = true →
          classMultiplicity tool.enumerationNames task.settingsClass.toClass finding = 0) := by
      intro finding
      rw [Tool.masked, hname, if_neg Bool.false_ne_true, Tool.namelessDefects,
        List.sum_eq_zero_iff_forall_eq_nat, List.forall_mem_map]
      simp [Task.isNameless]
    constructor
    · intro h
      refine ⟨fun h => by simp [hname] at h, fun _ task htask hblank => ?_⟩
      exact classMultiplicity_eq_zero_iff.1 fun finding => (hmasked finding).1 (h finding) task
        htask hblank
    · intro h finding
      refine (hmasked finding).2 fun task htask hblank => ?_
      exact classMultiplicity_eq_zero_iff.2 (h.tasks hname task htask hblank) finding

/-- Every defect is found as often as it is there, or masked by a missing name. All of them are
found exactly where nothing hides one (`Tool.MasksNothing`): where the tool has a name or no other
defect, and the settings of tasks without names are in order. -/
theorem Tool.findings_complete_iff (tool : Tool) :
    (∀ finding, tool.findings.count finding + tool.masked finding = tool.defects finding) ∧
    ((∀ finding, tool.findings.count finding = tool.defects finding) ↔ tool.MasksNothing) := by
  refine ⟨tool.count_findings_add_masked, ?_⟩
  rw [← tool.masked_eq_zero_iff]
  refine forall_congr' fun finding => ?_
  have := tool.count_findings_add_masked finding
  omega

/-- A tool without a name, one of whose enumerations has no values. The second defect is not
found. -/
def nameless : Tool :=
  { name := " ", enumerations := [⟨"Format", []⟩] }

/-- A tool with a task without a name, whose settings refer to an enumeration that is not declared.
The second defect is not found. -/
def withNamelessTask : Tool :=
  { name := "Docker"
    tasks := [
      { postfixName := " "
        settingsClass :=
          { name := "DockerSettings"
            properties := [{ name := "Level", type := .enumeration "Gone" }] } }] }

/-- In `nameless` and in `withNamelessTask` the missing name hides the other defect, which is there
(`Tool.defects`) and not found. -/
theorem findings_hidden :
    (nameless.defects (.emptyEnumeration "Format") = 1 ∧
      nameless.findings = [.emptyToolName]) ∧
    (withNamelessTask.defects (.unknownEnumeration "DockerSettings" "Level" "Gone") = 1 ∧
      withNamelessTask.findings = [.emptyTaskName]) := by
  decide

/-! ### Common properties -/

/-- The lists of properties of a model: those that all tasks have in common, and those of each of
its classes. Validation looks at all but the first. -/
def Tool.propertyLists (tool : Tool) : List (List Property) :=
  tool.commonTaskProperties :: tool.classes.map fun c => c.properties

/-- Validation does not look at the common properties: any others may stand in their place, and the
same is found. -/
theorem Tool.findings_withCommon (tool : Tool) (common : List Property) :
    ({ tool with commonTaskProperties := common } : Tool).findings = tool.findings :=
  rfl

/-- In a model in which `Tool.findings` finds nothing, the properties of every class are `InOrder`.
So all its properties are exactly if those are that its tasks have in common. These may be any:
nothing is found either if others are put in their place. -/
theorem Tool.inOrder_of_findings_eq_nil {tool : Tool} (h : tool.findings = []) :
    (∀ c ∈ tool.classes, InOrder tool.enumerationNames c.properties) ∧
    ((∀ properties ∈ tool.propertyLists, InOrder tool.enumerationNames properties) ↔
      InOrder tool.enumerationNames tool.commonTaskProperties) ∧
    ∀ common, ({ tool with commonTaskProperties := common } : Tool).findings = [] := by
  have hwell : tool.IsWellFormed := tool.findings_eq_nil_iff.1 h
  have hclasses : ∀ c ∈ tool.classes, InOrder tool.enumerationNames c.properties :=
    fun c hc => ⟨hwell.properties_distinct c hc, hwell.declared c hc⟩
  refine ⟨hclasses, ?_, fun common => (tool.findings_withCommon common).trans h⟩
  rw [Tool.propertyLists, List.forall_mem_cons, List.forall_mem_map]
  exact and_iff_left hclasses

/-- A model with all kinds of properties, in which nothing is found, and rightly so. -/
def wellReferenced : Tool :=
  let level : Property := { name := "Level", type := .enumeration "LogLevel" }
  { name := "Docker"
    commonTaskProperties := [level]
    dataClasses := [⟨"CliSettings", [level, { name := "Debug", type := .bool }]⟩]
    tasks := [
      { postfixName := "Run"
        settingsClass := { name := "DockerRunSettings", properties := [level] } }]
    enumerations := [⟨"LogLevel", ["debug", "info"]⟩] }

/-- All properties of `wellReferenced` are in order, and nothing would be found with others in
common. -/
theorem inOrder_wellReferenced :
    wellReferenced.findings = [] ∧
    (∀ properties ∈ wellReferenced.propertyLists,
      InOrder wellReferenced.enumerationNames properties) ∧
    ∀ common, ({ wellReferenced with commonTaskProperties := common } : Tool).findings = [] := by
  have h : wellReferenced.findings = [] := by decide
  obtain ⟨-, hall, hany⟩ := Tool.inOrder_of_findings_eq_nil h
  exact ⟨h, hall.2 ⟨by decide, by simp [wellReferenced, Tool.enumerationNames]⟩, hany⟩

/-- A model whose common properties share one name and refer to an enumeration that is not declared.
Nothing is found in it. -/
def dangling : Tool :=
  { name := "Docker"
    commonTaskProperties :=
      [{ name := "Level", type := .enumeration "Gone" }, { name := "Level" }] }

/-- Nothing is found in `dangling`, although its common properties refer to an enumeration that it
does not have and share one name. -/
theorem findings_dangling :
    dangling.findings = [] ∧
    (∃ p ∈ dangling.commonTaskProperties,
      p.type = .enumeration "Gone" ∧ "Gone" ∉ dangling.enumerationNames) ∧
    ¬ (dangling.commonTaskProperties.map fun p => p.name).Nodup := by
  decide

end WrapperModel.Model
