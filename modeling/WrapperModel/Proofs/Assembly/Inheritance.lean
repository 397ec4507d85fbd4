import WrapperModel.Proofs.Assembly.Incremental
import WrapperModel.Proofs.Naming

/-!
# `WrapperModel.Proofs.Assembly.Inheritance`: the classes that settings extend

A command that inherits options extends the settings of the command above it. The name of
that class is made from the path of the command above, and not from its definition, so the
two have to be made alike. `parentWords` says what the path above is, word by word. Where
another definition documents a command of these words, both names come from the same words.

* `words_parentPath`: the path above has the words that it is made from.
* `baseClass_eq_of_words`: it leads to the class of whichever command has these words.
* `baseClass_documented`: so it does in every model, and no class of a task is the root.
-/

set_option autoImplicit false

namespace WrapperModel.Assembly

open WrapperModel.Text WrapperModel.Model WrapperModel.Naming
open WrapperModel.Definition (OptionDefinition CommandDefinition)

/-- The words of the command above: those of the documented parent where one is named that is not
blank, else those of the command without the last. `words_parentPath` says that `parentPath` has
them. -/
def parentWords (d : CommandDefinition) : List String :=
  match d.parentName with
  | some parent => if isBlankText parent then (words d.command).dropLast else words parent
  | none => (words d.command).dropLast

/-- The `parentPath` of a command has the words of the command above, whatever white space stands
between them. -/
theorem words_parentPath (d : CommandDefinition) : words (parentPath d) = parentWords d := by
  -- The words that are left were words already, so joining them and cutting again changes nothing.
  have hshorter : words (joinWith " " (words d.command).dropLast) = (words d.command).dropLast :=
    words_joinWith fun word hword =>
      ⟨toList_ne_nil_of_mem_words (List.mem_of_mem_dropLast hword),
        not_isBlank_of_mem_words (List.mem_of_mem_dropLast hword)⟩
  unfold parentPath parentWords
  cases d.parentName with
  | none => exact hshorter
  | some parent =>
    by_cases hblank : isBlankText parent = true
    · simp only [hblank, if_true]
      exact hshorter
    · simp only [hblank]
      rfl

/-- A command with a task has a task name, from which its class is named, and its class extends what
its definition says. -/
theorem settingsClass_of_commandModel? {profile : ToolProfile} {d : CommandDefinition}
    {model : CommandModel} (h : commandModel? profile d = some model) :
    taskPostfix profile.executable d.command ≠ "" ∧
      model.task.settingsClass.name =
        settingsClassName profile.name (taskPostfix profile.executable d.command) ∧
      model.task.settingsClass.baseClass = baseClass profile d := by
  obtain ⟨hname, rfl⟩ := commandModel?_eq_some_iff.1 h
  exact ⟨hname, rfl, rfl⟩

/-- The class of a task is named otherwise than the root, because its task name is not empty. So a
chain that reached the root has left the tasks. -/
theorem settingsClassName_ne_root {tool postfixName : String} (h : postfixName ≠ "") :
    settingsClassName tool postfixName ≠ rootSettingsName tool := by
  intro heq
  have hlength := congrArg String.length heq
  have hpositive : postfixName.length ≠ 0 := by simpa using h
  simp only [settingsClassName, rootSettingsName, String.length_append] at hlength
  omega

/-- A command that inherits options extends the class of any command that has the words of the
command above. If that is the program on its own, it has no task, and the root is extended. The two
commands need not stand in one model. -/
theorem baseClass_eq_of_words {profile : ToolProfile} {parent child : CommandDefinition}
    (hinherits : child.inheritedOptions ≠ []) (hwords : parentWords child = words parent.command) :
    baseClass profile child =
      match commandModel? profile parent with
      | some model => model.task.settingsClass.name
      | none => profile.rootSettingsName := by
  have hpostfix : taskPostfix profile.executable (parentPath child) =
      taskPostfix profile.executable parent.command :=
    taskPostfix_congr profile.executable (by rw [words_parentPath, hwords])
  have hsome : child.inheritedOptions.isEmpty = false := by simpa using hinherits
  rw [baseClass, hsome, if_neg Bool.false_ne_true, hpostfix]
  -- A command has no model exactly where its postfix is empty, which is what is asked here.
  cases hmodel : commandModel? profile parent with
  | none => exact if_pos (commandModel?_eq_none_iff.1 hmodel)
  | some model =>
    obtain ⟨hname, hclass, -⟩ := settingsClass_of_commandModel? hmodel
    exact (if_neg hname).trans hclass.symm

/-- The task of a definition is a task of the model. No definition is dropped or merged with
another. -/
theorem mem_tasks_build {profile : ToolProfile} {definitions : List CommandDefinition}
    {d : CommandDefinition} (hd : d ∈ definitions) {model : CommandModel}
    (h : commandModel? profile d = some model) :
    model.task ∈ (build profile definitions).tasks :=
  List.mem_map.2 ⟨model, List.mem_filterMap.2 ⟨d, hd, h⟩, rfl⟩

/-- A task of the model is the task of a definition, so nothing in a model comes from elsewhere. -/
theorem exists_of_mem_tasks {profile : ToolProfile} {definitions : List CommandDefinition}
    {task : Task} (h : task ∈ (build profile definitions).tasks) :
    ∃ d ∈ definitions, ∃ model, commandModel? profile d = some model ∧ model.task = task := by
  obtain ⟨model, hmodel, rfl⟩ := List.mem_map.1 h
  obtain ⟨d, hd, hmodel⟩ := List.mem_filterMap.1 hmodel
  exact ⟨d, hd, model, hmodel, rfl⟩

/-- Inheritance leads to classes that are there. Take two definitions of one model, such that the
first has the words of the command above the second (`parentWords`), and the second has a task and
inherits options. Then the second extends the class of the first, or the root where the first has no
task. The root itself is the class of no task. -/
theorem baseClass_documented (profile : ToolProfile) (definitions : List CommandDefinition) :
    (∀ parent ∈ definitions, ∀ child ∈ definitions, ∀ model,
      commandModel? profile child = some model → child.inheritedOptions ≠ [] →
      parentWords child = words parent.command →
        model.task ∈ (build profile definitions).tasks ∧
        (∀ above, commandModel? profile parent = some above →
          above.task ∈ (build profile definitions).tasks ∧
          model.task.settingsClass.baseClass = above.task.settingsClass.name) ∧
        (commandModel? profile parent = none →
          model.task.settingsClass.baseClass = (build profile definitions).rootSettingsName)) ∧
    ∀ task ∈ (build profile definitions).tasks,
      task.settingsClass.name ≠ (build profile definitions).rootSettingsName := by
  constructor
  · intro parent hparent child hchild model hmodel hinherits hwords
    obtain ⟨-, -, hbase⟩ := settingsClass_of_commandModel? hmodel
    have hleads : baseClass profile child = _ := baseClass_eq_of_words hinherits hwords
    refine ⟨mem_tasks_build hchild hmodel, ?_, ?_⟩
    · intro above habove
      rw [habove] at hleads
      exact ⟨mem_tasks_build hparent habove, hbase.trans hleads⟩
    · intro hnone
      rw [hnone] at hleads
      exact hbase.trans hleads
  · intro task htask
    obtain ⟨model, hmodel, rfl⟩ := List.mem_map.1 htask
    obtain ⟨d, -, hd⟩ := List.mem_filterMap.1 hmodel
    obtain ⟨hname, hclass, -⟩ := settingsClass_of_commandModel? hd
    rw [hclass]
    -- A class with a postfix is named differently from the root.
    exact settingsClassName_ne_root hname

/-- A command that inherits options and stands directly below the program. -/
def buildX : CommandDefinition :=
  (CommandDefinition.ofUsage "docker\tbuild-x" "docker build-x").withInheritedOption {}

/-- A command below `buildX`, whose path is written with other white space than that of the one
above. -/
def pruneX : CommandDefinition :=
  (CommandDefinition.ofUsage " docker  build-x prune" "docker build-x prune").withInheritedOption {}

/-- A program with both commands, `buildX` and `pruneX`. -/
def buildXCommands : List CommandDefinition :=
  [CommandDefinition.ofUsage "docker" "docker", buildX, pruneX]

/-- Of the `buildXCommands` the lower one extends the class of the other, and that one extends the
root. -/
theorem baseClass_buildXCommands :
    (∃ above model, commandModel? {} buildX = some above ∧ commandModel? {} pruneX = some model ∧
      pruneX.inheritedOptions ≠ [] ∧ parentWords pruneX = words buildX.command ∧
      above.task.settingsClass.name = "DockerBuildXSettings" ∧
      model.task.settingsClass.baseClass = above.task.settingsClass.name) ∧
    ∃ model, commandModel? {} buildX = some model ∧ buildX.inheritedOptions ≠ [] ∧
      parentWords buildX = words (CommandDefinition.ofUsage "docker" "docker").command ∧
      commandModel? {} (CommandDefinition.ofUsage "docker" "docker") = none ∧
      model.task.settingsClass.baseClass = (build {} buildXCommands).rootSettingsName := by
  obtain ⟨hleads, -⟩ := baseClass_documented {} buildXCommands
  have hclass : (commandModel? {} buildX).map (fun model => model.task.settingsClass.name) =
      some "DockerBuildXSettings" := by
    decide +kernel
  obtain ⟨above, habove, hname⟩ := Option.map_eq_some_iff.1 hclass
  obtain ⟨model, hmodel⟩ := Option.isSome_iff_exists.1
    (by decide +kernel : (commandModel? {} pruneX).isSome = true)
  have hinherits_lower : pruneX.inheritedOptions ≠ [] := List.cons_ne_nil _ _
  have hinherits_upper : buildX.inheritedOptions ≠ [] := List.cons_ne_nil _ _
  have hwords_lower : parentWords pruneX = words buildX.command := by decide +kernel
  have hwords_upper : parentWords buildX =
      words (CommandDefinition.ofUsage "docker" "docker").command := by
    decide +kernel
  have hnone : commandModel? {} (CommandDefinition.ofUsage "docker" "docker") = none := by
    decide +kernel
  constructor
  · have hlower := hleads buildX (by simp [buildXCommands]) pruneX (by simp [buildXCommands])
      model hmodel hinherits_lower hwords_lower
    exact ⟨above, model, habove, hmodel, hinherits_lower, hwords_lower, hname,
      (hlower.2.1 above habove).2⟩
  · have hupper := hleads (CommandDefinition.ofUsage "docker" "docker")
      (by simp [buildXCommands]) buildX (by simp [buildXCommands]) above habove hinherits_upper
      hwords_upper
    exact ⟨above, habove, hinherits_upper, hwords_upper, hnone, hupper.2.2 hnone⟩

end WrapperModel.Assembly
