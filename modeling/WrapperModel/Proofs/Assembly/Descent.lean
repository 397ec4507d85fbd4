import Mathlib.Logic.Relation
import WrapperModel.Proofs.Assembly.Inheritance

/-!
# `WrapperModel.Proofs.Assembly.Descent`: inheritance does not cycle

A command stands below the path that its definition names as the one above if it has the words
of that path in front and more than hyphens behind them. The name of its task then begins with
the name of the task above and goes on, so the names become shorter from class to base class,
and no chain of base classes leads back to where it began.

* `baseClass_of_standsBelow`: a command that stands below extends the root, or the class of a
  proper beginning of its own name.
* `beginsIn_of_baseClass_eq`: so one step to a base class makes the name shorter.
* `beginsIn_of_extends`, `beginsIn_of_transGen`: one step in a model, and any number of them.
* `baseClass_descends`: all of it, for one command and for every model.
-/

set_option autoImplicit false

namespace WrapperModel.Assembly

open Relation (TransGen)
open WrapperModel.Text WrapperModel.Model WrapperModel.Naming
open WrapperModel.Definition (OptionDefinition CommandDefinition)

/-! ### Beginnings of names -/

/-- The text `long` is `short` with something behind it. The something may not be empty, so this is
a strict order. -/
def BeginsIn (short long : String) : Prop :=
  ∃ added, added ≠ "" ∧ long = short ++ added

/-- What goes on is longer, in characters. It excludes chains of base classes that lead back. -/
theorem BeginsIn.length_lt {short long : String} (h : BeginsIn short long) :
    short.length < long.length := by
  obtain ⟨added, hadded, rfl⟩ := h
  have hpositive : added.length ≠ 0 := by simpa using hadded
  rw [String.length_append]
  omega

/-- A beginning of a beginning is a beginning, so the relation goes along a whole chain. -/
theorem BeginsIn.trans {short middle long : String} (h : BeginsIn short middle)
    (h' : BeginsIn middle long) : BeginsIn short long := by
  obtain ⟨added, hadded, rfl⟩ := h
  obtain ⟨more, -, rfl⟩ := h'
  refine ⟨added ++ more, ?_, String.append_assoc⟩
  simpa using fun hnil : added = "" => absurd hnil hadded

/-- Nothing goes on behind itself (`BeginsIn.length_lt`), which is what keeps chains from leading
back. -/
theorem not_beginsIn_self (text : String) : ¬BeginsIn text text :=
  fun h => Nat.lt_irrefl _ h.length_lt

/-- Classes of one name belong to one task name: `settingsClassName` puts it between two fixed
texts. -/
theorem settingsClassName_inj {tool postfixName other : String}
    (h : settingsClassName tool postfixName = settingsClassName tool other) :
    postfixName = other := by
  rwa [settingsClassName, settingsClassName, String.append_left_inj, String.append_right_inj] at h

/-! ### One definition -/

/-- The command has the words of the command above in front, and behind them a word that is more
than hyphens. Hyphens alone would leave the two names alike. -/
def StandsBelow (d : CommandDefinition) : Prop :=
  ∃ extra, words d.command = parentWords d ++ extra ∧
    ∃ word ∈ extra, ∃ c ∈ word.toList, c ≠ '-'

/-- A command that `StandsBelow` the one above extends the root, or the class of a task name with
which its own task name begins. -/
theorem baseClass_of_standsBelow {profile : ToolProfile} {d : CommandDefinition}
    (h : StandsBelow d) :
    baseClass profile d = profile.rootSettingsName ∨
      ∃ shorter, baseClass profile d = settingsClassName profile.name shorter ∧
        BeginsIn shorter (taskPostfix profile.executable d.command) := by
  obtain ⟨extra, hwords, hextra⟩ := h
  rw [← words_parentPath] at hwords
  unfold baseClass
  split
  · exact .inl rfl
  · -- Without a name for the command above, the class is that of the root again.
    by_cases hparent : taskPostfix profile.executable (parentPath d) = ""
    · exact .inl (if_pos hparent)
    · exact .inr ⟨_, if_neg hparent, exists_taskPostfix_append hwords hextra hparent⟩

/-- The name of a task is the `taskPostfix` of its command's path. -/
theorem postfixName_of_commandModel? {profile : ToolProfile} {d : CommandDefinition}
    {model : CommandModel} (h : commandModel? profile d = some model) :
    model.task.postfixName = taskPostfix profile.executable d.command := by
  obtain ⟨-, rfl⟩ := commandModel?_eq_some_iff.1 h
  rfl

/-- The class that a command extends belongs to a task name with which the name of its own task
begins, whichever command has that class. Only commands that inherit options have to stand below,
for the others extend the root, which is no class of a task. -/
theorem beginsIn_of_baseClass_eq {profile : ToolProfile} {d above : CommandDefinition}
    {model upper : CommandModel} (hmodel : commandModel? profile d = some model)
    (hupper : commandModel? profile above = some upper)
    (hbelow : d.inheritedOptions ≠ [] → StandsBelow d)
    (hname : model.task.settingsClass.baseClass = upper.task.settingsClass.name) :
    BeginsIn upper.task.postfixName model.task.postfixName := by
  obtain ⟨-, -, hbase⟩ := settingsClass_of_commandModel? hmodel
  obtain ⟨hsome, hclass, -⟩ := settingsClass_of_commandModel? hupper
  rw [hbase, hclass] at hname
  -- The root is the class of no task, so the options are inherited from above.
  have hroot : baseClass profile d ≠ profile.rootSettingsName := by
    rw [hname]
    exact settingsClassName_ne_root hsome
  have hinherits : d.inheritedOptions ≠ [] := by
    intro hnil
    exact hroot (by rw [baseClass, hnil]; rfl)
  rcases baseClass_of_standsBelow (hbelow hinherits) with hbase | ⟨shorter, hbase, hbegins⟩
  · exact absurd hbase hroot
  · rw [postfixName_of_commandModel? hmodel, postfixName_of_commandModel? hupper,
      settingsClassName_inj (hname.symm.trans hbase)]
    exact hbegins

/-! ### Chains of base classes -/

/-- The settings of `task` extend those of `above`, both being tasks of the tool. Classes are
matched by name, as in the generated code. -/
def Extends (tool : Tool) (task above : Task) : Prop :=
  task ∈ tool.tasks ∧ above ∈ tool.tasks ∧
    task.settingsClass.baseClass = above.settingsClass.name

/-- Every command that inherits options and has a task `StandsBelow` the command above.
Documentation of nested commands is of this kind. -/
def AllStandBelow (profile : ToolProfile) (definitions : List CommandDefinition) : Prop :=
  ∀ d ∈ definitions, d.inheritedOptions ≠ [] → commandModel? profile d ≠ none → StandsBelow d

/-- The name of a task begins with the name of the task whose class it extends (`BeginsIn`). It is
the step of every chain. -/
theorem beginsIn_of_extends {profile : ToolProfile} {definitions : List CommandDefinition}
    (h : AllStandBelow profile definitions) {task above : Task}
    (hextends : Extends (build profile definitions) task above) :
    BeginsIn above.postfixName task.postfixName := by
  obtain ⟨htask, habove, hname⟩ := hextends
  obtain ⟨d, hd, model, hmodel, rfl⟩ := exists_of_mem_tasks htask
  obtain ⟨d', -, upper, hupper, rfl⟩ := exists_of_mem_tasks habove
  have hbelow : d.inheritedOptions ≠ [] → StandsBelow d :=
    fun hinherits => h d hd hinherits (by simp [hmodel])
  exact beginsIn_of_baseClass_eq hmodel hupper hbelow hname

/-- So it does with the name of every task that a chain of base classes leads to, by
`BeginsIn.trans`. -/
theorem beginsIn_of_transGen {profile : ToolProfile} {definitions : List CommandDefinition}
    (h : AllStandBelow profile definitions) {task above : Task}
    (hchain : TransGen (Extends (build profile definitions)) task above) :
    BeginsIn above.postfixName task.postfixName := by
  -- on the chain, one base class at a time
  induction hchain with
  | single hextends => exact beginsIn_of_extends h hextends
  | tail _ hextends ih => exact (beginsIn_of_extends h hextends).trans ih

/-- Inheritance goes up. A command that inherits options and stands below the command above extends
the root, or the class of a task name with which its own task name begins and goes on; it does not
extend itself, and whichever command has the class that it extends has such a name. Where all
commands of a model stand below the commands above (`AllStandBelow`), names become shorter along
every chain of base classes, and no chain leads back. -/
theorem baseClass_descends (profile : ToolProfile) :
    (∀ d model, commandModel? profile d = some model → d.inheritedOptions ≠ [] → StandsBelow d →
      (model.task.settingsClass.baseClass = profile.rootSettingsName ∨
        ∃ shorter, model.task.settingsClass.baseClass = settingsClassName profile.name shorter ∧
          BeginsIn shorter model.task.postfixName) ∧
      model.task.settingsClass.baseClass ≠ model.task.settingsClass.name ∧
      ∀ above upper, commandModel? profile above = some upper →
        model.task.settingsClass.baseClass = upper.task.settingsClass.name →
        BeginsIn upper.task.postfixName model.task.postfixName) ∧
    ∀ definitions, AllStandBelow profile definitions →
      (∀ task above, TransGen (Extends (build profile definitions)) task above →
        BeginsIn above.postfixName task.postfixName) ∧
      ∀ task, ¬TransGen (Extends (build profile definitions)) task task := by
  constructor
  · intro d model hmodel _ hbelow
    obtain ⟨-, -, hbase⟩ := settingsClass_of_commandModel? hmodel
    refine ⟨?_, ?_, fun above upper hupper => ?_⟩
    · rw [hbase, postfixName_of_commandModel? hmodel]
      exact baseClass_of_standsBelow hbelow
    · intro hself
      exact not_beginsIn_self _
        (beginsIn_of_baseClass_eq hmodel hmodel (fun _ => hbelow) hself)
    · exact beginsIn_of_baseClass_eq hmodel hupper fun _ => hbelow
  · intro definitions h
    refine ⟨fun task above hchain => beginsIn_of_transGen h hchain, fun task hchain => ?_⟩
    exact not_beginsIn_self _ (beginsIn_of_transGen h hchain)

/-- A command two levels below `build-x`, behind a word that is a hyphen. It names the command above
with other white space. -/
def pruneAllX : CommandDefinition :=
  ((CommandDefinition.ofUsage "docker build-x prune - all" "docker build-x prune").withParent
    "docker build-x\tprune").withInheritedOption {}

/-- Three commands, each with the one above it, so that a chain of two steps stands among them. -/
def pruneXCommands : List CommandDefinition :=
  [buildX, pruneX, pruneAllX]

/-- The lowest of the `pruneXCommands` extends the one in the middle, that one the upper one, and
the names become shorter. -/
theorem baseClass_pruneXCommands :
    (∃ model, commandModel? {} pruneAllX = some model ∧ pruneAllX.inheritedOptions ≠ [] ∧
      StandsBelow pruneAllX ∧
      model.task.settingsClass.baseClass ≠ model.task.settingsClass.name) ∧
    AllStandBelow {} pruneXCommands ∧
    ∃ task above, TransGen (Extends (build {} pruneXCommands)) task above ∧
      task.postfixName = "BuildXPruneAll" ∧ above.postfixName = "BuildX" ∧
      BeginsIn above.postfixName task.postfixName := by
  obtain ⟨hone, hmany⟩ := baseClass_descends {}
  obtain ⟨lower, hlower⟩ := Option.isSome_iff_exists.1
    (by decide +kernel : (commandModel? {} pruneAllX).isSome = true)
  obtain ⟨middle, hmiddle⟩ := Option.isSome_iff_exists.1
    (by decide +kernel : (commandModel? {} pruneX).isSome = true)
  obtain ⟨upper, hupper⟩ := Option.isSome_iff_exists.1
    (by decide +kernel : (commandModel? {} buildX).isSome = true)
  have hbelow : StandsBelow pruneAllX :=
    ⟨["-", "all"], by decide +kernel, "all", by decide, 'a', by decide, by decide⟩
  have hall : AllStandBelow {} pruneXCommands := by
    intro d hd _ _
    simp only [pruneXCommands, List.mem_cons, List.not_mem_nil, or_false] at hd
    rcases hd with rfl | rfl | rfl
    · exact ⟨["build-x"], by decide +kernel, "build-x", by decide, 'b', by decide, by decide⟩
    · exact ⟨["prune"], by decide +kernel, "prune", by decide, 'p', by decide, by decide⟩
    · exact hbelow
  have hsteps : (commandModel? {} pruneAllX).map (fun m => m.task.settingsClass.baseClass) =
        (commandModel? {} pruneX).map (fun m => m.task.settingsClass.name) ∧
      (commandModel? {} pruneX).map (fun m => m.task.settingsClass.baseClass) =
        (commandModel? {} buildX).map (fun m => m.task.settingsClass.name) ∧
      (commandModel? {} pruneAllX).map (fun m => m.task.postfixName) = some "BuildXPruneAll" ∧
      (commandModel? {} buildX).map (fun m => m.task.postfixName) = some "BuildX" := by
    decide +kernel
  simp only [hlower, hmiddle, hupper, Option.map_some, Option.some.injEq] at hsteps
  obtain ⟨hfirst, hsecond, hlowerName, hupperName⟩ := hsteps
  have hchain : TransGen (Extends (build {} pruneXCommands)) lower.task upper.task :=
    .tail
      (.single ⟨mem_tasks_build (by decide) hlower, mem_tasks_build (by decide) hmiddle, hfirst⟩)
      ⟨mem_tasks_build (by decide) hmiddle, mem_tasks_build (by decide) hupper, hsecond⟩
  exact ⟨⟨lower, hlower, List.cons_ne_nil _ _, hbelow,
      (hone _ _ hlower (List.cons_ne_nil _ _) hbelow).2.1⟩, hall,
    lower.task, upper.task, hchain, hlowerName, hupperName, (hmany _ hall).1 _ _ hchain⟩

end WrapperModel.Assembly
