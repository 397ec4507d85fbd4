import WrapperModel.Proofs.Assembly.Command
import WrapperModel.Proofs.Enumeration.LastWriter

/-!
# `WrapperModel.Proofs.Assembly.Incremental`: a model grows with its definitions

Every command is modelled on its own, so tasks and references of further definitions come
behind those that are there. Only the enumerations are merged. `minedEnumerations` says
without the models of commands what is merged: what the descriptions list, option by option
as the usage templates expand them. With the levels of logging in front this is a history of
the merged registry (`records_mergedEnumerations`), and the history determines the result.

* `enumerations_commandModel?`, `enumerations_commandModels`: what the commands contribute.
* `enumerations_build_append`: further definitions insert what they list.
* `findEnumeration?_build`: the last values of a name win, and the levels of logging stand
  where nothing else was listed under their name.
* `build_append`: all parts of the model together.
-/

set_option autoImplicit false

namespace WrapperModel.Assembly

open WrapperModel.Model WrapperModel.Naming WrapperModel.Usage
open WrapperModel.Definition (OptionDefinition CommandDefinition)
open WrapperModel.Enumeration (Registry Records records_ofList records_self names mine
  latest? latest?_cons nodup_eraseDups)

/-! ### What definitions list -/

/-- The enumeration that the description of an option lists, with the name of the option's property.
It is none where the description lists no values. -/
def listedEnumeration? (o : OptionDefinition) : Option Enumeration :=
  (mine (o.description.getD "")).map fun values => ⟨pascalCase o.name '-', values⟩

/-- The options that the usage template of a command expands to: all declared ones in their order,
for every options marker. A template without the marker expands to none, and one that has it twice
to all of them twice. -/
def expandedOptions (profile : ToolProfile) (d : CommandDefinition) : List OptionDefinition :=
  (ofTemplate d.usage).flatMap fun p =>
    if p.isArgument && p.raw = profile.optionsMarker then d.options else []

/-- The enumerations that definitions list, in the order of the definitions and of their
`expandedOptions`. The program on its own has no task and lists nothing. -/
def minedEnumerations (profile : ToolProfile) (definitions : List CommandDefinition) :
    List Enumeration :=
  let withTask := definitions.filter fun d => taskPostfix profile.executable d.command ≠ ""
  (withTask.flatMap (expandedOptions profile)).filterMap listedEnumeration?

/-- More definitions list what they list behind what the first ones do. -/
theorem minedEnumerations_append (profile : ToolProfile) (a b : List CommandDefinition) :
    minedEnumerations profile (a ++ b) =
      minedEnumerations profile a ++ minedEnumerations profile b := by
  simp only [minedEnumerations, List.filter_append, List.flatMap_append, List.filterMap_append]

/-- The enumeration that an option gives out is the one that it lists (`listedEnumeration?`).
Whether it lists one decides the type of its property too. -/
theorem optionProperty_snd (o : OptionDefinition) :
    (optionProperty o).2 = listedEnumeration? o := by
  simp only [optionProperty, listedEnumeration?]
  cases mine (o.description.getD "") <;> rfl

/-- An item of a usage template contributes what the options list that it expands to: all for the
marker, none for any other item. -/
theorem enumerations_contribution (profile : ToolProfile) (d : CommandDefinition)
    (p : Parameter) :
    (contribution profile d p).enumerations =
      (if p.isArgument && p.raw = profile.optionsMarker then d.options else []).filterMap
        listedEnumeration? := by
  rcases contribution_cases profile d p with
    ⟨hargument, heq⟩ | ⟨hargument, hmarker, heq⟩ | ⟨hargument, hmarker, heq⟩
  · simp [heq, hargument]
  · simp [heq, hargument, hmarker, optionsContribution, optionProperty_snd]
  · simp [heq, hargument, hmarker]

/-- The model of a command comes with what its `expandedOptions` list, in their order. -/
theorem enumerations_commandModel? {profile : ToolProfile} {d : CommandDefinition}
    {model : CommandModel} (h : commandModel? profile d = some model) :
    model.enumerations = (expandedOptions profile d).filterMap listedEnumeration? := by
  obtain ⟨-, rfl⟩ := commandModel?_eq_some_iff.1 h
  simp only [assembled, together, expandedOptions, List.filterMap_flatMap,
    enumerations_contribution]

/-- The models of all commands come with what the definitions list. This leads from the models,
which are made one by one, to `minedEnumerations`, which is one list. -/
theorem enumerations_commandModels (profile : ToolProfile)
    (definitions : List CommandDefinition) :
    (commandModels profile definitions).flatMap (·.enumerations) =
      minedEnumerations profile definitions := by
  induction definitions with
  | nil => rfl
  | cons d rest ih =>
    have hsplit := minedEnumerations_append profile [d] rest
    rw [List.singleton_append] at hsplit
    rw [hsplit, ← ih, commandModels, List.filterMap_cons, ← commandModels]
    -- A command without a task name has no model, and what it lists is left out.
    cases hmodel : commandModel? profile d with
    | none =>
      have hname := commandModel?_eq_none_iff.1 hmodel
      simp [minedEnumerations, hname]
    | some model =>
      have hname : taskPostfix profile.executable d.command ≠ "" := by
        rw [ne_eq, ← commandModel?_eq_none_iff, hmodel]
        simp
      rw [List.flatMap_cons, enumerations_commandModel? hmodel]
      simp [minedEnumerations, hname]

/-! ### The merged registry -/

/-- The history of the merged registry, in the sense of `Records`: the levels of logging, then what
the definitions list. -/
theorem records_mergedEnumerations (profile : ToolProfile)
    (definitions : List CommandDefinition) :
    Records (mergedEnumerations profile definitions).1
      (ToolProfile.logLevel :: minedEnumerations profile definitions) := by
  rw [mergedEnumerations, enumerations_commandModels]
  exact (records_ofList [ToolProfile.logLevel]).insertAll _

/-- The enumerations of a model of more definitions are those of the model before, made into a
registry, with all that the further definitions list inserted (`minedEnumerations`). Both sides have
one history. -/
theorem enumerations_build_append (profile : ToolProfile) (a b : List CommandDefinition) :
    (build profile (a ++ b)).enumerations =
      ((Registry.ofList (build profile a).enumerations).1.insertAll
        (minedEnumerations profile b)).1.entries := by
  -- Both registries have the history of the one merged from `a`, continued by `b`.
  have hwhole := (records_self (mergedEnumerations profile a).1).insertAll
    (minedEnumerations profile b)
  have hbefore := (records_ofList (build profile a).enumerations).insertAll
    (minedEnumerations profile b)
  rw [← hwhole.entries_eq hbefore]
  refine (records_mergedEnumerations profile (a ++ b)).entries_eq ?_
  rw [minedEnumerations_append]
  exact (records_mergedEnumerations profile a).insertAll (minedEnumerations profile b)

/-- The names of the enumerations stand in the order in which they first came, with `LogLevel` in
front. A later value of a name does not move it. -/
theorem names_build (profile : ToolProfile) (definitions : List CommandDefinition) :
    names (build profile definitions).enumerations =
      ("LogLevel" :: names (minedEnumerations profile definitions)).eraseDups :=
  (records_mergedEnumerations profile definitions).order

/-- Under a name the model has what was listed last. Where nothing was, `LogLevel` has the levels of
logging, and any other name nothing. -/
theorem findEnumeration?_build (profile : ToolProfile) (definitions : List CommandDefinition)
    (name : String) :
    (build profile definitions).findEnumeration? name =
      (latest? (minedEnumerations profile definitions) name).or
        (if name = "LogLevel" then some ToolProfile.logLevel else none) := by
  have hfind : (build profile definitions).findEnumeration? name =
      (mergedEnumerations profile definitions).1.get? name :=
    (Registry.get?_eq_find? _ name).symm
  rw [hfind, (records_mergedEnumerations profile definitions).latest, latest?_cons]
  simp only [ToolProfile.logLevel, eq_comm]

/-- Building is incremental. The tasks and the references of further definitions come behind those
that are there, and what the further definitions list (`minedEnumerations`) is inserted into the
enumerations that are there. The enumerations of any model have distinct names, `LogLevel` first and
then in the order in which the names were first listed. Under each name stands what was listed last,
and under `LogLevel` the levels of logging where nothing was. -/
theorem build_append (profile : ToolProfile) :
    (∀ a b : List CommandDefinition,
      (build profile (a ++ b)).tasks = (build profile a).tasks ++ (build profile b).tasks ∧
      (build profile (a ++ b)).references =
        (build profile a).references ++ (build profile b).references ∧
      (build profile (a ++ b)).enumerations =
        ((Registry.ofList (build profile a).enumerations).1.insertAll
          (minedEnumerations profile b)).1.entries) ∧
    ∀ definitions : List CommandDefinition,
      (∀ name, (build profile definitions).findEnumeration? name =
        (latest? (minedEnumerations profile definitions) name).or
          (if name = "LogLevel" then some ToolProfile.logLevel else none)) ∧
      (names (build profile definitions).enumerations).Nodup ∧
      (names (build profile definitions).enumerations).head? = some "LogLevel" ∧
      names (build profile definitions).enumerations =
        ("LogLevel" :: names (minedEnumerations profile definitions)).eraseDups := by
  constructor
  · -- Tasks and references are made definition by definition; the registry has to be resumed.
    intro a b
    refine ⟨?_, ?_, enumerations_build_append profile a b⟩
    · simp only [build, commandModels, List.filterMap_append, List.map_append]
    · show references (a ++ b) = references a ++ references b
      simp only [references, List.map_append, List.filter_append]
  · intro definitions
    have hnames := names_build profile definitions
    refine ⟨findEnumeration?_build profile definitions, ?_, ?_, hnames⟩
    · rw [hnames]
      exact nodup_eraseDups _
    · rw [hnames, List.eraseDups_cons]
      rfl

end WrapperModel.Assembly
