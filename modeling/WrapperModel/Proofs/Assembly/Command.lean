import WrapperModel.Assembly

/-!
# `WrapperModel.Proofs.Assembly.Command`: the model of one command

Every item of a usage template contributes on its own, and contributions stand side by side in
the order of the items. `together` is what a stretch of a template contributes, and `assembled`
the model that is made from what the whole template does.

* `contribution_cases`: the three kinds of items.
* `together_append`, `together_cons`: two stretches contribute side by side.
* `commandModel?_eq_some_iff`, `commandModel?_eq_none_iff`: a command with a task name has the
  model that is assembled from its usage template, and a command without one has none.
* `commandModel?_of_split`: a place in the template is a place in the model.
-/

set_option autoImplicit false

namespace WrapperModel.Assembly

open WrapperModel.Text WrapperModel.Model WrapperModel.Naming WrapperModel.Usage
open WrapperModel.Definition (CommandDefinition)

/-! ### One item -/

/-- What an item contributes. A literal word contributes itself, unless it is the program. The
options marker contributes the declared options, and any other placeholder its property. Later
proofs ask for these cases and do not open `contribution`. -/
theorem contribution_cases (profile : ToolProfile) (d : CommandDefinition) (p : Parameter) :
    (p.isArgument = false ∧
      contribution profile d p =
        { literals := if p.raw = profile.executable then [] else [p.raw] }) ∨
    (p.isArgument = true ∧ p.raw = profile.optionsMarker ∧
      contribution profile d p = optionsContribution d) ∨
    (p.isArgument = true ∧ p.raw ≠ profile.optionsMarker ∧
      contribution profile d p = { properties := [placeholderProperty profile d p] }) := by
  cases hargument : p.isArgument with
  | false => exact .inl ⟨rfl, by simp [contribution, hargument]⟩
  | true =>
    by_cases hmarker : p.raw = profile.optionsMarker
    · exact .inr (.inl ⟨rfl, hmarker, by simp [contribution, hargument, hmarker]⟩)
    · exact .inr (.inr ⟨rfl, hmarker, by simp [contribution, hargument, hmarker]⟩)

/-! ### Stretches of a template -/

/-- Contributions side by side: the texts, the properties and the enumerations of each are joined on
their own. With it what `commandModel?` folds up is a flat map over the items. -/
instance : Append Contribution where
  append a b :=
    ⟨a.literals ++ b.literals, a.properties ++ b.properties, a.enumerations ++ b.enumerations⟩

/-- The literal words of two contributions stand side by side. -/
@[simp]
theorem literals_append (a b : Contribution) : (a ++ b).literals = a.literals ++ b.literals :=
  rfl

/-- The properties of two contributions stand side by side. -/
@[simp]
theorem properties_append (a b : Contribution) :
    (a ++ b).properties = a.properties ++ b.properties :=
  rfl

/-- What some items contribute together, in their order. `commandModel?_eq` says that a model is
`assembled` from what all its items contribute together. -/
def together (profile : ToolProfile) (d : CommandDefinition) (items : List Parameter) :
    Contribution where
  literals := items.flatMap fun p => (contribution profile d p).literals
  properties := items.flatMap fun p => (contribution profile d p).properties
  enumerations := items.flatMap fun p => (contribution profile d p).enumerations

/-- Two stretches of a template contribute side by side: `together` takes one list behind the other
to one contribution beside the other. -/
theorem together_append (profile : ToolProfile) (d : CommandDefinition) (a b : List Parameter) :
    together profile d (a ++ b) = together profile d a ++ together profile d b := by
  simp only [together, List.flatMap_append]
  rfl

/-- The first item contributes in front of the others (`together`), which is how a marker is cut out
of a template. -/
theorem together_cons (profile : ToolProfile) (d : CommandDefinition) (p : Parameter)
    (items : List Parameter) :
    together profile d (p :: items) = contribution profile d p ++ together profile d items := by
  simp only [together, List.flatMap_cons]
  rfl

/-! ### The model of a command -/

/-- The model of a command whose usage template contributes `c`. All else comes from the definition
and the profile. -/
def assembled (profile : ToolProfile) (d : CommandDefinition) (c : Contribution) :
    CommandModel where
  task :=
    { postfixName := taskPostfix profile.executable d.command
      help := d.short.bind helpLine?
      definiteArgument := joinWith " " c.literals
      settingsClass :=
        { name := settingsClassName profile.name (taskPostfix profile.executable d.command)
          baseClass := baseClass profile d
          properties := c.properties }
      flags := d.flags }
  enumerations := c.enumerations

/-- A command has a model if it has a task name, and the model is `assembled` from what the usage
template contributes. -/
theorem commandModel?_eq_some_iff {profile : ToolProfile} {d : CommandDefinition}
    {model : CommandModel} :
    commandModel? profile d = some model ↔
      taskPostfix profile.executable d.command ≠ "" ∧
        model = assembled profile d (together profile d (ofTemplate d.usage)) := by
  simp only [commandModel?, contributions, List.flatMap_map, Option.ite_none_left_eq_some,
    Option.some.injEq]
  exact and_congr_right fun _ => eq_comm

/-- A command without a task name has no model, and only such a one has none. Its `taskPostfix` is
empty, as it is for the program on its own. -/
theorem commandModel?_eq_none_iff {profile : ToolProfile} {d : CommandDefinition} :
    commandModel? profile d = none ↔ taskPostfix profile.executable d.command = "" := by
  rw [Option.eq_none_iff_forall_ne_some]
  simp [commandModel?_eq_some_iff]

/-- The model of a command with a task name is `assembled` from what the items of its usage template
contribute `together`. All further facts about models of commands go by this equation. -/
theorem commandModel?_eq {profile : ToolProfile} {d : CommandDefinition}
    (htask : taskPostfix profile.executable d.command ≠ "") :
    commandModel? profile d =
      some (assembled profile d (together profile d (ofTemplate d.usage))) :=
  commandModel?_eq_some_iff.2 ⟨htask, rfl⟩

/-- An item between two stretches of the template contributes between them, so a fact about the item
is one about a place in the model. -/
theorem commandModel?_of_split {profile : ToolProfile} {d : CommandDefinition}
    {before behind : List Parameter} {p : Parameter}
    (htask : taskPostfix profile.executable d.command ≠ "")
    (hsplit : ofTemplate d.usage = before ++ p :: behind) :
    commandModel? profile d = some (assembled profile d
      (together profile d before ++ (contribution profile d p ++ together profile d behind))) := by
  rw [commandModel?_eq htask, hsplit, together_append, together_cons]

end WrapperModel.Assembly
