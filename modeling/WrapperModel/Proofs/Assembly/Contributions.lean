import WrapperModel.Proofs.Assembly.Command
import WrapperModel.Proofs.Assembly.Incremental
import WrapperModel.Proofs.Naming.Passes
import WrapperModel.Proofs.Usage.Literals

/-!
# `WrapperModel.Proofs.Assembly.Contributions`: what stands where in a usage template

A fact about one item of a usage template is a fact about a place in the model of its command.
Here are two of them, about the two ways of writing a repetition and about the options marker.

* `repetitions_alike`: both ways of writing a repetition contribute the same but for the help.
* `commandModel?_of_marker`: what the options marker contributes at its place. Written as a
  placeholder it stands for the declared options. Written otherwise it is a literal word of the
  command, unless its own repetition follows.
* `optionsMarker_stands_iff`: so the options markers that always stand for the declared options
  are those that are written as placeholders.
-/

set_option autoImplicit false

namespace WrapperModel.Assembly

open WrapperModel.Text WrapperModel.Model WrapperModel.Naming WrapperModel.Usage
open WrapperModel.Definition (OptionDefinition CommandDefinition)

/-! ### Repetitions -/

/-- A list or a map contributes a property, unless it is the options marker; so does every other
placeholder. `placeholderProperty` makes the property, and nothing comes with it. -/
theorem contribution_of_ne_marker {profile : ToolProfile} {p : Parameter} (d : CommandDefinition)
    (hargument : p.isArgument = true) (hmarker : p.raw ≠ profile.optionsMarker) :
    contribution profile d p = { properties := [placeholderProperty profile d p] } := by
  simp [contribution, hargument, hmarker]

/-- Both ways of writing a repetition contribute the same. A token that neither begins nor ends with
a bracket gives one item in front of its repetition (`repeated`), and its repetition gives one item
alone. Both are a list or both a map, and both have the same name. In any two commands whose usage
templates have these items, what each contributes is its `placeholderProperty`, unless the item is
the options marker, and the two differ in nothing but the help. -/
theorem repetitions_alike {token : String} (hopen : startsWith "[" token = false)
    (hclose : endsWith "]" token = false) :
    ∃ p q : Parameter,
      parameters [token, repeated token] = [p] ∧ parameters [repeated token] = [q] ∧
      p.isList = q.isList ∧ p.isDictionary = q.isDictionary ∧ p.isList = !p.isDictionary ∧
      p.name = q.name ∧
      ∀ (profile : ToolProfile) (d e : CommandDefinition),
        (p.raw ≠ profile.optionsMarker →
          contribution profile d p = { properties := [placeholderProperty profile d p] }) ∧
        (q.raw ≠ profile.optionsMarker →
          contribution profile e q = { properties := [placeholderProperty profile e q] }) ∧
        { placeholderProperty profile d p with help := none } =
          { placeholderProperty profile e q with help := none } := by
  have hopening : "[".toList = ['['] := rfl
  have hclosing : "]".toList = [']'] := rfl
  have hhead : token.toList.head? ≠ some '[' := by
    rw [ne_eq, ← startsWith_iff_head? hopening, hopen]
    exact Bool.false_ne_true
  have hlast : token.toList.getLast? ≠ some ']' := by
    rw [ne_eq, ← endsWith_iff_getLast? hclosing, hclose]
    exact Bool.false_ne_true
  -- The two items differ in the text that they were read from, and have one name nevertheless.
  have hname := name_repeated token (mapPlaceholder? token.toList).isNone
    (mapPlaceholder? token.toList).isSome
  refine ⟨_, _, parameters_token_repeated hhead hlast, parameters_repeated hhead hlast, rfl, rfl,
    ?_, hname.symm, ?_⟩
  · show Option.isNone _ = !Option.isSome _
    simp
  · intro profile d e
    -- Either flag makes an argument of the item, and one of the two is set.
    have hargument : ∀ raw, (⟨raw, (mapPlaceholder? token.toList).isNone,
        (mapPlaceholder? token.toList).isSome⟩ : Parameter).isArgument = true := by
      intro raw
      cases hmap : mapPlaceholder? token.toList <;> simp [Parameter.isArgument]
    refine ⟨contribution_of_ne_marker d (hargument _),
      contribution_of_ne_marker e (hargument _), ?_⟩
    simp only [placeholderProperty, placeholderPropertyName, placeholderType, hname]

/-- A list of alternatives is named after the same alternative in both ways of writing it, although
the two items differ: the `raw` text of one has the brackets and the dots. -/
theorem repetitions_alike_self_node :
    (startsWith "[" "self|NODE" = false ∧ endsWith "]" "self|NODE" = false) ∧
    ∃ p q : Parameter,
      parameters ["self|NODE", "[self|NODE...]"] = [p] ∧ parameters ["[self|NODE...]"] = [q] ∧
      p ≠ q ∧ p.isList = q.isList ∧ p.name = q.name ∧ p.name = "Node" ∧
      { placeholderProperty {} {} p with help := none } =
        { placeholderProperty {} {} q with help := none } := by
  have hopen : startsWith "[" "self|NODE" = false := by decide
  have hclose : endsWith "]" "self|NODE" = false := by decide
  have htoken : repeated "self|NODE" = "[self|NODE...]" := by decide
  obtain ⟨p, q, hp, hq, hlist, -, -, hname, halike⟩ := repetitions_alike hopen hclose
  rw [htoken] at hp hq
  -- Both items are worked out, so that their names can be compared by evaluation.
  have hp' : parameters ["self|NODE", "[self|NODE...]"] = [⟨"self|NODE", true, false⟩] := by
    decide +kernel
  have hq' : parameters ["[self|NODE...]"] = [⟨"[self|NODE...]", true, false⟩] := by
    decide +kernel
  obtain rfl := List.singleton_inj.1 (hp.symm.trans hp')
  obtain rfl := List.singleton_inj.1 (hq.symm.trans hq')
  exact ⟨⟨hopen, hclose⟩, _, _, hp, hq, by decide, hlist, hname, by decide +kernel,
    (halike {} {} {}).2.2⟩

/-! ### The options marker -/

/-- What stands for all declared options: their properties in their order, and the enumerations that
their descriptions list. It says `optionsContribution` without the pairs that `optionProperty`
gives. -/
def declaredOptions (d : CommandDefinition) : Contribution where
  properties := d.options.map fun o => (optionProperty o).1
  enumerations := d.options.filterMap listedEnumeration?

/-- What the options marker contributes is what the `declaredOptions` are. -/
theorem optionsContribution_eq (d : CommandDefinition) :
    optionsContribution d = declaredOptions d := by
  simp only [optionsContribution, declaredOptions, optionProperty_snd]

/-- What the options marker gives, as a list or not. As a placeholder it stands for the declared
options (`optionsContribution`). As a literal word it is kept, unless it is the program. -/
def markerContribution (profile : ToolProfile) (d : CommandDefinition) (isList : Bool) :
    Contribution :=
  if isList || isPlaceholderToken profile.optionsMarker then declaredOptions d
  else
    { literals :=
        if profile.optionsMarker = profile.executable then [] else [profile.optionsMarker] }

/-- In every command with a task, each item that is the options marker gives the properties of all
declared options at its place, in their order, with the enumerations that these list, and nothing
else. -/
def MarkerStandsForOptions (profile : ToolProfile) : Prop :=
  ∀ (d : CommandDefinition) (before behind : List Parameter) (p : Parameter),
    taskPostfix profile.executable d.command ≠ "" → ofTemplate d.usage = before ++ p :: behind →
    p.raw = profile.optionsMarker →
    commandModel? profile d = some (assembled profile d
      (together profile d before ++ (declaredOptions d ++ together profile d behind)))

/-- What the options marker gives at its place in a template, by `markerContribution`. The item may
be a list, if its own repetition follows, and then it is a placeholder however it is written. -/
theorem commandModel?_of_marker {profile : ToolProfile} {d : CommandDefinition}
    {before behind : List Parameter} {p : Parameter}
    (htask : taskPostfix profile.executable d.command ≠ "")
    (hsplit : ofTemplate d.usage = before ++ p :: behind)
    (hmarker : p.raw = profile.optionsMarker) :
    commandModel? profile d = some (assembled profile d
      (together profile d before ++
        (markerContribution profile d p.isList ++ together profile d behind))) := by
  have hp : p ∈ ofTemplate d.usage := hsplit ▸ List.mem_append_right before List.mem_cons_self
  -- The marker is told from a literal word as any other item is, by how it is written.
  have hmarked : contribution profile d p = markerContribution profile d p.isList := by
    rw [markerContribution, ← hmarker, ← isArgument_of_mem_parameters hp, contribution,
      optionsContribution_eq]
    cases p.isArgument with
    | true => simp [hmarker]
    | false => simp
  rw [commandModel?_of_split htask hsplit, hmarked]

/-- A path of two words has a task name, whatever the program is: one of the words is left of it. So
a command with a task can be made for any profile. -/
theorem taskPostfix_twoWords (program : String) : taskPostfix program "a a" ≠ "" := by
  have hwords : words "a a" = ["a", "a"] := by decide
  rw [ne_eq, taskPostfix_eq_empty_iff, commandWords_eq, hwords]
  -- A word is left, also where the program is in front.
  split <;> exact List.cons_ne_nil _ _

/-- A marker that is a literal word is lost where it is the whole usage template of a command with
an option. So a marker that always stands for the options has to be a placeholder. It has to be one
word, or it could be no item of a template at all. -/
theorem isPlaceholderToken_of_standsForOptions {profile : ToolProfile}
    (hword : words profile.optionsMarker = [profile.optionsMarker])
    (h : MarkerStandsForOptions profile) : isPlaceholderToken profile.optionsMarker = true := by
  rw [← Bool.not_eq_false]
  intro hliteral
  let d : CommandDefinition :=
    { command := "a a", usage := profile.optionsMarker, options := [{}] }
  have hsplit : ofTemplate d.usage = [] ++ ⟨profile.optionsMarker, false, false⟩ :: [] := by
    show parameters (words profile.optionsMarker) = _
    rw [hword, parameters_literal hliteral (by simp), parameters]
    rfl
  have htask : taskPostfix profile.executable d.command ≠ "" :=
    taskPostfix_twoWords profile.executable
  have hstands := h d [] [] _ htask hsplit rfl
  rw [commandModel?_of_marker htask hsplit rfl] at hstands
  -- One side has no property, the other has that of the option.
  have hproperties := congrArg (Option.map fun model => model.task.settingsClass.properties) hstands
  simp [assembled, together, markerContribution, declaredOptions, hliteral, d] at hproperties

/-- The options markers that always stand for the declared options (`MarkerStandsForOptions`) are
those that are written as placeholders (`isPlaceholderToken`). At its place in a usage template, any
marker gives its `markerContribution`: the properties of all declared options and their
enumerations, if it is written as a placeholder or its repetition follows. Else it gives no property
but a literal word, unless it is the program. The marker has to be one word (`hword`), since the
items of a template are made of its words. -/
theorem optionsMarker_stands_iff (profile : ToolProfile)
    (hword : words profile.optionsMarker = [profile.optionsMarker]) :
    (MarkerStandsForOptions profile ↔ isPlaceholderToken profile.optionsMarker = true) ∧
    ∀ (d : CommandDefinition) (before behind : List Parameter) (p : Parameter),
      taskPostfix profile.executable d.command ≠ "" → ofTemplate d.usage = before ++ p :: behind →
      p.raw = profile.optionsMarker →
      commandModel? profile d = some (assembled profile d
        (together profile d before ++
          (markerContribution profile d p.isList ++ together profile d behind))) := by
  refine ⟨⟨isPlaceholderToken_of_standsForOptions hword, ?_⟩, ?_⟩
  · intro hwritten d before behind p htask hsplit hmarker
    rw [commandModel?_of_marker htask hsplit hmarker, markerContribution, hwritten, Bool.or_true,
      if_pos rfl]
  · intro d before behind p htask hsplit hmarker
    exact commandModel?_of_marker htask hsplit hmarker

/-- A tool whose options are documented as `[OPTION]...`. The marker has a bracket in front and dots
behind, so it is no placeholder. -/
def podman : ToolProfile :=
  { name := "Podman", executable := "podman", optionsMarker := "[OPTION]..." }

/-- A command of `podman` with one option, which its usage template names by the marker. -/
def podmanRm : CommandDefinition :=
  (CommandDefinition.ofUsage "podman rm" "podman rm [OPTION]... CONTAINER").withOption
    (.ofNameAndType "force" "bool")

/-- The marker of `podman`, with dots behind its bracket, is kept as a literal word, and one that
ends with its bracket stands for the options. -/
theorem optionsMarker_stands_podman :
    (words podman.optionsMarker = [podman.optionsMarker] ∧
      taskPostfix podman.executable podmanRm.command ≠ "" ∧
      ofTemplate podmanRm.usage =
        [⟨"podman", false, false⟩, ⟨"rm", false, false⟩] ++
          ⟨"[OPTION]...", false, false⟩ :: [⟨"CONTAINER", false, false⟩]) ∧
    commandModel? podman podmanRm = some (assembled podman podmanRm
      (together podman podmanRm [⟨"podman", false, false⟩, ⟨"rm", false, false⟩] ++
        (markerContribution podman podmanRm false ++
          together podman podmanRm [⟨"CONTAINER", false, false⟩]))) ∧
    markerContribution podman podmanRm false = { literals := ["[OPTION]..."] } ∧
    words "[flags]" = ["[flags]"] ∧ MarkerStandsForOptions { optionsMarker := "[flags]" } := by
  have hword : words podman.optionsMarker = [podman.optionsMarker] := by decide
  have htask : taskPostfix podman.executable podmanRm.command ≠ "" := by decide +kernel
  have hsplit : ofTemplate podmanRm.usage =
      [⟨"podman", false, false⟩, ⟨"rm", false, false⟩] ++
        ⟨"[OPTION]...", false, false⟩ :: [⟨"CONTAINER", false, false⟩] := by decide +kernel
  refine ⟨⟨hword, htask, hsplit⟩, ?_, by decide +kernel, by decide, ?_⟩
  · exact (optionsMarker_stands_iff podman hword).2 podmanRm _ _ _ htask hsplit rfl
  · exact (optionsMarker_stands_iff { optionsMarker := "[flags]" } (by decide)).1.2 (by decide)

/-- The marker of `podman` is one word and the command has a task, but the option is lost, and the
marker stands among the words of the command instead. -/
theorem not_standsForOptions_podman :
    words podman.optionsMarker = [podman.optionsMarker] ∧ ¬MarkerStandsForOptions podman ∧
    (commandModel? podman podmanRm).map (fun model =>
        (model.task.definiteArgument, model.task.settingsClass.properties.map (·.name))) =
      some ("rm [OPTION]...", ["Container"]) := by
  have hword : words podman.optionsMarker = [podman.optionsMarker] := by decide
  refine ⟨hword, ?_, by decide +kernel⟩
  intro h
  exact absurd (isPlaceholderToken_of_standsForOptions hword h) (by decide)

end WrapperModel.Assembly
