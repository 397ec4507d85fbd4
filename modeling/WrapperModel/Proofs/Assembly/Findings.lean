import Mathlib.Data.List.Basic
import WrapperModel.Proofs.Assembly.Command
import WrapperModel.Proofs.Enumeration.Mining
import WrapperModel.Proofs.Enumeration.Registry
import WrapperModel.Proofs.Model.Validation
import WrapperModel.Proofs.Naming

/-!
# `WrapperModel.Proofs.Assembly.Findings`: what validation finds in a built model

A property that refers to an enumeration and the enumeration itself are made at one place,
`optionProperty`, from one name. `IsComplete` says that some properties come with all the
enumerations that they refer to; it holds of every option, so of every contribution and of
every command, and the registry loses no name when the commands are merged.

`Coherent` gathers what a built model has whatever it was built from:

* `coherent_build`: every built model is coherent.
* `findings_of_coherent`: a coherent model with a name has no findings but repeated tasks
  and repeated properties.
* `findings_build`: both for the model of any profile and any definitions; a blank name is
  then the only finding.
-/

set_option autoImplicit false

namespace WrapperModel.Assembly

open WrapperModel.Text WrapperModel.Model WrapperModel.Naming WrapperModel.Usage
open WrapperModel.Definition (OptionDefinition CommandDefinition)
open WrapperModel.Enumeration (Registry names mine mine_ne_nil nodup_mine)

/-! ### Properties with their enumerations -/

/-- The properties come with the enumerations that they refer to, and these have values without
repetitions. It is what one option gives, and what joining preserves. -/
structure IsComplete (properties : List Property) (enumerations : List Enumeration) : Prop where
  declared : ∀ p ∈ properties, ∀ name, p.type = .enumeration name → name ∈ names enumerations
  values_ne_nil : ∀ e ∈ enumerations, e.values ≠ []
  values_nodup : ∀ e ∈ enumerations, e.values.Nodup

/-- Parts that are complete on their own are complete together. Options, items and commands are put
together this way, so the property is proved once at the bottom. -/
theorem IsComplete.flatMap {α : Type} {properties : α → List Property}
    {enumerations : α → List Enumeration} (parts : List α)
    (h : ∀ part ∈ parts, IsComplete (properties part) (enumerations part)) :
    IsComplete (parts.flatMap properties) (parts.flatMap enumerations) where
  declared p hp name htype := by
    obtain ⟨part, hpart, hp⟩ := List.mem_flatMap.1 hp
    obtain ⟨e, he, hname⟩ := List.mem_map.1 ((h part hpart).declared p hp name htype)
    exact List.mem_map.2 ⟨e, List.mem_flatMap.2 ⟨part, hpart, he⟩, hname⟩
  values_ne_nil e he := by
    obtain ⟨part, hpart, he⟩ := List.mem_flatMap.1 he
    exact (h part hpart).values_ne_nil e he
  values_nodup e he := by
    obtain ⟨part, hpart, he⟩ := List.mem_flatMap.1 he
    exact (h part hpart).values_nodup e he

/-- No tag stands for an enumeration, so only descriptions can make one, and `optionProperty` gives
out its values with it. -/
theorem mapping_type_ne_enumeration (type : ValueType) (name : String) :
    type.mapping.type ≠ .enumeration name := by
  cases type <;> simp [ValueType.mapping]

/-- An option whose description lists values has an enumeration type of the name under which the
values are given out; any other has the type of its tag. Later proofs ask for these cases and do not
open `optionProperty`. -/
theorem optionProperty_cases (o : OptionDefinition) :
    (∃ values, mine (o.description.getD "") = some values ∧
      (optionProperty o).1.type = .enumeration (pascalCase o.name '-') ∧
      (optionProperty o).2 = some ⟨pascalCase o.name '-', values⟩) ∨
    ((optionProperty o).1.type = (ValueType.classify o.tag).mapping.type ∧
      (optionProperty o).2 = none) := by
  simp only [optionProperty]
  split
  · rename_i values hvalues
    exact .inl ⟨values, hvalues, rfl, rfl⟩
  · exact .inr ⟨rfl, rfl⟩

/-- The property of an option is complete with the enumeration that the option lists: both are named
by `pascalCase` of the option. -/
theorem isComplete_optionProperty (o : OptionDefinition) :
    IsComplete [(optionProperty o).1] (optionProperty o).2.toList := by
  rcases optionProperty_cases o with ⟨values, hvalues, htype, henum⟩ | ⟨htype, henum⟩
  · -- The values were found in the text, so the enumeration has values, and none twice.
    rw [henum]
    refine ⟨?_, ?_, ?_⟩
    · intro p hp name hname
      obtain rfl := List.mem_singleton.1 hp
      rw [htype, PropertyType.enumeration.injEq] at hname
      simp [names, hname]
    · simpa using mine_ne_nil hvalues
    · simpa using nodup_mine hvalues
  · rw [henum]
    refine ⟨?_, by simp, by simp⟩
    intro p hp name hname
    -- No type of a table is an enumeration, so there is nothing to declare.
    obtain rfl := List.mem_singleton.1 hp
    exact absurd (htype ▸ hname) (mapping_type_ne_enumeration _ name)

/-- A placeholder refers to no enumeration, whatever its flags are. -/
theorem placeholderType_ne_enumeration (p : Parameter) (name : String) :
    placeholderType p ≠ .enumeration name := by
  unfold placeholderType
  split
  · simp
  · split <;> simp

/-! ### Contributions and commands -/

/-- The declared options are complete together, by `IsComplete.flatMap` over the single options. -/
theorem isComplete_optionsContribution (d : CommandDefinition) :
    IsComplete (optionsContribution d).properties (optionsContribution d).enumerations := by
  have h := IsComplete.flatMap d.options fun o _ => isComplete_optionProperty o
  rw [← List.map_eq_flatMap, ← List.filterMap_eq_flatMap_toList] at h
  exact h

/-- What one item of a usage template contributes is complete: it is that of the options for the
marker, and else a property that refers to nothing. -/
theorem isComplete_contribution (profile : ToolProfile) (d : CommandDefinition)
    (p : Parameter) :
    IsComplete (contribution profile d p).properties (contribution profile d p).enumerations := by
  rcases contribution_cases profile d p with ⟨-, heq⟩ | ⟨-, -, heq⟩ | ⟨-, -, heq⟩
  · rw [heq]
    exact ⟨by simp, by simp, by simp⟩
  · rw [heq]
    exact isComplete_optionsContribution d
  · rw [heq]
    refine ⟨?_, by simp, by simp⟩
    intro q hq name hname
    obtain rfl := List.mem_singleton.1 hq
    exact absurd hname (placeholderType_ne_enumeration p name)

/-- The model of a command has a name that is not blank, and its properties are complete with its
enumerations (`IsComplete`). It is all that `coherent_build` asks of a command. -/
theorem commandModel?_sound {profile : ToolProfile} {d : CommandDefinition}
    {model : CommandModel} (h : commandModel? profile d = some model) :
    isBlankText model.task.postfixName = false ∧
      IsComplete model.task.settingsClass.properties model.enumerations := by
  obtain ⟨hname, rfl⟩ := commandModel?_eq_some_iff.1 h
  refine ⟨isBlankText_taskPostfix hname, IsComplete.flatMap _ ?_⟩
  intro p _
  exact isComplete_contribution profile d p

/-! ### Tools -/

/-- What a model has whatever it was built from. Names of tasks and of properties may still be
repeated, as they come from the definitions, and the name of the tool may be blank. -/
structure Coherent (tool : Tool) : Prop where
  /-- Every enumeration has values, and none of them twice. -/
  values : ∀ e ∈ tool.enumerations, e.values ≠ [] ∧ e.values.Nodup
  /-- No task has a blank name. -/
  named : ∀ task ∈ tool.tasks, isBlankText task.postfixName = false
  /-- The enumerations that settings refer to are declared. -/
  declared : ∀ c ∈ tool.settingsClasses, ∀ p ∈ c.properties, ∀ name,
    p.type = .enumeration name → name ∈ tool.enumerationNames
  /-- So are those of the properties that all tasks share. -/
  declared_common : ∀ p ∈ tool.commonTaskProperties, ∀ name,
    p.type = .enumeration name → name ∈ tool.enumerationNames
  /-- Nothing is wrong with the data classes. -/
  dataClasses : ∀ c ∈ tool.dataClasses,
    propertyFindings tool.enumerationNames c.name [] c.properties = []

/-- The enumerations of a built model are those that its commands list, and the levels of logging.
Merging replaces values and never loses a name. -/
theorem mem_enumerationNames_build {profile : ToolProfile} {definitions : List CommandDefinition}
    {name : String} :
    name ∈ (build profile definitions).enumerationNames ↔
      name = "LogLevel" ∨
      ∃ model ∈ commandModels profile definitions, name ∈ names model.enumerations := by
  have hseed : name ∈ names (Registry.ofList (profile.base []).enumerations).1.entries ↔
      name = "LogLevel" := by
    rw [Registry.ofList, Registry.mem_names_insertAll]
    simp [names, Registry.empty, ToolProfile.base, ToolProfile.logLevel]
  refine Registry.mem_names_insertAll.trans (or_congr hseed ?_)
  simp only [names, List.map_flatMap, List.mem_flatMap]

/-- An enumeration of a built model is the one of the levels of logging, or is listed by a command
with just these values. -/
theorem mem_enumerations_build {profile : ToolProfile} {definitions : List CommandDefinition}
    {e : Enumeration} (h : e ∈ (build profile definitions).enumerations) :
    e = ToolProfile.logLevel ∨
      ∃ model ∈ commandModels profile definitions, e ∈ model.enumerations := by
  rcases Registry.mem_entries_insertAll h with hseed | hlisted
  · rcases Registry.mem_entries_insertAll hseed with hempty | hbase
    · simp [Registry.empty] at hempty
    · exact .inl (List.mem_singleton.1 hbase)
  · exact .inr (List.mem_flatMap.1 hlisted)

/-- The settings that every task shares have distinct names, and refer to no enumeration but the
levels of logging, which has to be `declared`. -/
theorem propertyFindings_cliSettings {declared : List String} (h : "LogLevel" ∈ declared)
    (className : String) :
    propertyFindings declared className [] ToolProfile.cliSettings = [] := by
  rw [propertyFindings_eq_nil_iff]
  refine ⟨by decide, by simp, ?_⟩
  intro p hp name htype
  -- Only one of the eight settings has an enumeration as its type.
  have hname : name = "LogLevel" := by
    revert hp
    simp only [ToolProfile.cliSettings, List.mem_cons, List.not_mem_nil, or_false]
    rintro (rfl | rfl | rfl | rfl | rfl | rfl | rfl | rfl) <;>
      simp_all [ToolProfile.textSetting, ToolProfile.switchSetting]
  exact hname ▸ h

/-- Every built model is `Coherent`, without any condition on the profile or the definitions. What
is left to find in a model lies in its names. -/
theorem coherent_build (profile : ToolProfile) (definitions : List CommandDefinition) :
    Coherent (build profile definitions) where
  values e he := by
    rcases mem_enumerations_build he with rfl | ⟨model, hmodel, he⟩
    · decide
    · obtain ⟨d, -, hd⟩ := List.mem_filterMap.1 hmodel
      obtain ⟨-, hcomplete⟩ := commandModel?_sound hd
      exact ⟨hcomplete.values_ne_nil e he, hcomplete.values_nodup e he⟩
  named task htask := by
    obtain ⟨model, hmodel, rfl⟩ := List.mem_map.1 htask
    obtain ⟨d, -, hd⟩ := List.mem_filterMap.1 hmodel
    exact (commandModel?_sound hd).1
  declared c hc p hp name htype := by
    obtain ⟨task, htask, rfl⟩ := List.mem_map.1 hc
    obtain ⟨model, hmodel, rfl⟩ := List.mem_map.1 htask
    obtain ⟨d, -, hd⟩ := List.mem_filterMap.1 hmodel
    -- What the command itself lists has a name among the enumerations of the whole.
    have hlisted := (commandModel?_sound hd).2.declared p hp name htype
    exact mem_enumerationNames_build.2 (.inr ⟨model, hmodel, hlisted⟩)
  declared_common p hp name htype := by
    obtain rfl := List.mem_singleton.1 hp
    simp [ToolProfile.cliSettingsProperty] at htype
  dataClasses c hc := by
    obtain rfl := List.mem_singleton.1 hc
    exact propertyFindings_cliSettings (mem_enumerationNames_build.2 (.inl rfl)) _

/-- A `Coherent` model with a name has no findings but repeated tasks and repeated properties. The
name is asked for because a missing one is the only finding then. -/
theorem findings_of_coherent {tool : Tool} (hname : isBlankText tool.name = false)
    (h : Coherent tool) :
    ∀ finding ∈ tool.findings,
      (∃ postfixName, finding = .duplicateTask postfixName) ∨
      (∃ className property, finding = .duplicateProperty className property) := by
  intro finding hfinding
  -- A finding is about an enumeration, a data class or a task, and the first two have none.
  rw [Tool.findings, hname, if_neg Bool.false_ne_true, List.mem_append, List.mem_append,
    List.mem_flatMap, List.mem_flatMap] at hfinding
  rcases hfinding with (⟨e, he, hfinding⟩ | ⟨c, hc, hfinding⟩) | htask
  · rw [Enumeration.findings_eq_nil_iff.2 (h.values e he)] at hfinding
    simp at hfinding
  · rw [h.dataClasses c hc] at hfinding
    simp at hfinding
  · rcases mem_taskFindings htask with ⟨task, ht, hblank, -⟩ | ⟨task, -, rfl⟩ | ⟨task, ht, hp⟩
    · exact absurd hblank (by simp [h.named task ht])
    · exact .inl ⟨_, rfl⟩
    · -- Of the findings of a settings class, that of an undeclared type is ruled out.
      rcases mem_propertyFindings hp with ⟨p, -, rfl⟩ | ⟨p, hp, name, htype, hundeclared, -⟩
      · exact .inr ⟨_, _, rfl⟩
      · exact absurd (h.declared _ (List.mem_map_of_mem ht) p hp name htype) hundeclared

/-- Whatever the definitions are, the built model is `Coherent` and its one data class is free of
findings. A blank name of the tool is the only finding, because `Tool.findings` looks no further
then. With a name, nothing is found but repeated tasks and repeated properties: `build` takes tasks
and properties as the definitions have them, and nothing keeps two of these from having one name. -/
theorem findings_build (profile : ToolProfile) (definitions : List CommandDefinition) :
    Coherent (build profile definitions) ∧
    (build profile definitions).dataClasses.map (fun c => c.name) = ["CliSettings"] ∧
    (isBlankText profile.name = true →
      (build profile definitions).findings = [.emptyToolName]) ∧
    (isBlankText profile.name = false →
      ∀ finding ∈ (build profile definitions).findings,
        (∃ postfixName, finding = .duplicateTask postfixName) ∨
        (∃ className property, finding = .duplicateProperty className property)) := by
  refine ⟨coherent_build profile definitions, rfl, ?_, ?_⟩
  · intro hblank
    exact if_pos hblank
  · intro hname
    exact findings_of_coherent hname (coherent_build profile definitions)

/-- A command with an option whose description lists values for `LogLevel`, and so for a name that
every model has already. -/
def psWithLevels : CommandDefinition :=
  (CommandDefinition.ofUsage "docker ps" "docker ps [OPTIONS]").withOption
    { name := "log-level", description := some "Level (\"low\"|\"high\"|\"low\")" }

/-- Documented twice, the command `psWithLevels` is a repeated task and nothing else is wrong. Under
a blank name of the tool that is not found, so the model may be built from the same definitions and
yet show another finding. -/
theorem findings_build_documented_twice :
    (isBlankText (ToolProfile.name {}) = false ∧
      (build {} [psWithLevels, psWithLevels]).findings = [.duplicateTask "Ps"] ∧
      ∀ finding ∈ (build {} [psWithLevels, psWithLevels]).findings,
        (∃ postfixName, finding = .duplicateTask postfixName) ∨
        (∃ className property, finding = .duplicateProperty className property)) ∧
    (isBlankText (ToolProfile.name { name := " " }) = true ∧
      (build { name := " " } [psWithLevels, psWithLevels]).findings = [.emptyToolName]) := by
  refine ⟨⟨by decide, by decide +kernel, ?_⟩, by decide, ?_⟩
  · exact (findings_build {} [psWithLevels, psWithLevels]).2.2.2 (by decide)
  · exact (findings_build { name := " " } [psWithLevels, psWithLevels]).2.2.1 (by decide)

end WrapperModel.Assembly
