import WrapperModel.Proofs.Assembly.Findings
import WrapperModel.Proofs.Assembly.Inheritance
import WrapperModel.Proofs.Usage.Segments

/-!
# `WrapperModel.Proofs.Assembly.Hints`: types and the hints beside them

Beside its type a property says how its values are written: the form of an item, the
separator between two items, and if the value may be absent. Types and hints are filled in at
three places, for options, for placeholders and for the settings that every task shares.
`HintsAgree` says what they have to agree on.

* `mapping_agrees`: the table of tags.
* `hintsAgree_optionProperty`, `hintsAgree_placeholderProperty`: the two ways of making a
  property. A placeholder has one type because no item of a template is a list and a map.
* `mem_properties_commandModel?`, `not_fromPlaceholder_of_fromOption`: every property of a task
  is made in one of the two ways.
* `hintsAgree_build`: the properties of every built model.
-/

set_option autoImplicit false

namespace WrapperModel.Assembly

open WrapperModel.Text WrapperModel.Model WrapperModel.Naming WrapperModel.Usage
open WrapperModel.Definition (OptionDefinition CommandDefinition)

/-- The types whose values may be absent: truth values and the numbers. A text or a collection that
is not given is empty instead. -/
def absentableTypes : List PropertyType :=
  [.bool, .int, .long, .float, .decimal]

/-- The type of a property and the hints beside it agree. A hint that does not fit the type would be
ignored by a reader, or misread. -/
structure HintsAgree (q : Property) : Prop where
  /-- Maps say how an item is written, and nothing else does. -/
  itemFormat : q.itemFormat ≠ none ↔ q.type = .stringMap
  /-- Only lists say what stands between two items. -/
  separator : q.separator ≠ none → q.type = .stringList
  /-- Only truth values and numbers may be absent. -/
  nullable : q.nullable = true → q.type ∈ absentableTypes
  /-- An enumeration is that of the property's own name, and nothing is said beside it. -/
  enumeration : ∀ name, q.type = .enumeration name →
    name = q.name ∧ q.nullable = false ∧ q.itemFormat = none

/-! ### Options -/

/-- In the table of tags maps alone have a form of items, and truth values and numbers alone may be
absent (`absentableTypes`). -/
theorem mapping_agrees (type : ValueType) :
    type.mapping.itemFormat =
        (if type.mapping.type = .stringMap then some ValueType.mapItemFormat else none) ∧
      (type.mapping.nullable = true → type.mapping.type ∈ absentableTypes) := by
  cases type <;> simp [ValueType.mapping, absentableTypes]

/-- The property of an option agrees (`HintsAgree`). It has no separator, and its items are written
with a colon where it is a map. An enumeration takes no hints from the tag. -/
theorem hintsAgree_optionProperty (o : OptionDefinition) :
    HintsAgree (optionProperty o).1 ∧ (optionProperty o).1.separator = none ∧
      ((optionProperty o).1.type = .stringMap →
        (optionProperty o).1.itemFormat = some ValueType.mapItemFormat) := by
  simp only [optionProperty]
  split
  · -- A description that lists values gives the type its name, and no hints.
    refine ⟨⟨by simp, by simp, by simp, ?_⟩, rfl, by simp⟩
    intro name hname
    rw [PropertyType.enumeration.injEq] at hname
    exact ⟨hname.symm, rfl, rfl⟩
  · obtain ⟨hitem, hnullable⟩ := mapping_agrees (ValueType.classify o.tag)
    refine ⟨⟨?_, by simp, hnullable, ?_⟩, rfl, ?_⟩
    · simp [hitem]
    · intro name hname
      exact absurd hname (mapping_type_ne_enumeration _ name)
    · intro hmap
      rw [hitem, if_pos hmap]

/-! ### Placeholders -/

/-- The property of a placeholder agrees if it is not a list and a map at once: it would have the
type of a list and the form of a map's items. Exactly lists have a separator, and the items of a map
are written with an equals sign. -/
theorem hintsAgree_placeholderProperty (profile : ToolProfile) (d : CommandDefinition)
    {p : Parameter} (h : p.isList = true → p.isDictionary = false) :
    HintsAgree (placeholderProperty profile d p) ∧
      ((placeholderProperty profile d p).separator ≠ none ↔
        (placeholderProperty profile d p).type = .stringList) ∧
      ((placeholderProperty profile d p).type = .stringMap →
        (placeholderProperty profile d p).itemFormat = some pairFormat) := by
  unfold placeholderProperty placeholderType
  cases hlist : p.isList with
  | true =>
    rw [h hlist]
    exact ⟨⟨by simp, by simp, by simp, by simp⟩, by simp, by simp⟩
  | false =>
    cases p.isDictionary with
    | true => exact ⟨⟨by simp, by simp, by simp, by simp⟩, by simp, by simp⟩
    | false => exact ⟨⟨by simp, by simp, by simp, by simp⟩, by simp, by simp⟩

/-! ### Tasks -/

/-- The property is that of an option which the command declares, as `optionProperty` makes it. -/
def FromOption (d : CommandDefinition) (q : Property) : Prop :=
  ∃ o ∈ d.options, q = (optionProperty o).1

/-- The property is that of a placeholder in the usage template of the command, other than the
options marker, as `placeholderProperty` makes it. -/
def FromPlaceholder (profile : ToolProfile) (d : CommandDefinition) (q : Property) : Prop :=
  ∃ p ∈ ofTemplate d.usage, p.isArgument = true ∧ p.raw ≠ profile.optionsMarker ∧
    q = placeholderProperty profile d p

/-- No property is both `FromOption` and `FromPlaceholder`, since an option is written with hyphens
in front and a placeholder is written as its value. -/
theorem not_fromPlaceholder_of_fromOption {profile : ToolProfile} {d : CommandDefinition}
    {q : Property} (h : FromOption d q) : ¬FromPlaceholder profile d q := by
  obtain ⟨o, -, rfl⟩ := h
  rintro ⟨p, -, -, -, heq⟩
  have hoption : (optionProperty o).1.format = optionFormat o.name := by
    simp only [optionProperty]
    split <;> rfl
  have hformat : optionFormat o.name = ToolProfile.bareValue :=
    hoption.symm.trans (congrArg Property.format heq)
  -- The format of an option begins with its dashes, that of a placeholder with a brace.
  have hfirst := congrArg (fun format => format.toList.head?) hformat
  simp [optionFormat, ToolProfile.bareValue] at hfirst

/-- A property of a task is that of a declared option or that of a placeholder (`FromOption`,
`FromPlaceholder`). The marker gives options, and no other item gives anything else. -/
theorem mem_properties_commandModel? {profile : ToolProfile} {d : CommandDefinition}
    {model : CommandModel} (h : commandModel? profile d = some model) {q : Property}
    (hq : q ∈ model.task.settingsClass.properties) :
    FromOption d q ∨ FromPlaceholder profile d q := by
  obtain ⟨-, rfl⟩ := commandModel?_eq_some_iff.1 h
  obtain ⟨p, hp, hq⟩ := List.mem_flatMap.1 hq
  -- A literal word gives no property, the marker those of the options, an argument its own.
  rcases contribution_cases profile d p with ⟨-, heq⟩ | ⟨-, -, heq⟩ | ⟨hargument, hmarker, heq⟩
  · simp [heq] at hq
  · rw [heq] at hq
    obtain ⟨o, ho, rfl⟩ := List.mem_map.1 hq
    exact .inl ⟨o, ho, rfl⟩
  · rw [heq] at hq
    exact .inr ⟨p, hp, hargument, hmarker, List.mem_singleton.1 hq⟩

/-- What a task says about the writing of a property depends on where the property is from: the two
sources write lists and maps in different ways. -/
theorem hintsAgree_of_from (profile : ToolProfile) (d : CommandDefinition) (q : Property) :
    (FromOption d q → HintsAgree q ∧ q.separator = none ∧
      (q.type = .stringMap → q.itemFormat = some ValueType.mapItemFormat)) ∧
    (FromPlaceholder profile d q → HintsAgree q ∧ (q.separator ≠ none ↔ q.type = .stringList) ∧
      (q.type = .stringMap → q.itemFormat = some pairFormat)) := by
  constructor
  · rintro ⟨o, -, rfl⟩
    exact hintsAgree_optionProperty o
  · rintro ⟨p, hp, -, -, rfl⟩
    exact hintsAgree_placeholderProperty profile d (isDictionary_of_isList hp)

/-! ### Tools -/

/-- The settings that every task shares agree. They come from no command, so they are checked one by
one. -/
theorem hintsAgree_cliSettings : ∀ q ∈ ToolProfile.cliSettings, HintsAgree q := by
  intro q hq
  simp only [ToolProfile.cliSettings, List.mem_cons, List.not_mem_nil, or_false] at hq
  rcases hq with rfl | rfl | rfl | rfl | rfl | rfl | rfl | rfl <;>
    exact ⟨by decide, by decide, by decide, by
      simp [ToolProfile.textSetting, ToolProfile.switchSetting]⟩

/-- Types and hints agree (`HintsAgree`) in every built model: in the settings of its tasks, in its
data classes and in the properties that all tasks share. In the settings of a task the properties
are those of the options and of the placeholders of one definition. Maps are written with a colon if
they are options and with an equals sign if they are placeholders, and a separator stands exactly on
the lists that are placeholders. -/
theorem hintsAgree_build (profile : ToolProfile) (definitions : List CommandDefinition) :
    (∀ task ∈ (build profile definitions).tasks, ∃ d ∈ definitions,
      (commandModel? profile d).map (fun model => model.task) = some task ∧
      ∀ q ∈ task.settingsClass.properties,
        HintsAgree q ∧ (FromOption d q ∨ FromPlaceholder profile d q) ∧
        ¬(FromOption d q ∧ FromPlaceholder profile d q) ∧
        (q.separator ≠ none ↔ q.type = .stringList ∧ FromPlaceholder profile d q) ∧
        (FromOption d q → q.separator = none ∧
          (q.type = .stringMap → q.itemFormat = some ValueType.mapItemFormat)) ∧
        (FromPlaceholder profile d q → q.type = .stringMap → q.itemFormat = some pairFormat)) ∧
    (∀ c ∈ (build profile definitions).dataClasses, ∀ q ∈ c.properties, HintsAgree q) ∧
    ∀ q ∈ (build profile definitions).commonTaskProperties, HintsAgree q := by
  refine ⟨?_, ?_, ?_⟩
  · intro task htask
    obtain ⟨d, hd, model, hmodel, rfl⟩ := exists_of_mem_tasks htask
    refine ⟨d, hd, by rw [hmodel, Option.map_some], fun q hq => ?_⟩
    obtain ⟨hoption, hplaceholder⟩ := hintsAgree_of_from profile d q
    have hfrom := mem_properties_commandModel? hmodel hq
    refine ⟨?_, hfrom, ?_, ?_, fun h => (hoption h).2, fun h => (hplaceholder h).2.2⟩
    · exact hfrom.elim (fun h => (hoption h).1) fun h => (hplaceholder h).1
    · rintro ⟨h, h'⟩
      exact not_fromPlaceholder_of_fromOption h h'
    · -- An option has no separator at all, so a separator comes from a placeholder.
      constructor
      · intro hseparator
        rcases hfrom with h | h
        · exact absurd (hoption h).2.1 hseparator
        · exact ⟨(hplaceholder h).2.1.1 hseparator, h⟩
      · rintro ⟨hlist, h⟩
        exact (hplaceholder h).2.1.2 hlist
  · intro c hc
    obtain rfl := List.mem_singleton.1 hc
    exact hintsAgree_cliSettings
  · intro q hq
    obtain rfl := List.mem_singleton.1 hq
    exact ⟨by decide, by decide, by decide, by simp [ToolProfile.cliSettingsProperty]⟩

/-- A command with a list, a map and an enumeration among its options, and with a map and a list as
placeholders, so that every case is met. -/
def labelNodes : CommandDefinition :=
  { CommandDefinition.ofUsage "docker label"
      "docker label [OPTIONS] KEY=VALUE [KEY=VALUE...] self|NODE [NODE...]" with
    options := [.ofNameAndType "filter" "list", .ofNameAndType "driver-opt" "map",
      { name := "scope", valueType := some "bool", description := some "(\"node\"|\"all\")" }] }

/-- In the model of `labelNodes` the two lists and the two maps are told apart, and the enumeration
has no hints although its tag is one of those that may be absent. -/
theorem hintsAgree_build_labelNodes :
    ∃ task ∈ (build {} [labelNodes]).tasks,
      task.settingsClass.properties.map (fun q => (q.type, q.separator, q.itemFormat)) =
        [(.stringList, none, none), (.stringMap, none, some ValueType.mapItemFormat),
          (.enumeration "Scope", none, none), (.stringMap, none, some pairFormat),
          (.stringList, some ' ', none)] ∧
      ∀ q ∈ task.settingsClass.properties, HintsAgree q ∧
        (q.separator ≠ none ↔ q.type = .stringList ∧ FromPlaceholder {} labelNodes q) := by
  have hshown : (build {} [labelNodes]).tasks.map (fun task => task.settingsClass.properties.map
      fun q => (q.type, q.separator, q.itemFormat)) =
        [[(.stringList, none, none), (.stringMap, none, some ValueType.mapItemFormat),
          (.enumeration "Scope", none, none), (.stringMap, none, some pairFormat),
          (.stringList, some ' ', none)]] := by
    decide +kernel
  obtain ⟨task, htasks, hproperties⟩ := List.map_eq_singleton_iff.1 hshown
  have htask : task ∈ (build {} [labelNodes]).tasks := htasks ▸ List.mem_singleton_self task
  obtain ⟨d, hd, -, hall⟩ := (hintsAgree_build {} [labelNodes]).1 task htask
  obtain rfl := List.mem_singleton.1 hd
  exact ⟨task, htask, hproperties, fun q hq => ⟨(hall q hq).1, (hall q hq).2.2.2.1⟩⟩

end WrapperModel.Assembly
