import WrapperModel.Definition.Basic
import WrapperModel.Enumeration.Mining
import WrapperModel.Enumeration.Registry
import WrapperModel.Profile
import WrapperModel.Usage.Template
import WrapperModel.ValueType

/-!
# `WrapperModel.Assembly`: the model of a tool from its definitions

Every definition becomes one task, apart from the program on its own, which has no task
name. The usage template is walked from left to right:

* a literal word goes to the definite argument, unless it is the program;
* the options marker stands for all declared options, in their order;
* any other placeholder becomes one property.

The enumerations that the options list are merged afterwards, in the order of the
definitions, where the last values of a name win. `Assembly.build` is the whole model;
`Assembly.collisions` are the changes of values on the way.
-/

set_option autoImplicit false

namespace WrapperModel.Assembly

open WrapperModel.Text WrapperModel.Model WrapperModel.Naming WrapperModel.Usage
open WrapperModel.Definition (OptionDefinition CommandDefinition)
open WrapperModel.Enumeration (Registry Collision mine)

/-! ### Options -/

/-- The form of an option in the arguments, `--name=` with the value behind it. It is the same for
every type of value. -/
def optionFormat (name : String) : String :=
  "--" ++ name ++ "=" ++ ToolProfile.bareValue

/-- A text for readers on one line without white space around, if anything is left. Line ends go
before the question whether the text is blank. -/
def helpLine? (text : String) : Option String :=
  let line := removeNewLines text
  if isBlankText line then none else some (trim line)

/-- The property of an option, and the enumeration that its description lists. Such a list has
precedence over the tag of the option: the type is then the enumeration with the name of the
property. Otherwise `ValueType.classify` reads the tag. -/
def optionProperty (o : OptionDefinition) : Property × Option Enumeration :=
  let name := pascalCase o.name '-'
  let description := o.description.getD ""
  let property : Property :=
    { name, format := optionFormat o.name, help := helpLine? description }
  match mine description with
  | some values => ({ property with type := .enumeration name }, some ⟨name, values⟩)
  | none =>
    let mapping := (ValueType.classify o.tag).mapping
    ({ property with
        type := mapping.type, nullable := mapping.nullable, itemFormat := mapping.itemFormat },
      none)

/-! ### Placeholders -/

/-- The form of an item of a placeholder that takes pairs. Options write pairs in another form,
`ValueType.mapItemFormat`. -/
def pairFormat : String := "\x7bkey\x7d=\x7bvalue\x7d"

/-- The help of a placeholder: a sentence for the sources of secrets, configs and builds, and the
placeholder itself for all others. The sentences ask for the very text of the item. -/
def placeholderHelp (profile : ToolProfile) (d : CommandDefinition) (p : Parameter) : String :=
  if p.raw = "[file|-]" && d.command = profile.executable ++ " secret create" then
    "Path to file to create the secret from."
  else if p.raw = "[file|-]" && d.command = profile.executable ++ " config create" then
    "Path to file to create the config from."
  else if p.raw = "PATH|URL|-" then "Path or url where the build context is located."
  else removeNewLines p.raw

/-- The type of a placeholder. A list is asked for first, but no item that `parameters` gives is
both. -/
def placeholderType (p : Parameter) : PropertyType :=
  if p.isList then .stringList else if p.isDictionary then .stringMap else .string

/-- The name of a placeholder's property, by `plural` where it takes several values. A placeholder
of pairs takes several as well. -/
def placeholderPropertyName (p : Parameter) : String :=
  if p.isList || p.isDictionary then plural p.name else p.name

/-- The property of a placeholder. It has no tag and no enumeration: everything follows from the way
the item is written. -/
def placeholderProperty (profile : ToolProfile) (d : CommandDefinition) (p : Parameter) :
    Property :=
  { name := placeholderPropertyName p
    type := placeholderType p
    format := ToolProfile.bareValue
    help := some (placeholderHelp profile d p)
    separator := if p.isList then some ' ' else none
    itemFormat := if p.isDictionary then some pairFormat else none }

/-! ### Commands -/

/-- What an item of a usage template contributes to its task. A literal word contributes a text, a
placeholder one property, and the options marker the properties and enumerations of all options. -/
structure Contribution where
  literals : List String := []
  properties : List Property := []
  enumerations : List Enumeration := []
  deriving Repr, DecidableEq

/-- What all declared options contribute, in their order: the property of each by `optionProperty`,
and the enumerations that some of them list. -/
def optionsContribution (d : CommandDefinition) : Contribution :=
  { properties := d.options.map fun o => (optionProperty o).1
    enumerations := d.options.filterMap fun o => (optionProperty o).2 }

/-- What one item contributes. Only a placeholder is compared with the options marker, so a marker
that is not written like a placeholder is a literal word. The program is left out among the literals
alone. -/
def contribution (profile : ToolProfile) (d : CommandDefinition) (p : Parameter) :
    Contribution :=
  if !p.isArgument then
    { literals := if p.raw = profile.executable then [] else [p.raw] }
  else if p.raw = profile.optionsMarker then optionsContribution d
  else { properties := [placeholderProperty profile d p] }

/-- What the whole usage template contributes, item by item in the order of `ofTemplate`. -/
def contributions (profile : ToolProfile) (d : CommandDefinition) : List Contribution :=
  (ofTemplate d.usage).map (contribution profile d)

/-- The path of the command above: the documented parent where one is named that is not blank, else
the command without its last word. -/
def parentPath (d : CommandDefinition) : String :=
  match d.parentName with
  | some parent => if isBlankText parent then joinWith " " (words d.command).dropLast else parent
  | none => joinWith " " (words d.command).dropLast

/-- The class that the settings of a command extend. Commands that inherit options extend the
settings of the command above, if that path has a task name; all others extend the root. No question
is asked whether the command above is defined. -/
def baseClass (profile : ToolProfile) (d : CommandDefinition) : String :=
  if d.inheritedOptions.isEmpty then profile.rootSettingsName
  else
    let parent := taskPostfix profile.executable (parentPath d)
    if parent = "" then profile.rootSettingsName else settingsClassName profile.name parent

/-- The task of a command with the enumerations that its options list. They are kept apart here
because the enumerations of all commands are merged later. -/
structure CommandModel where
  task : Task
  enumerations : List Enumeration
  deriving Repr, DecidableEq

/-- The model of one command, or nothing for the program on its own, whose task name is empty. The
parts of the usage template go where they belong: texts into the definite argument, properties into
the settings class. -/
def commandModel? (profile : ToolProfile) (d : CommandDefinition) : Option CommandModel :=
  let postfixName := taskPostfix profile.executable d.command
  if postfixName = "" then none
  else
    let parts := contributions profile d
    some
      { task :=
          { postfixName
            help := d.short.bind helpLine?
            definiteArgument := joinWith " " (parts.flatMap (·.literals))
            settingsClass :=
              { name := settingsClassName profile.name postfixName
                baseClass := baseClass profile d
                properties := parts.flatMap (·.properties) }
            flags := d.flags }
        enumerations := parts.flatMap (·.enumerations) }

/-! ### Tools -/

/-- The models of all commands that have one (`commandModel?`), in the order of the definitions. -/
def commandModels (profile : ToolProfile) (definitions : List CommandDefinition) :
    List CommandModel :=
  definitions.filterMap (commandModel? profile)

/-- Where the definitions were documented, in their order, as far as that is known. Commands without
a task are included. -/
def references (definitions : List CommandDefinition) : List String :=
  (definitions.map (·.reference)).filter (· ≠ "")

/-- The enumerations of a model with the collisions that occurred in merging them. The registry
begins with those that every tool has, and `Registry.insertAll` goes through the commands in
order. -/
def mergedEnumerations (profile : ToolProfile) (definitions : List CommandDefinition) :
    Registry × List Collision :=
  (Registry.ofList (profile.base []).enumerations).1.insertAll
    ((commandModels profile definitions).flatMap (·.enumerations))

/-- The model of a tool. What does not come from the definitions is in `ToolProfile.base`; building
never fails, and what is wrong with a model is for `Tool.findings` to say. -/
def build (profile : ToolProfile) (definitions : List CommandDefinition) : Tool :=
  { profile.base (references definitions) with
    tasks := (commandModels profile definitions).map (·.task)
    enumerations := (mergedEnumerations profile definitions).1.entries }

/-- The enumerations whose values were replaced by others while the model was built, for the
warnings of the log. The model itself does not show them. -/
def collisions (profile : ToolProfile) (definitions : List CommandDefinition) :
    List Collision :=
  (mergedEnumerations profile definitions).2

end WrapperModel.Assembly
