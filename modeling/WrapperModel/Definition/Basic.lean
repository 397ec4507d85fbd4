import WrapperModel.Model.Basic

/-!
# `WrapperModel.Definition.Basic`: documented commands

A `CommandDefinition` is what the reference of a command line tool says about one
command: its path, its usage template and the options that it declares or inherits. The
`reference` is where that was documented; it is stamped by whoever loads the definition.
-/

set_option autoImplicit false

namespace WrapperModel.Definition

open WrapperModel.Model (Flags)

/-- An option that a command declares, such as `--format`. All texts are as the reference has them;
what they mean is found out in `Assembly`. -/
structure OptionDefinition where
  /-- The long name without the hyphens in front. -/
  name : String := ""
  shorthand : Option String := none
  /-- The tag that says what its values are. -/
  valueType : Option String := none
  defaultValue : Option String := none
  description : Option String := none
  flags : Flags := {}
  deriving Repr, DecidableEq, Inhabited

/-- An option of that name and tag about which nothing else is known. All other fields are at their
defaults. -/
def OptionDefinition.ofNameAndType (name valueType : String) : OptionDefinition :=
  { name, valueType := some valueType }

/-- The tag, or the empty tag where none is given. `ValueType.classify` takes either. -/
def OptionDefinition.tag (o : OptionDefinition) : String :=
  o.valueType.getD ""

/-- One documented command, such as `docker container ls`. Everything but its path may be missing,
and a field that is missing has its default. -/
structure CommandDefinition where
  /-- The words of the command with the program in front. -/
  command : String := ""
  aliases : Option String := none
  short : Option String := none
  long : Option String := none
  /-- The usage template. -/
  usage : String := ""
  parentName : Option String := none
  parentLink : Option String := none
  examples : Option String := none
  options : List OptionDefinition := []
  inheritedOptions : List OptionDefinition := []
  childNames : List String := []
  childLinks : List String := []
  flags : Flags := {}
  reference : String := ""
  deriving Repr, DecidableEq, Inhabited

namespace CommandDefinition

/-- A command with a usage template about which nothing else is known. All other fields are at their
defaults. -/
def ofUsage (command usage : String) : CommandDefinition :=
  { command, usage }

/-- The command as a child of `parent`, whatever the words of its path are. -/
def withParent (d : CommandDefinition) (parent : String) : CommandDefinition :=
  { d with parentName := some parent }

/-- The command with one more option of its own, behind those that it has. -/
def withOption (d : CommandDefinition) (o : OptionDefinition) : CommandDefinition :=
  { d with options := d.options ++ [o] }

/-- The command with one more inherited option. A command that inherits options may extend another
class than the root (`baseClass`). -/
def withInheritedOption (d : CommandDefinition) (o : OptionDefinition) : CommandDefinition :=
  { d with inheritedOptions := d.inheritedOptions ++ [o] }

/-- The command, documented at `reference`. What stood there is replaced, so a definition carries
the address of where it was loaded from. -/
def withReference (d : CommandDefinition) (reference : String) : CommandDefinition :=
  { d with reference }

end CommandDefinition

end WrapperModel.Definition
