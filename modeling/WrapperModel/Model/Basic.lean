import WrapperModel.Naming

/-!
# `WrapperModel.Model.Basic`: the model of a wrapped tool

A `Tool` is what code is emitted from: its tasks, each with the settings class that
holds one property per option and placeholder, the data classes that every task shares,
and the enumerations that properties refer to by name.
-/

set_option autoImplicit false

namespace WrapperModel.Model

/-- Since when and on what terms a command or an option can be used. A model carries them through
from the definitions without asking what they mean. -/
structure Flags where
  deprecated : Bool := false
  experimental : Bool := false
  experimentalCli : Bool := false
  kubernetes : Bool := false
  swarm : Bool := false
  minApiVersion : Option String := none
  deriving Repr, DecidableEq, Inhabited

/-- The type of a property. Two of them refer to something by name; only for enumerations does
`Tool.findings` ask whether it is there. -/
inductive PropertyType where
  | string
  | bool
  | int
  | long
  | float
  | decimal
  | stringList
  | stringMap
  /-- One of the tool's enumerations. -/
  | enumeration (name : String)
  /-- A class that is written by hand. -/
  | custom (name : String)
  deriving Repr, DecidableEq, Inhabited

/-- The name of the enumeration that a type refers to, which `Tool.findings` looks for among those
of the tool. Hand-written classes are no enumerations. -/
def PropertyType.enumeration? : PropertyType → Option String
  | .enumeration name => some name
  | _ => none

/-- How a type is shown: by its word, or by the name that it refers to. Two types may look alike, as
the words are no reserved names. -/
def PropertyType.display : PropertyType → String
  | .string => "string"
  | .bool => "bool"
  | .int => "int"
  | .long => "long"
  | .float => "float"
  | .decimal => "decimal"
  | .stringList => "list-of-string"
  | .stringMap => "map-of-string-to-string"
  | .enumeration name => name
  | .custom name => name

/-- What has to hold of a value on disk before the tool is run. A property has one at most
(`Property`). -/
inductive Assertion where
  | file
  | directory
  | fileOrNull
  | directoryOrNull
  deriving Repr, DecidableEq, Inhabited

/-- A property of a class. Its `format` says how a value is written into the arguments, `itemFormat`
and `separator` how the items of a list or map are. -/
structure Property where
  name : String := ""
  type : PropertyType := .string
  nullable : Bool := false
  format : String := ""
  itemFormat : Option String := none
  separator : Option Char := none
  help : Option String := none
  assertion : Option Assertion := none
  customImpl : Bool := false
  customValue : Bool := false
  deriving Repr, DecidableEq, Inhabited

/-- The properties of one task, with the class that it extends. The base class is named and not
held, so it may be one that is not there. -/
structure SettingsClass where
  name : String := ""
  baseClass : String := ""
  properties : List Property := []
  deriving Repr, DecidableEq, Inhabited

/-- The property of that name that comes first. Later ones are out of reach by name, which is why
`Tool.findings` reports them. -/
def SettingsClass.findProperty? (c : SettingsClass) (name : String) : Option Property :=
  c.properties.find? fun property => property.name = name

/-- A class that is shared by all tasks. It extends nothing, which is the one difference from a
`SettingsClass`. -/
structure DataClass where
  name : String := ""
  properties : List Property := []
  deriving Repr, DecidableEq, Inhabited

/-- The wrapper of one command: what it is called, what stands in front of its options, and the
class of its options. -/
structure Task where
  postfixName : String := ""
  help : Option String := none
  /-- The literal words of the usage template, joined by spaces. -/
  definiteArgument : String := ""
  settingsClass : SettingsClass := {}
  flags : Flags := {}
  deriving Repr, DecidableEq, Inhabited

/-- A named set of literals, in the order in which they were found. Nothing keeps two literals from
being the same; `Enumeration.findings` reports that. -/
structure Enumeration where
  name : String := ""
  values : List String := []
  deriving Repr, DecidableEq, Inhabited

/-- The model of one tool. `Assembly.build` makes it, and `Tool.render` gives it out. -/
structure Tool where
  modelVersion : Option String := none
  name : String := ""
  executable : String := ""
  help : Option String := none
  officialUrl : Option String := none
  license : List String := []
  /-- Where the definitions were documented, in their order. -/
  references : List String := []
  commonTaskProperties : List Property := []
  dataClasses : List DataClass := []
  tasks : List Task := []
  enumerations : List Enumeration := []
  deriving Repr, DecidableEq, Inhabited

/-- The version of the model's form, which every model that is built carries. It is not checked when
a model is read. -/
def modelVersion : String := "1.0.0"

namespace Tool

/-- A tool of that name with nothing in it but the version of the form. `ToolProfile.base` adds what
all models of the tool have in common. -/
def empty (name executable : String) : Tool :=
  { modelVersion := some Model.modelVersion, name, executable }

/-- The class that all settings classes of the tool share. It is made of the tool's name alone, so
the tool has no field for it. -/
def rootSettingsName (tool : Tool) : String :=
  Naming.rootSettingsName tool.name

/-- The settings classes of the tasks, in their order. The classes that all tasks share are not
among them. -/
def settingsClasses (tool : Tool) : List SettingsClass :=
  tool.tasks.map fun task => task.settingsClass

/-- The task of that name that comes first. Names of tasks may come twice, which `Tool.findings`
reports. -/
def findTask? (tool : Tool) (postfixName : String) : Option Task :=
  tool.tasks.find? fun task => task.postfixName = postfixName

/-- The enumeration of that name that comes first. In a built model there is no other, since a
`Registry` holds no name twice. -/
def findEnumeration? (tool : Tool) (name : String) : Option Enumeration :=
  tool.enumerations.find? fun enumeration => enumeration.name = name

end Tool

end WrapperModel.Model
