import WrapperModel.Model.Basic
import WrapperModel.Text.Blank

/-!
# `WrapperModel.Model.Validation`: what is wrong with a model

`Tool.findings` lists the defects of a model in the order of its parts: enumerations,
data classes, tasks. A model without a name has that one finding, and the settings of a
task without a name are not looked at. `Finding.message` words a finding.
-/

set_option autoImplicit false

namespace WrapperModel.Model

open WrapperModel.Text

/-- A defect of a model. Classes and enumerations are named by their names alone, so two of one name
cannot be told apart in a finding. -/
inductive Finding where
  /-- The tool has no name, or a blank one. -/
  | emptyToolName
  /-- A task has no name. -/
  | emptyTaskName
  /-- A task has the name of an earlier one. -/
  | duplicateTask (postfixName : String)
  /-- A property has the name of an earlier one in its class. -/
  | duplicateProperty (className property : String)
  /-- A property refers to an enumeration that the tool does not have. -/
  | unknownEnumeration (className property enumeration : String)
  /-- An enumeration has no values. -/
  | emptyEnumeration (enumeration : String)
  /-- An enumeration has a value once more. -/
  | duplicateEnumerationValue (enumeration value : String)
  deriving Repr, DecidableEq

/-- A finding in words, as `validate` lists it and the log shows it. -/
def Finding.message : Finding → String
  | .emptyToolName => "tool name cannot be empty"
  | .emptyTaskName => "task name cannot be empty"
  | .duplicateTask postfixName => "duplicate task: " ++ postfixName
  | .duplicateProperty className property =>
    "duplicate property " ++ property ++ " in " ++ className
  | .unknownEnumeration className property enumeration =>
    "property " ++ property ++ " in " ++ className ++ " refers to unknown enumeration " ++
      enumeration
  | .emptyEnumeration enumeration => "enumeration " ++ enumeration ++ " has no values"
  | .duplicateEnumerationValue enumeration value =>
    "enumeration " ++ enumeration ++ " repeats value " ++ value

/-- The items that occurred before, at each of their later places; `seen` occurred before the list
began. -/
def repeatsAfter (seen : List String) : List String → List String
  | [] => []
  | x :: xs => (if seen.contains x then [x] else []) ++ repeatsAfter (x :: seen) xs

/-- The items that occur again, once for each further place. Three equal items are two
repetitions. -/
def repeats (xs : List String) : List String :=
  repeatsAfter [] xs

/-- What is wrong with one enumeration. An enumeration is not compared with others, so two of one
name are no defect. -/
def Enumeration.findings (e : Enumeration) : List Finding :=
  if e.values.isEmpty then [.emptyEnumeration e.name]
  else (repeats e.values).map (.duplicateEnumerationValue e.name)

/-- What is wrong with the properties of a class behind those named `seen`. A property can have both
defects: a name that came before and an enumeration that is not declared. -/
def propertyFindings (declared : List String) (className : String) (seen : List String) :
    List Property → List Finding
  | [] => []
  | property :: rest =>
    (if seen.contains property.name then [.duplicateProperty className property.name] else []) ++
      (match property.type.enumeration? with
        | some enumeration =>
          if declared.contains enumeration then []
          else [.unknownEnumeration className property.name enumeration]
        | none => []) ++
      propertyFindings declared className (property.name :: seen) rest

/-- What is wrong with the tasks behind those named `seen`. The settings of a task without a name
are passed over, and its name is not remembered. -/
def taskFindings (declared : List String) (seen : List String) : List Task → List Finding
  | [] => []
  | task :: rest =>
    if isBlankText task.postfixName then .emptyTaskName :: taskFindings declared seen rest
    else
      (if seen.contains task.postfixName then [.duplicateTask task.postfixName] else []) ++
        propertyFindings declared task.settingsClass.name [] task.settingsClass.properties ++
        taskFindings declared (task.postfixName :: seen) rest

/-- The names of the enumerations that a tool declares, against which references are checked. -/
def Tool.enumerationNames (tool : Tool) : List String :=
  tool.enumerations.map fun enumeration => enumeration.name

/-- What is wrong with a tool. Where it has no name nothing else is looked at, and the common
properties are looked at in no tool. -/
def Tool.findings (tool : Tool) : List Finding :=
  if isBlankText tool.name then [.emptyToolName]
  else
    tool.enumerations.flatMap Enumeration.findings ++
      tool.dataClasses.flatMap (fun c =>
        propertyFindings tool.enumerationNames c.name [] c.properties) ++
      taskFindings tool.enumerationNames [] tool.tasks

end WrapperModel.Model
