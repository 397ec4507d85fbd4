import WrapperModel.Model.Json
import WrapperModel.Yaml.Printer

/-!
# `WrapperModel.Model.Document`: a model as a document

The document has the keys of the data form in the same order, and leaves out what the
data form leaves out. A type that refers to an enumeration or to a class is the name with
a tag.
-/

set_option autoImplicit false

namespace WrapperModel.Model

open WrapperModel.Yaml (Node)

/-- A truth value, as a word without quotes, so that it is read as none but a truth value. -/
def boolNode (value : Bool) : Node :=
  .word (if value then "true" else "false")

/-- A sequence of texts, each in the style that `Node.text` chooses for it. -/
def textNodes (items : List String) : Node :=
  .sequence (items.map Node.text)

/-- A member that is left out where there is no text, as `optionalMember` does in the other form. -/
def optionalText (key : String) (s : Option String) : List (String × Node) :=
  match s with
  | some s => [(key, .text s)]
  | none => []

/-- The flags as a mapping, with the same members as `Flags.toJson`. -/
def Flags.node (flags : Flags) : Node :=
  .mapping <|
    [("deprecated", boolNode flags.deprecated),
      ("experimental", boolNode flags.experimental),
      ("experimentalcli", boolNode flags.experimentalCli),
      ("kubernetes", boolNode flags.kubernetes),
      ("swarm", boolNode flags.swarm)] ++
    optionalText "min_api_version" flags.minApiVersion

/-- A type as its word, or as the name that it refers to behind a tag, which says what kind of
reference it is. -/
def PropertyType.node : PropertyType → Node
  | .enumeration name => .tagged "enumeration" name
  | .custom name => .tagged "custom" name
  | type => .text type.display

/-- A property as a mapping. The separator is a single character and always quoted, for most of
those in use would not be read as a text otherwise. -/
def Property.node (p : Property) : Node :=
  .mapping <|
    [("name", .text p.name),
      ("type", p.type.node),
      ("nullable", boolNode p.nullable),
      ("format", .text p.format)] ++
    optionalText "item_format" p.itemFormat ++
    (match p.separator with
      | some c => [("separator", .quoted (String.singleton c))]
      | none => []) ++
    optionalText "help" p.help ++
    optionalText "assertion" (p.assertion.map Assertion.word) ++
    [("custom_impl", boolNode p.customImpl),
      ("custom_value", boolNode p.customValue)]

/-- Properties as a sequence, each by `Property.node`. -/
def propertyNodes (properties : List Property) : Node :=
  .sequence (properties.map Property.node)

/-- A settings class as a mapping, with the keys of `SettingsClass.keys`. -/
def SettingsClass.node (c : SettingsClass) : Node :=
  .mapping
    [("name", .text c.name), ("base_class", .text c.baseClass),
      ("properties", propertyNodes c.properties)]

/-- A data class as a mapping, with the keys of `DataClass.keys`. -/
def DataClass.node (c : DataClass) : Node :=
  .mapping [("name", .text c.name), ("properties", propertyNodes c.properties)]

/-- An enumeration as a mapping, with the keys of `Enumeration.keys`. -/
def Enumeration.node (e : Enumeration) : Node :=
  .mapping [("name", .text e.name), ("values", textNodes e.values)]

/-- A task as a mapping. The settings class and the flags are mappings in it, each with its own
node. -/
def Task.node (task : Task) : Node :=
  .mapping <|
    [("postfix", .text task.postfixName)] ++
    optionalText "help" task.help ++
    [("definite_argument", .text task.definiteArgument),
      ("settings_class", task.settingsClass.node),
      ("flags", task.flags.node)]

/-- The members of a tool's document, in the order of `Tool.keys`. -/
def Tool.documentMembers (tool : Tool) : List (String × Node) :=
  optionalText "model_version" tool.modelVersion ++
    [("name", .text tool.name),
      ("executable", .text tool.executable)] ++
    optionalText "help" tool.help ++
    optionalText "official_url" tool.officialUrl ++
    [("license", textNodes tool.license),
      ("references", textNodes tool.references),
      ("common_task_properties", propertyNodes tool.commonTaskProperties),
      ("data_classes", .sequence (tool.dataClasses.map DataClass.node)),
      ("tasks", .sequence (tool.tasks.map Task.node)),
      ("enumerations", .sequence (tool.enumerations.map Enumeration.node))]

/-- A tool as a document, one of the forms of `Tool.render`. -/
def Tool.document (tool : Tool) : String :=
  Yaml.document tool.documentMembers

end WrapperModel.Model
