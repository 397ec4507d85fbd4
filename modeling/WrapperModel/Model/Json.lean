import WrapperModel.Json.Printer
import WrapperModel.Json.Reader
import WrapperModel.Json.Record
import WrapperModel.Model.Basic

/-!
# `WrapperModel.Model.Json`: the data form of a model

Every part of a model has a `toJson` and an `ofJson`. The keys of a record are listed
once, in the order in which they are written. Fields without a value are left out of
what is written where the reader takes them for absent.

`Tool.json` is a model as text, and `Tool.ofText` reads such a text.
-/

set_option autoImplicit false

namespace WrapperModel.Model

open WrapperModel.Json (DecodeError Fields optionalMember asText asBool asChar asOptional asList
  fieldsOfRecord)

/-! ### Flags -/

/-- The keys of the flags, in the order in which `Flags.members` writes them. Definitions have these
keys among their own. -/
def Flags.keys : List String :=
  ["deprecated", "experimental", "experimentalcli", "kubernetes", "swarm", "min_api_version"]

/-- The flags as members of an object, for a record of their own (`Flags.toJson`) or among the
members of a definition. The version has no member where there is none. -/
def Flags.members (flags : Flags) : List (String × Json) :=
  [("deprecated", .bool flags.deprecated),
    ("experimental", .bool flags.experimental),
    ("experimentalcli", .bool flags.experimentalCli),
    ("kubernetes", .bool flags.kubernetes),
    ("swarm", .bool flags.swarm)] ++
  optionalMember "min_api_version" (flags.minApiVersion.map Json.text)

/-- The flags as a value, an object of `Flags.members`. -/
def Flags.toJson (flags : Flags) : Json :=
  Json.record flags.members

/-- The flags among the fields of a record. Keys that are no flags are not looked at, so they may
belong to something else. -/
def Flags.ofFields (fields : Fields) : Except DecodeError Flags := do
  return {
    deprecated := ← fields.read "deprecated" asBool false
    experimental := ← fields.read "experimental" asBool false
    experimentalCli := ← fields.read "experimentalcli" asBool false
    kubernetes := ← fields.read "kubernetes" asBool false
    swarm := ← fields.read "swarm" asBool false
    minApiVersion := ← fields.read "min_api_version" (asOptional asText) none }

/-- The flags that a value gives, each `false` or absent where its key is missing. -/
def Flags.ofJson (value : Json) : Except DecodeError Flags :=
  (fieldsOfRecord Flags.keys value).bind Flags.ofFields

/-! ### Property types and assertions -/

/-- The words for the types that refer to nothing, as `PropertyType.display` shows them. -/
def PropertyType.ofWord? : String → Option PropertyType
  | "string" => some .string
  | "bool" => some .bool
  | "int" => some .int
  | "long" => some .long
  | "float" => some .float
  | "decimal" => some .decimal
  | "list-of-string" => some .stringList
  | "map-of-string-to-string" => some .stringMap
  | _ => none

/-- A type as a value: its word (`PropertyType.display`), or an object with the kind of reference as
its key and the name under it. -/
def PropertyType.toJson : PropertyType → Json
  | .enumeration name => Json.record [("enumeration", Json.text name)]
  | .custom name => Json.record [("custom", Json.text name)]
  | type => Json.text type.display

/-- The type that a value gives. A word may also be the only key of an object, with `null` as its
value; the two references have to be such objects, with a name. -/
def PropertyType.ofJson : Json → Except DecodeError PropertyType
  | .string (some word) =>
    match PropertyType.ofWord? word with
    | some type => .ok type
    | none => .error (.unknownCase word)
  | .object [(some "enumeration", value)] => (asText value).map .enumeration
  | .object [(some "custom", value)] => (asText value).map .custom
  | .object [(some word, .null)] =>
    match PropertyType.ofWord? word with
    | some type => .ok type
    | none => .error (.unknownCase word)
  | _ => .error (.wanted "a property type")

/-- The word for an assertion. `Assertion.ofWord?` reads it. -/
def Assertion.word : Assertion → String
  | .file => "file"
  | .directory => "directory"
  | .fileOrNull => "file-or-null"
  | .directoryOrNull => "directory-or-null"

/-- The assertion of a word, as `Assertion.word` writes it. Capitals matter. -/
def Assertion.ofWord? : String → Option Assertion
  | "file" => some .file
  | "directory" => some .directory
  | "file-or-null" => some .fileOrNull
  | "directory-or-null" => some .directoryOrNull
  | _ => none

/-- The assertion that a value gives: its word, alone or as the only key of an object with `null` as
its value. -/
def Assertion.ofJson : Json → Except DecodeError Assertion
  | .string (some word) | .object [(some word, .null)] =>
    match Assertion.ofWord? word with
    | some assertion => .ok assertion
    | none => .error (.unknownCase word)
  | _ => .error (.wanted "an assertion")

/-! ### Properties and classes -/

/-- The keys of a property, in the order in which they are written. `fieldsOfRecord` passes over any
other key. -/
def Property.keys : List String :=
  ["name", "type", "nullable", "format", "item_format", "separator", "help", "assertion",
    "custom_impl", "custom_value"]

/-- A property as a value. The four texts that may be absent are left out then, while the truth
values are always written. -/
def Property.toJson (p : Property) : Json :=
  Json.record <|
    [("name", Json.text p.name),
      ("type", p.type.toJson),
      ("nullable", .bool p.nullable),
      ("format", Json.text p.format)] ++
    optionalMember "item_format" (p.itemFormat.map Json.text) ++
    optionalMember "separator" (p.separator.map fun c => Json.text (String.singleton c)) ++
    optionalMember "help" (p.help.map Json.text) ++
    optionalMember "assertion" (p.assertion.map fun a => Json.text a.word) ++
    [("custom_impl", .bool p.customImpl),
      ("custom_value", .bool p.customValue)]

/-- The property that a value gives. Every field has a default (`Fields.read`), so the empty object
is a property. -/
def Property.ofJson (value : Json) : Except DecodeError Property := do
  let fields ← fieldsOfRecord Property.keys value
  return {
    name := ← fields.read "name" asText ""
    type := ← fields.read "type" PropertyType.ofJson .string
    nullable := ← fields.read "nullable" asBool false
    format := ← fields.read "format" asText ""
    itemFormat := ← fields.read "item_format" (asOptional asText) none
    separator := ← fields.read "separator" (asOptional asChar) none
    help := ← fields.read "help" (asOptional asText) none
    assertion := ← fields.read "assertion" (asOptional Assertion.ofJson) none
    customImpl := ← fields.read "custom_impl" asBool false
    customValue := ← fields.read "custom_value" asBool false }

/-- The keys of a settings class, in the order in which they are written. -/
def SettingsClass.keys : List String := ["name", "base_class", "properties"]

/-- A settings class as a value, with its properties by `Property.toJson`. -/
def SettingsClass.toJson (c : SettingsClass) : Json :=
  Json.record
    [("name", Json.text c.name),
      ("base_class", Json.text c.baseClass),
      ("properties", .array (c.properties.map Property.toJson))]

/-- The settings class that a value gives. A key that is missing gives the default of its field, so
a class may be read without its base class. -/
def SettingsClass.ofJson (value : Json) : Except DecodeError SettingsClass := do
  let fields ← fieldsOfRecord SettingsClass.keys value
  return {
    name := ← fields.read "name" asText ""
    baseClass := ← fields.read "base_class" asText ""
    properties := ← fields.read "properties" (asList Property.ofJson) [] }

/-- The keys of a data class, in the order in which they are written. -/
def DataClass.keys : List String := ["name", "properties"]

/-- A data class as a value, with its properties by `Property.toJson`. -/
def DataClass.toJson (c : DataClass) : Json :=
  Json.record
    [("name", Json.text c.name), ("properties", .array (c.properties.map Property.toJson))]

/-- The data class that a value gives. A key that is missing gives the default of its field; a base
class would be a key like any unknown one. -/
def DataClass.ofJson (value : Json) : Except DecodeError DataClass := do
  let fields ← fieldsOfRecord DataClass.keys value
  return {
    name := ← fields.read "name" asText ""
    properties := ← fields.read "properties" (asList Property.ofJson) [] }

/-- The keys of an enumeration, in the order in which they are written. -/
def Enumeration.keys : List String := ["name", "values"]

/-- An enumeration as a value. An enumeration without values has an empty array. -/
def Enumeration.toJson (e : Enumeration) : Json :=
  Json.record [("name", Json.text e.name), ("values", Json.texts e.values)]

/-- The enumeration that a value gives. A key that is missing gives the default of its field, here
an empty list as well as an empty name. -/
def Enumeration.ofJson (value : Json) : Except DecodeError Enumeration := do
  let fields ← fieldsOfRecord Enumeration.keys value
  return {
    name := ← fields.read "name" asText ""
    values := ← fields.read "values" (asList asText) [] }

/-! ### Tasks and tools -/

/-- The keys of a task, in the order in which they are written. -/
def Task.keys : List String := ["postfix", "help", "definite_argument", "settings_class", "flags"]

/-- A task as a value. Its flags are a record of their own (`Flags.toJson`), unlike those of a
definition, and its help is left out where there is none. -/
def Task.toJson (task : Task) : Json :=
  Json.record <|
    [("postfix", Json.text task.postfixName)] ++
    optionalMember "help" (task.help.map Json.text) ++
    [("definite_argument", Json.text task.definiteArgument),
      ("settings_class", task.settingsClass.toJson),
      ("flags", task.flags.toJson)]

/-- The task that a value gives. A key that is missing gives the default of its field, which for the
settings is an empty `SettingsClass`. -/
def Task.ofJson (value : Json) : Except DecodeError Task := do
  let fields ← fieldsOfRecord Task.keys value
  return {
    postfixName := ← fields.read "postfix" asText ""
    help := ← fields.read "help" (asOptional asText) none
    definiteArgument := ← fields.read "definite_argument" asText ""
    settingsClass := ← fields.read "settings_class" SettingsClass.ofJson {}
    flags := ← fields.read "flags" Flags.ofJson {} }

/-- The keys of a tool, in the order in which they are written, by `Tool.toJson` and by
`Tool.document` alike. -/
def Tool.keys : List String :=
  ["model_version", "name", "executable", "help", "official_url", "license", "references",
    "common_task_properties", "data_classes", "tasks", "enumerations"]

/-- A tool as a value, all parts of which are written in full. A text that is missing is left
out. -/
def Tool.toJson (tool : Tool) : Json :=
  Json.record <|
    optionalMember "model_version" (tool.modelVersion.map Json.text) ++
    [("name", Json.text tool.name),
      ("executable", Json.text tool.executable)] ++
    optionalMember "help" (tool.help.map Json.text) ++
    optionalMember "official_url" (tool.officialUrl.map Json.text) ++
    [("license", Json.texts tool.license),
      ("references", Json.texts tool.references),
      ("common_task_properties", .array (tool.commonTaskProperties.map Property.toJson)),
      ("data_classes", .array (tool.dataClasses.map DataClass.toJson)),
      ("tasks", .array (tool.tasks.map Task.toJson)),
      ("enumerations", .array (tool.enumerations.map Enumeration.toJson))]

/-- The tool that a value gives. What is read is not examined: a model with findings is read as well
as one without. -/
def Tool.ofJson (value : Json) : Except DecodeError Tool := do
  let fields ← fieldsOfRecord Tool.keys value
  return {
    modelVersion := ← fields.read "model_version" (asOptional asText) none
    name := ← fields.read "name" asText ""
    executable := ← fields.read "executable" asText ""
    help := ← fields.read "help" (asOptional asText) none
    officialUrl := ← fields.read "official_url" (asOptional asText) none
    license := ← fields.read "license" (asList asText) []
    references := ← fields.read "references" (asList asText) []
    commonTaskProperties := ← fields.read "common_task_properties" (asList Property.ofJson) []
    dataClasses := ← fields.read "data_classes" (asList DataClass.ofJson) []
    tasks := ← fields.read "tasks" (asList Task.ofJson) []
    enumerations := ← fields.read "enumerations" (asList Enumeration.ofJson) [] }

/-- A tool as text, one of the forms of `Tool.render`. -/
def Tool.json (tool : Tool) : String :=
  tool.toJson.pretty

/-- The tool that a text writes. `Tool.ofText_render_json` says that no tool is lost between
`Tool.json` and here. -/
def Tool.ofText (s : String) : Except DecodeError Tool :=
  match Json.ofText? s with
  | some value => Tool.ofJson value
  | none => .error .malformed

end WrapperModel.Model
