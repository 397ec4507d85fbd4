import WrapperModel.Model.Json
import WrapperModel.Proofs.Json.Members

/-!
# `WrapperModel.Proofs.Model.Fields`: the fields of a model's records

Each record of a model is a list of fields: the key of a field, how its value is read, and what
it is where the key is missing. The readers of a model all read field by field (`IsFieldwise`), and
what is known of such readers holds for all parts of a model.
-/

set_option autoImplicit false

namespace WrapperModel.Model

open WrapperModel.Json (RecordField IsFieldwise bind_eq_ok_iff asText asBool asChar asOptional
  asList)

/-- The fields of flags, with what `Flags.ofFields` reads them by. They are read from among the
members of another record. -/
def Flags.fields : List (RecordField Flags) :=
  [⟨_, "deprecated", asBool, false, (·.deprecated)⟩,
    ⟨_, "experimental", asBool, false, (·.experimental)⟩,
    ⟨_, "experimentalcli", asBool, false, (·.experimentalCli)⟩,
    ⟨_, "kubernetes", asBool, false, (·.kubernetes)⟩,
    ⟨_, "swarm", asBool, false, (·.swarm)⟩,
    ⟨_, "min_api_version", asOptional asText, none, (·.minApiVersion)⟩]

/-- Flags are read field by field (`IsFieldwise`). -/
theorem Flags.isFieldwise : IsFieldwise Flags.fields Flags.ofJson := by
  refine .of_reads rfl (fun _ => rfl) fun given flags => ?_
  cases flags
  simp only [Flags.ofFields, bind_eq_ok_iff, pure, Except.pure, Except.ok.injEq, Flags.mk.injEq]
  simp [Flags.fields, RecordField.Reads]

/-- The fields of a property, with what `Property.ofJson` reads them by, and the default of each. -/
def Property.fields : List (RecordField Property) :=
  [⟨_, "name", asText, "", (·.name)⟩,
    ⟨_, "type", PropertyType.ofJson, .string, (·.type)⟩,
    ⟨_, "nullable", asBool, false, (·.nullable)⟩,
    ⟨_, "format", asText, "", (·.format)⟩,
    ⟨_, "item_format", asOptional asText, none, (·.itemFormat)⟩,
    ⟨_, "separator", asOptional asChar, none, (·.separator)⟩,
    ⟨_, "help", asOptional asText, none, (·.help)⟩,
    ⟨_, "assertion", asOptional Assertion.ofJson, none, (·.assertion)⟩,
    ⟨_, "custom_impl", asBool, false, (·.customImpl)⟩,
    ⟨_, "custom_value", asBool, false, (·.customValue)⟩]

/-- Properties are read field by field (`IsFieldwise`). -/
theorem Property.isFieldwise : IsFieldwise Property.fields Property.ofJson := by
  refine .of_reads rfl (fun _ => rfl) fun given p => ?_
  cases p
  simp only [bind_eq_ok_iff, pure, Except.pure, Except.ok.injEq, Property.mk.injEq]
  simp [Property.fields, RecordField.Reads]

/-- The fields of a settings class. Its properties are records of their own, with
`Property.fields`. -/
def SettingsClass.fields : List (RecordField SettingsClass) :=
  [⟨_, "name", asText, "", (·.name)⟩,
    ⟨_, "base_class", asText, "", (·.baseClass)⟩,
    ⟨_, "properties", asList Property.ofJson, [], (·.properties)⟩]

/-- Settings classes are read field by field (`IsFieldwise`). -/
theorem SettingsClass.isFieldwise : IsFieldwise SettingsClass.fields SettingsClass.ofJson := by
  refine .of_reads rfl (fun _ => rfl) fun given c => ?_
  cases c
  simp only [bind_eq_ok_iff, pure, Except.pure, Except.ok.injEq, SettingsClass.mk.injEq]
  simp [SettingsClass.fields, RecordField.Reads]

/-- The fields of a data class, whose properties are those of `Property.fields` as well. -/
def DataClass.fields : List (RecordField DataClass) :=
  [⟨_, "name", asText, "", (·.name)⟩,
    ⟨_, "properties", asList Property.ofJson, [], (·.properties)⟩]

/-- Data classes are read field by field (`IsFieldwise`). -/
theorem DataClass.isFieldwise : IsFieldwise DataClass.fields DataClass.ofJson := by
  refine .of_reads rfl (fun _ => rfl) fun given c => ?_
  cases c
  simp only [bind_eq_ok_iff, pure, Except.pure, Except.ok.injEq, DataClass.mk.injEq]
  simp [DataClass.fields, RecordField.Reads]

/-- The fields of an enumeration, with what `Enumeration.ofJson` reads them by. -/
def Enumeration.fields : List (RecordField Enumeration) :=
  [⟨_, "name", asText, "", (·.name)⟩,
    ⟨_, "values", asList asText, [], (·.values)⟩]

/-- Enumerations are read field by field (`IsFieldwise`). -/
theorem Enumeration.isFieldwise : IsFieldwise Enumeration.fields Enumeration.ofJson := by
  refine .of_reads rfl (fun _ => rfl) fun given e => ?_
  cases e
  simp only [bind_eq_ok_iff, pure, Except.pure, Except.ok.injEq, Enumeration.mk.injEq]
  simp [Enumeration.fields, RecordField.Reads]

/-- The fields of a task, two of which are records of their own: its settings and its flags. -/
def Task.fields : List (RecordField Task) :=
  [⟨_, "postfix", asText, "", (·.postfixName)⟩,
    ⟨_, "help", asOptional asText, none, (·.help)⟩,
    ⟨_, "definite_argument", asText, "", (·.definiteArgument)⟩,
    ⟨_, "settings_class", SettingsClass.ofJson, {}, (·.settingsClass)⟩,
    ⟨_, "flags", Flags.ofJson, {}, (·.flags)⟩]

/-- Tasks are read field by field (`IsFieldwise`). -/
theorem Task.isFieldwise : IsFieldwise Task.fields Task.ofJson := by
  refine .of_reads rfl (fun _ => rfl) fun given task => ?_
  cases task
  simp only [bind_eq_ok_iff, pure, Except.pure, Except.ok.injEq, Task.mk.injEq]
  simp [Task.fields, RecordField.Reads]

/-- The fields of a tool, four of which are sequences of records, so an edit can be deep inside of
them. -/
def Tool.fields : List (RecordField Tool) :=
  [⟨_, "model_version", asOptional asText, none, (·.modelVersion)⟩,
    ⟨_, "name", asText, "", (·.name)⟩,
    ⟨_, "executable", asText, "", (·.executable)⟩,
    ⟨_, "help", asOptional asText, none, (·.help)⟩,
    ⟨_, "official_url", asOptional asText, none, (·.officialUrl)⟩,
    ⟨_, "license", asList asText, [], (·.license)⟩,
    ⟨_, "references", asList asText, [], (·.references)⟩,
    ⟨_, "common_task_properties", asList Property.ofJson, [], (·.commonTaskProperties)⟩,
    ⟨_, "data_classes", asList DataClass.ofJson, [], (·.dataClasses)⟩,
    ⟨_, "tasks", asList Task.ofJson, [], (·.tasks)⟩,
    ⟨_, "enumerations", asList Enumeration.ofJson, [], (·.enumerations)⟩]

/-- Tools are read field by field (`IsFieldwise`). -/
theorem Tool.isFieldwise : IsFieldwise Tool.fields Tool.ofJson := by
  refine .of_reads rfl (fun _ => rfl) fun given tool => ?_
  cases tool
  simp only [bind_eq_ok_iff, pure, Except.pure, Except.ok.injEq, Tool.mk.injEq]
  simp [Tool.fields, RecordField.Reads]

end WrapperModel.Model
