import WrapperModel.Model.Output
import WrapperModel.Proofs.Json.Record

/-!
# `WrapperModel.Proofs.Model.RoundTrip`: a model reads back from its data form

Every part of a model is lawful: what it writes can be written, and is read as the same
part. A record needs only that its members stand in the order of its keys, and that each of
its fields is found and reads back.

* `Property.lawful`, `Task.lawful` and the like: the parts.
* `Tool.ofText_render_json`: the text of a tool in the data form is read as that tool.
-/

set_option autoImplicit false

namespace WrapperModel.Model

open WrapperModel.Json (Lawful fieldsOfRecord fieldsOfRecord_record lookup_optionalMember
  map_fst_optionalMember_sublist map_fst_optionalMember_append_sublist writable_record
  forall_mem_optionalMember)

/-- Property types are `Lawful`. The words differ from each other, and a reference is an object and
no word. -/
theorem PropertyType.lawful : Lawful PropertyType.toJson PropertyType.ofJson where
  writable type := by
    cases type with
    | enumeration name | custom name => exact writable_record (by simp [Lawful.text.writable])
    | _ => exact Lawful.text.writable _
  ne_null type := by
    cases type <;> simp [PropertyType.toJson, Json.text, Json.record]
  decode_encode type := by
    cases type <;> rfl

/-- Assertions are `Lawful`: each has a word of its own. -/
theorem Assertion.lawful : Lawful (fun a : Assertion => Json.text a.word) Assertion.ofJson where
  writable a := Lawful.text.writable a.word
  ne_null a := Lawful.text.ne_null a.word
  decode_encode a := by
    cases a <;> rfl

/-- Flags are written in the order of their keys (`Flags.keys`), without the last one where it has
no value. -/
theorem Flags.map_fst_members_sublist (flags : Flags) :
    (flags.members.map Prod.fst).Sublist Flags.keys := by
  simp only [Flags.keys, Flags.members, List.map_cons, List.cons_append, List.nil_append,
    List.cons_sublist_cons]
  exact map_fst_optionalMember_sublist _ _

/-- The members of flags can be written (`Json.Writable`), as truth values and a text. -/
theorem Flags.writable_members (flags : Flags) :
    ∀ member ∈ flags.members, Json.Writable member.2 := by
  -- What the members write can be written, each for itself.
  simp only [Flags.members, List.forall_mem_append, List.forall_mem_cons,
    forall_mem_optionalMember, List.not_mem_nil, false_imp_iff, implies_true, and_true, and_assoc]
  exact ⟨.bool _, .bool _, .bool _, .bool _, .bool _, Lawful.text.writable_of_mem_map _⟩

/-- Flags are read from the members that they are written as. Definitions use it as well, whose
flags stand among other members. -/
theorem Flags.ofFields_members (flags : Flags) : Flags.ofFields flags.members = .ok flags := by
  -- Without a version there is no member for it, so its key is looked up among the others.
  have hversion : flags.members.lookup "min_api_version" = flags.minApiVersion.map Json.text := by
    simp [Flags.members, lookup_optionalMember, List.lookup_cons]
  have hdeprecated : flags.members.lookup "deprecated" = some (.bool flags.deprecated) := rfl
  have hexperimental : flags.members.lookup "experimental" = some (.bool flags.experimental) := rfl
  have hcli : flags.members.lookup "experimentalcli" = some (.bool flags.experimentalCli) := rfl
  have hkubernetes : flags.members.lookup "kubernetes" = some (.bool flags.kubernetes) := rfl
  have hswarm : flags.members.lookup "swarm" = some (.bool flags.swarm) := rfl
  simp only [Flags.ofFields, bind, Except.bind, pure, Except.pure, Lawful.bool.read hdeprecated,
    Lawful.bool.read hexperimental, Lawful.bool.read hcli, Lawful.bool.read hkubernetes,
    Lawful.bool.read hswarm, Lawful.text.readOptional hversion]

/-- Flags are `Lawful`, where they are a record of their own. -/
theorem Flags.lawful : Lawful Flags.toJson Flags.ofJson where
  writable flags := writable_record flags.writable_members
  ne_null flags := by
    simp [Flags.toJson, Json.record]
  decode_encode flags := by
    rw [Flags.ofJson, Flags.toJson,
      fieldsOfRecord_record (by decide) flags.map_fst_members_sublist]
    exact flags.ofFields_members

/-- `Flags.ofFields` looks at the keys of flags alone, so other fields may stand among them, as they
do in a definition. -/
theorem Flags.ofFields_congr {fields other : Json.Fields}
    (h : ∀ key ∈ Flags.keys, fields.lookup key = other.lookup key) :
    Flags.ofFields fields = Flags.ofFields other := by
  simp only [Flags.keys, List.forall_mem_cons, List.not_mem_nil, false_imp_iff, implies_true,
    and_true] at h
  obtain ⟨hdeprecated, hexperimental, hcli, hkubernetes, hswarm, hversion⟩ := h
  simp only [Flags.ofFields, Json.Fields.read, hdeprecated, hexperimental, hcli, hkubernetes,
    hswarm, hversion]

/-- The fields of a property, as they are written: what `Property.ofJson` finds under each key. A
key that is left out is not found. -/
theorem Property.fields_toJson (p : Property) :
    ∃ fields, fieldsOfRecord Property.keys p.toJson = .ok fields ∧
      fields.lookup "name" = some (Json.text p.name) ∧
      fields.lookup "type" = some p.type.toJson ∧
      fields.lookup "nullable" = some (.bool p.nullable) ∧
      fields.lookup "format" = some (Json.text p.format) ∧
      fields.lookup "item_format" = p.itemFormat.map Json.text ∧
      fields.lookup "separator" = p.separator.map (fun c => Json.text (String.singleton c)) ∧
      fields.lookup "help" = p.help.map Json.text ∧
      fields.lookup "assertion" = p.assertion.map (fun a => Json.text a.word) ∧
      fields.lookup "custom_impl" = some (.bool p.customImpl) ∧
      fields.lookup "custom_value" = some (.bool p.customValue) := by
  refine ⟨_, fieldsOfRecord_record (by decide) ?_, ?_⟩
  · -- The keys that are written are a sublist of all keys, as some members may be left out.
    simp only [Property.keys, List.map_append, List.map_cons, List.map_nil, List.append_assoc,
      List.cons_append, List.nil_append, List.cons_sublist_cons]
    iterate 4 apply map_fst_optionalMember_append_sublist
    exact List.Sublist.refl _
  · simp [lookup_optionalMember, List.lookup_append, List.lookup_cons]

/-- Properties are `Lawful`, by one look-up for each field. -/
theorem Property.lawful : Lawful Property.toJson Property.ofJson where
  writable p := by
    refine writable_record ?_
    simp only [List.forall_mem_append, List.forall_mem_cons, forall_mem_optionalMember,
      List.not_mem_nil, false_imp_iff, implies_true, and_true, and_assoc]
    exact ⟨.text _, PropertyType.lawful.writable _, .bool _, .text _,
      Lawful.text.writable_of_mem_map _, Lawful.char.writable_of_mem_map _,
      Lawful.text.writable_of_mem_map _, Assertion.lawful.writable_of_mem_map _, .bool _, .bool _⟩
  ne_null p := by
    simp [Property.toJson, Json.record]
  decode_encode p := by
    -- Each field is found under its key or missing, and then its decoding is undone.
    obtain ⟨fields, hfields, hname, htype, hnullable, hformat, hitem, hseparator, hhelp,
      hassertion, himpl, hvalue⟩ := p.fields_toJson
    rw [Property.ofJson, hfields]
    simp only [bind, Except.bind, pure, Except.pure, Lawful.text.read hname,
      PropertyType.lawful.read htype, Lawful.bool.read hnullable, Lawful.text.read hformat,
      Lawful.text.readOptional hitem, Lawful.char.readOptional hseparator,
      Lawful.text.readOptional hhelp, Assertion.lawful.readOptional hassertion,
      Lawful.bool.read himpl, Lawful.bool.read hvalue]

/-! ### Classes and enumerations -/

/-- The fields of a settings class, as `SettingsClass.toJson` writes them. Each is found under its
key. -/
theorem SettingsClass.fields_toJson (c : SettingsClass) :
    ∃ fields, fieldsOfRecord SettingsClass.keys c.toJson = .ok fields ∧
      fields.lookup "name" = some (Json.text c.name) ∧
      fields.lookup "base_class" = some (Json.text c.baseClass) ∧
      fields.lookup "properties" = some (.array (c.properties.map Property.toJson)) :=
  ⟨_, fieldsOfRecord_record (by decide) (List.Sublist.refl _), rfl, rfl, rfl⟩

/-- Settings classes are `Lawful`, as their properties are. -/
theorem SettingsClass.lawful : Lawful SettingsClass.toJson SettingsClass.ofJson where
  writable c := by
    refine writable_record ?_
    simp only [List.forall_mem_cons, List.not_mem_nil, false_imp_iff, implies_true, and_true]
    exact ⟨.text _, .text _, Property.lawful.list.writable _⟩
  ne_null c := by
    simp [SettingsClass.toJson, Json.record]
  decode_encode c := by
    obtain ⟨fields, hfields, hname, hbase, hproperties⟩ := c.fields_toJson
    rw [SettingsClass.ofJson, hfields]
    simp only [bind, Except.bind, pure, Except.pure, Lawful.text.read hname,
      Lawful.text.read hbase, Property.lawful.list.read hproperties]

/-- The fields of a data class, as `DataClass.toJson` writes them. Each is found under its key. -/
theorem DataClass.fields_toJson (c : DataClass) :
    ∃ fields, fieldsOfRecord DataClass.keys c.toJson = .ok fields ∧
      fields.lookup "name" = some (Json.text c.name) ∧
      fields.lookup "properties" = some (.array (c.properties.map Property.toJson)) :=
  ⟨_, fieldsOfRecord_record (by decide) (List.Sublist.refl _), rfl, rfl⟩

/-- Data classes are `Lawful`, as their properties are. -/
theorem DataClass.lawful : Lawful DataClass.toJson DataClass.ofJson where
  writable c := by
    refine writable_record ?_
    simp only [List.forall_mem_cons, List.not_mem_nil, false_imp_iff, implies_true, and_true]
    exact ⟨.text _, Property.lawful.list.writable _⟩
  ne_null c := by
    simp [DataClass.toJson, Json.record]
  decode_encode c := by
    obtain ⟨fields, hfields, hname, hproperties⟩ := c.fields_toJson
    rw [DataClass.ofJson, hfields]
    simp only [bind, Except.bind, pure, Except.pure, Lawful.text.read hname,
      Property.lawful.list.read hproperties]

/-- The fields of an enumeration, as `Enumeration.toJson` writes them. Each is found under its
key. -/
theorem Enumeration.fields_toJson (e : Enumeration) :
    ∃ fields, fieldsOfRecord Enumeration.keys e.toJson = .ok fields ∧
      fields.lookup "name" = some (Json.text e.name) ∧
      fields.lookup "values" = some (Json.texts e.values) :=
  ⟨_, fieldsOfRecord_record (by decide) (List.Sublist.refl _), rfl, rfl⟩

/-- Enumerations are `Lawful`, with or without values. -/
theorem Enumeration.lawful : Lawful Enumeration.toJson Enumeration.ofJson where
  writable e := by
    refine writable_record ?_
    simp only [List.forall_mem_cons, List.not_mem_nil, false_imp_iff, implies_true, and_true]
    exact ⟨.text _, Lawful.text.list.writable _⟩
  ne_null e := by
    simp [Enumeration.toJson, Json.record]
  decode_encode e := by
    obtain ⟨fields, hfields, hname, hvalues⟩ := e.fields_toJson
    rw [Enumeration.ofJson, hfields]
    simp only [bind, Except.bind, pure, Except.pure, Lawful.text.read hname,
      Lawful.text.list.read hvalues]

/-! ### Tasks and tools -/

/-- The fields of a task, as `Task.toJson` writes them. The help is found only where there is
one. -/
theorem Task.fields_toJson (task : Task) :
    ∃ fields, fieldsOfRecord Task.keys task.toJson = .ok fields ∧
      fields.lookup "postfix" = some (Json.text task.postfixName) ∧
      fields.lookup "help" = task.help.map Json.text ∧
      fields.lookup "definite_argument" = some (Json.text task.definiteArgument) ∧
      fields.lookup "settings_class" = some task.settingsClass.toJson ∧
      fields.lookup "flags" = some task.flags.toJson := by
  refine ⟨_, fieldsOfRecord_record (by decide) ?_, ?_⟩
  · simp only [Task.keys, List.map_append, List.map_cons, List.map_nil, List.cons_append,
      List.nil_append, List.cons_sublist_cons]
    apply map_fst_optionalMember_append_sublist
    exact List.Sublist.refl _
  · simp [lookup_optionalMember, List.lookup_append, List.lookup_cons]

/-- Tasks are `Lawful`, as their settings classes and flags are. -/
theorem Task.lawful : Lawful Task.toJson Task.ofJson where
  writable task := by
    refine writable_record ?_
    simp only [List.forall_mem_append, List.forall_mem_cons, forall_mem_optionalMember,
      List.not_mem_nil, false_imp_iff, implies_true, and_true, and_assoc]
    exact ⟨.text _, Lawful.text.writable_of_mem_map _, .text _, SettingsClass.lawful.writable _,
      Flags.lawful.writable _⟩
  ne_null task := by
    simp [Task.toJson, Json.record]
  decode_encode task := by
    obtain ⟨fields, hfields, hpostfix, hhelp, hargument, hclass, hflags⟩ := task.fields_toJson
    rw [Task.ofJson, hfields]
    simp only [bind, Except.bind, pure, Except.pure, Lawful.text.read hpostfix,
      Lawful.text.readOptional hhelp, Lawful.text.read hargument, SettingsClass.lawful.read hclass,
      Flags.lawful.read hflags]

/-- The fields of a tool, as they are written. Those that may be left out are found only where they
have a value. -/
theorem Tool.fields_toJson (tool : Tool) :
    ∃ fields, fieldsOfRecord Tool.keys tool.toJson = .ok fields ∧
      fields.lookup "model_version" = tool.modelVersion.map Json.text ∧
      fields.lookup "name" = some (Json.text tool.name) ∧
      fields.lookup "executable" = some (Json.text tool.executable) ∧
      fields.lookup "help" = tool.help.map Json.text ∧
      fields.lookup "official_url" = tool.officialUrl.map Json.text ∧
      fields.lookup "license" = some (Json.texts tool.license) ∧
      fields.lookup "references" = some (Json.texts tool.references) ∧
      fields.lookup "common_task_properties" =
        some (.array (tool.commonTaskProperties.map Property.toJson)) ∧
      fields.lookup "data_classes" = some (.array (tool.dataClasses.map DataClass.toJson)) ∧
      fields.lookup "tasks" = some (.array (tool.tasks.map Task.toJson)) ∧
      fields.lookup "enumerations" =
        some (.array (tool.enumerations.map Enumeration.toJson)) := by
  refine ⟨_, fieldsOfRecord_record (by decide) ?_, ?_⟩
  · -- The first key may be left out, then some in the middle, and the others are always there.
    simp only [Tool.keys, List.map_append, List.map_cons, List.map_nil, List.append_assoc,
      List.cons_append, List.nil_append]
    apply map_fst_optionalMember_append_sublist
    simp only [List.cons_sublist_cons]
    iterate 2 apply map_fst_optionalMember_append_sublist
    exact List.Sublist.refl _
  · simp [lookup_optionalMember, List.lookup_append, List.lookup_cons]

/-- Tools are `Lawful`, as all their parts are. This is what `Tool.ofText_render_json` rests on. -/
theorem Tool.lawful : Lawful Tool.toJson Tool.ofJson where
  writable tool := by
    refine writable_record ?_
    simp only [List.forall_mem_append, List.forall_mem_cons, forall_mem_optionalMember,
      List.not_mem_nil, false_imp_iff, implies_true, and_true, and_assoc]
    -- The members in their order: an optional one is writable where it is written.
    exact ⟨Lawful.text.writable_of_mem_map _, .text _, .text _, Lawful.text.writable_of_mem_map _,
      Lawful.text.writable_of_mem_map _, Lawful.text.list.writable _, Lawful.text.list.writable _,
      Property.lawful.list.writable _, DataClass.lawful.list.writable _,
      Task.lawful.list.writable _, Enumeration.lawful.list.writable _⟩
  ne_null tool := by
    simp [Tool.toJson, Json.record]
  decode_encode tool := by
    obtain ⟨fields, hfields, hversion, hname, hexecutable, hhelp, hurl, hlicense, hreferences,
      hcommon, hclasses, htasks, henumerations⟩ := tool.fields_toJson
    rw [Tool.ofJson, hfields]
    simp only [bind, Except.bind, pure, Except.pure, Lawful.text.readOptional hversion,
      Lawful.text.read hname, Lawful.text.read hexecutable, Lawful.text.readOptional hhelp,
      Lawful.text.readOptional hurl, Lawful.text.list.read hlicense,
      Lawful.text.list.read hreferences, Property.lawful.list.read hcommon,
      DataClass.lawful.list.read hclasses, Task.lawful.list.read htasks,
      Enumeration.lawful.list.read henumerations]

/-- The text of a tool in the data form, as `Tool.render` gives it, is read by `Tool.ofText` as that
tool. There is no condition on the tool: names may be empty or hold any characters, and what
`Tool.findings` says of it does not matter. -/
theorem Tool.ofText_render_json (tool : Tool) : Tool.ofText (tool.render .json) = .ok tool := by
  have hvalue := Json.ofText?_pretty (Tool.lawful.writable tool)
  have hrender : tool.render .json = tool.toJson.pretty := rfl
  rw [Tool.ofText, hrender, hvalue]
  exact Tool.lawful.decode_encode tool

end WrapperModel.Model
