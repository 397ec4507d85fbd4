import Mathlib.Logic.Relation
import WrapperModel.Proofs.Model.Fields
import WrapperModel.Proofs.Model.RoundTrip

/-!
# `WrapperModel.Proofs.Model.Rewriting`: changes of the data form that make no difference

The data form of a model can be rewritten by hand or by other programs. `Harmless` are the changes
of one object that leave its record the same, and `Doubling` is the change that spoils it. `Within`
makes a change at any depth: at the object itself, or at a record in one of its fields.

* `Schema`: a kind of records, with what is known of it; `Tool.schema`, `Task.schema` and the like
  are the kinds in a model.
* `Harmless.decode`, `Doubling.not_decode`: what a change does to the record of the object.
* `Within.decode`, `Within.not_decode`: what it does to the records around that record.
* `Rewritten.decode`: any number of harmless changes.
* `Tool.ofText_of_rewritten`: the text of a rewritten model is read as the model, and is never read
  once the key of a field is doubled.
-/

set_option autoImplicit false

namespace WrapperModel.Model

open WrapperModel.Json (DecodeError RecordField IsFieldwise Lawful Member Writable asList
  asList_replace exists_decode_of_asList writable_record)

/-! ### Kinds of records -/

/-- A kind of records: its fields, the two ways between records and values, and the record whose
fields are all at their defaults. What is proved of records is part of it, so the changes below are
treated once for all seven kinds. -/
structure Schema where
  Record : Type
  fields : List (RecordField Record)
  encode : Record → Json
  decode : Json → Except DecodeError Record
  blank : Record
  isFieldwise : IsFieldwise fields decode
  lawful : Lawful encode decode
  isObject : ∀ record, ∃ members, encode record = .object members
  value_blank : ∀ f ∈ fields, f.value blank = f.default

namespace Schema

/-- The keys of the fields, in their order. A member with another key is passed over (`known`). -/
def keys (s : Schema) : List String :=
  s.fields.map RecordField.key

/-- The members that write a field with the default of its type: those of the blank record. A field
that is left out when it has no value has none among them. -/
def defaults (s : Schema) : List Member :=
  match s.encode s.blank with
  | .object members => members
  | _ => []

/-- The blank record is written with the `defaults`, all of which can therefore be read. -/
theorem encode_blank (s : Schema) : s.encode s.blank = .object s.defaults := by
  obtain ⟨members, hmembers⟩ := s.isObject s.blank
  simp only [defaults, hmembers]

/-- A member that writes the default of its field is read as that default, because the blank record
reads back. -/
theorem decode_of_mem_defaults {s : Schema} {f : RecordField s.Record} (hf : f ∈ s.fields)
    {value : Json} (hmem : (some f.key, value) ∈ s.defaults) : f.decode value = .ok f.default := by
  -- The member was written for the blank record, and what is written is read back.
  have hblank := s.lawful.decode_encode s.blank
  rw [encode_blank] at hblank
  rw [s.isFieldwise.decode_of_mem hf hmem hblank, s.value_blank f hf]

end Schema

/-- The kind of flags, which are records of their own in a task (`Task.schema`). -/
def Flags.schema : Schema :=
  ⟨Flags, Flags.fields, _, _, {}, Flags.isFieldwise, Flags.lawful, fun _ => ⟨_, rfl⟩,
    by simp [Flags.fields]⟩

/-- The kind of properties, the innermost records but for flags (`Flags.schema`). -/
def Property.schema : Schema :=
  ⟨Property, Property.fields, _, _, {}, Property.isFieldwise, Property.lawful, fun _ => ⟨_, rfl⟩,
    by simp [Property.fields]⟩

/-- The kind of settings classes, which hold properties (`Property.schema`). -/
def SettingsClass.schema : Schema :=
  ⟨SettingsClass, SettingsClass.fields, _, _, {}, SettingsClass.isFieldwise, SettingsClass.lawful,
    fun _ => ⟨_, rfl⟩, by simp [SettingsClass.fields]⟩

/-- The kind of data classes, which hold properties too (`Property.schema`), but name no base
class. -/
def DataClass.schema : Schema :=
  ⟨DataClass, DataClass.fields, _, _, {}, DataClass.isFieldwise, DataClass.lawful,
    fun _ => ⟨_, rfl⟩, by simp [DataClass.fields]⟩

/-- The kind of enumerations. Their values are texts, so no record is in them. -/
def Enumeration.schema : Schema :=
  ⟨Enumeration, Enumeration.fields, _, _, {}, Enumeration.isFieldwise, Enumeration.lawful,
    fun _ => ⟨_, rfl⟩, by simp [Enumeration.fields]⟩

/-- The kind of tasks, each of which holds a settings class and flags (`HoldsOne`). -/
def Task.schema : Schema :=
  ⟨Task, Task.fields, _, _, {}, Task.isFieldwise, Task.lawful, fun _ => ⟨_, rfl⟩,
    by simp [Task.fields]⟩

/-- The kind of tools, the outermost records, in which all others stand at some depth. -/
def Tool.schema : Schema :=
  ⟨Tool, Tool.fields, _, _, {}, Tool.isFieldwise, Tool.lawful, fun _ => ⟨_, rfl⟩,
    by simp [Tool.fields]⟩

/-- The field of the kind holds a record of another kind, and not a list of them. There is a
constructor for each such field; only `Task.schema` has any. -/
inductive HoldsOne : Schema → String → Schema → Prop
  | settingsClass : HoldsOne Task.schema "settings_class" SettingsClass.schema
  | flags : HoldsOne Task.schema "flags" Flags.schema

/-- The field of the kind holds records of another kind, one after the other. Together with
`HoldsOne` it lists every place of a model where records stand in records. -/
inductive HoldsMany : Schema → String → Schema → Prop
  | commonTaskProperties : HoldsMany Tool.schema "common_task_properties" Property.schema
  | dataClasses : HoldsMany Tool.schema "data_classes" DataClass.schema
  | tasks : HoldsMany Tool.schema "tasks" Task.schema
  | enumerations : HoldsMany Tool.schema "enumerations" Enumeration.schema
  | settingsProperties : HoldsMany SettingsClass.schema "properties" Property.schema
  | dataProperties : HoldsMany DataClass.schema "properties" Property.schema

variable {s inner : Schema} {key : String} {value value' : Json}

/-- A field that holds a record is one of the kind, and is read as that record
(`RecordField.ReadsAs`). -/
theorem HoldsOne.readsAs (h : HoldsOne s key inner) :
    key ∈ s.keys ∧ ∀ f ∈ s.fields, f.key = key → f.ReadsAs inner.decode := by
  cases h <;> refine ⟨by decide, ?_⟩
  case settingsClass =>
    show ∀ f ∈ Task.fields, f.key = "settings_class" → f.ReadsAs SettingsClass.ofJson
    simp [Task.fields]
  case flags =>
    show ∀ f ∈ Task.fields, f.key = "flags" → f.ReadsAs Flags.ofJson
    simp [Task.fields]

/-- A field that holds records is one of the kind, and is read as a sequence of them by `asList`. -/
theorem HoldsMany.readsAs (h : HoldsMany s key inner) :
    key ∈ s.keys ∧ ∀ f ∈ s.fields, f.key = key → f.ReadsAs (asList inner.decode) := by
  -- Each of the keys that hold records is the key of one field.
  cases h <;> refine ⟨by decide, ?_⟩
  case commonTaskProperties =>
    show ∀ f ∈ Tool.fields, f.key = "common_task_properties" → f.ReadsAs (asList Property.ofJson)
    simp [Tool.fields]
  case dataClasses =>
    show ∀ f ∈ Tool.fields, f.key = "data_classes" → f.ReadsAs (asList DataClass.ofJson)
    simp [Tool.fields]
  case tasks =>
    show ∀ f ∈ Tool.fields, f.key = "tasks" → f.ReadsAs (asList Task.ofJson)
    simp [Tool.fields]
  case enumerations =>
    show ∀ f ∈ Tool.fields, f.key = "enumerations" → f.ReadsAs (asList Enumeration.ofJson)
    simp [Tool.fields]
  case settingsProperties =>
    show ∀ f ∈ SettingsClass.fields, f.key = "properties" → f.ReadsAs (asList Property.ofJson)
    simp [SettingsClass.fields]
  case dataProperties =>
    show ∀ f ∈ DataClass.fields, f.key = "properties" → f.ReadsAs (asList Property.ofJson)
    simp [DataClass.fields]

/-! ### Changes of an object -/

/-- A change of an object's members that leaves its record the same: another order, a member more
whose key is no field, and a member less that writes the default of its field. -/
inductive Harmless (s : Schema) : List Member → List Member → Prop
  | reorder {members members' : List Member} (h : members.Perm members') :
      Harmless s members members'
  | insert (before behind : List Member) (key : String) (value : Json) (hkey : key ∉ s.keys) :
      Harmless s (before ++ behind) (before ++ (some key, value) :: behind)
  | remove (before behind : List Member) {key : String} {value : Json} (hkey : key ∈ s.keys)
      (hdefault : (some key, value) ∈ s.defaults) :
      Harmless s (before ++ (some key, value) :: behind) (before ++ behind)

/-- A change of an object's members by which a field is there twice. The two members may be equal,
and stand anywhere. -/
inductive Doubling (s : Schema) : List Member → List Member → Prop
  | double (before behind : List Member) {key : String} (present value : Json) (hkey : key ∈ s.keys)
      (hpresent : (some key, present) ∈ before ++ behind) :
      Doubling s (before ++ behind) (before ++ (some key, value) :: behind)

/-- A record is read from a changed object as before, each of the three changes by its lemma about
`IsFieldwise`. -/
theorem Harmless.decode {members members' : List Member} (h : Harmless s members members')
    {record : s.Record} (hread : s.decode (.object members) = .ok record) :
    s.decode (.object members') = .ok record := by
  cases h with
  | reorder h => exact s.isFieldwise.reorder h hread
  | insert before behind key value hkey => exact s.isFieldwise.insert hkey hread
  | remove before behind hkey hdefault =>
    refine s.isFieldwise.remove hkey (fun f hf hown => ?_) hread
    subst hown
    exact Schema.decode_of_mem_defaults hf hdefault

/-- No record is read from an object in which a field is doubled (`IsFieldwise.double`). -/
theorem Doubling.not_decode {members members' : List Member} (h : Doubling s members members')
    (record : s.Record) : s.decode (.object members') ≠ .ok record := by
  cases h with
  | double before behind present value hkey hpresent => exact s.isFieldwise.double hkey hpresent

/-! ### Changes at any depth -/

/-- A change of the object of a record, or of a record in one of its fields, at any depth. The same
relation serves for changes that make no difference and for the one that does. -/
inductive Within (change : Schema → List Member → List Member → Prop) : Schema → Json → Json → Prop
  | here {s : Schema} {members members' : List Member} (h : change s members members') :
      Within change s (.object members) (.object members')
  | one {s inner : Schema} {key : String} {value value' : Json} (before behind : List Member)
      (hkey : HoldsOne s key inner) (h : Within change inner value value') :
      Within change s (.object (before ++ (some key, value) :: behind))
        (.object (before ++ (some key, value') :: behind))
  | many {s inner : Schema} {key : String} {value value' : Json} (before behind : List Member)
      (items more : List Json) (hkey : HoldsMany s key inner)
      (h : Within change inner value value') :
      Within change s (.object (before ++ (some key, .array (items ++ value :: more)) :: behind))
        (.object (before ++ (some key, .array (items ++ value' :: more)) :: behind))

/-- A record is read as before when a `Harmless` change was made anywhere in it, by induction on
where it was made. -/
theorem Within.decode (h : Within Harmless s value value') {record : s.Record}
    (hread : s.decode value = .ok record) : s.decode value' = .ok record := by
  -- Along the way to the change, each value is read as before if the one inside it is.
  -- outwards from the object that was changed: each record around it is read through its own field
  induction h with
  | here h => exact h.decode hread
  | one before behind hkey _ ih =>
    obtain ⟨hmem, hreads⟩ := hkey.readsAs
    refine Schema.isFieldwise _ |>.replace hmem (fun f hf hown a ha => ?_) hread
    exact (hreads f hf hown).replace (fun b => ih) ha
  | many before behind items more hkey _ ih =>
    obtain ⟨hmem, hreads⟩ := hkey.readsAs
    refine Schema.isFieldwise _ |>.replace hmem (fun f hf hown a ha => ?_) hread
    exact (hreads f hf hown).replace (fun b => asList_replace fun c => ih) ha

/-- No record is read once a field was doubled anywhere in it: the record that holds the doubled
field could not be read either. -/
theorem Within.not_decode (h : Within Doubling s value value') (record : s.Record) :
    s.decode value' ≠ .ok record := by
  -- A record in a field would have to be read as well.
  have hfield : ∀ {s : Schema} {key : String} {value : Json} {before behind : List Member}
      {record : s.Record}, key ∈ s.keys →
      s.decode (.object (before ++ (some key, value) :: behind)) = .ok record →
      ∃ f ∈ s.fields, f.key = key ∧ ∃ a, f.decode value = .ok a := by
    intro s key value before behind record hkey hread
    obtain ⟨f, hf, rfl⟩ := List.mem_map.1 hkey
    exact ⟨f, hf, rfl, _, s.isFieldwise.decode_of_mem hf (by simp) hread⟩
  induction h with
  | here h => exact h.not_decode record
  | one before behind hkey _ ih =>
    obtain ⟨hmem, hreads⟩ := hkey.readsAs
    intro hread
    obtain ⟨f, hf, hown, a, ha⟩ := hfield hmem hread
    obtain ⟨b, hb⟩ := (hreads f hf hown).exists_read ha
    exact ih b hb
  | many before behind items more hkey _ ih =>
    obtain ⟨hmem, hreads⟩ := hkey.readsAs
    intro hread
    obtain ⟨f, hf, hown, a, ha⟩ := hfield hmem hread
    obtain ⟨records, hrecords⟩ := (hreads f hf hown).exists_read ha
    obtain ⟨b, hb⟩ := exists_decode_of_asList hrecords
    exact ih b hb

/-- One value is the other after any number of `Harmless` changes, at any depth. -/
def Rewritten (s : Schema) : Json → Json → Prop :=
  Relation.ReflTransGen (Within Harmless s)

/-- A record is read from a rewritten value as before, by `Within.decode` at each of the changes. -/
theorem Rewritten.decode (h : Rewritten s value value') {record : s.Record}
    (hread : s.decode value = .ok record) : s.decode value' = .ok record := by
  induction h with
  | refl => exact hread
  | tail _ hstep ih => exact hstep.decode ih

/-! ### Texts -/

/-- A text that writes the data form of a model, rewritten in any number of places, is read as the
model. A text that writes a rewritten form with the key of a field doubled somewhere in it is not
read. This holds of every text of these values, and in particular of those that `pretty` writes for
them, where they can be written. -/
theorem Tool.ofText_of_rewritten (tool : Tool) {value : Json}
    (h : Rewritten Tool.schema tool.toJson value) :
    (∀ s, Json.ofText? s = some value → Tool.ofText s = .ok tool) ∧
    (Writable value → Tool.ofText value.pretty = .ok tool) ∧
    ∀ doubled, Within Doubling Tool.schema value doubled →
      (∀ s, Json.ofText? s = some doubled → ∃ e, Tool.ofText s = .error e) ∧
      (Writable doubled → ∃ e, Tool.ofText doubled.pretty = .error e) := by
  have hread : ∀ s, Json.ofText? s = some value → Tool.ofText s = .ok tool := by
    intro s hs
    have hvalue : Tool.ofJson value = .ok tool := h.decode (Tool.lawful.decode_encode tool)
    rw [Tool.ofText, hs]
    exact hvalue
  refine ⟨hread, fun hwritable => hread _ (Json.ofText?_pretty hwritable), ?_⟩
  intro doubled hdoubled
  -- A key that is doubled somewhere inside leaves no record that could be read.
  have hrefused : ∀ s, Json.ofText? s = some doubled → ∃ e, Tool.ofText s = .error e := by
    intro s hs
    rw [Tool.ofText, hs]
    cases hresult : Tool.ofJson doubled with
    | error e => exact ⟨e, hresult⟩
    | ok other => exact absurd hresult (hdoubled.not_decode other)
  exact ⟨hrefused, fun hwritable => hrefused _ (Json.ofText?_pretty hwritable)⟩

/-- A tool with a property three records deep, in the settings class of a task. -/
def labelTool : Tool :=
  { name := "Label"
    executable := "label"
    tasks := [{ postfixName := "Add"
                settingsClass := { name := "LabelAddSettings"
                                   properties := [{ name := "Force", type := .bool }] } }] }

/-- What is left of the property of `labelTool` once a default is taken out. -/
def forceMembers : List (String × Json) :=
  [("name", Json.text "Force"), ("type", Json.text "bool"), ("format", Json.text ""),
    ("custom_impl", .bool false), ("custom_value", .bool false)]

/-- The tool written backwards around the members `force` of that property, with two notes that mean
nothing to it: a number out of all bounds, and objects that hold objects. -/
def labelForm (force : List (String × Json)) : Json :=
  Json.record
    [("enumerations", .array []),
      ("tasks", .array
        [Json.record
          [("postfix", Json.text "Add"), ("definite_argument", Json.text ""),
            ("settings_class", Json.record
              [("name", Json.text "LabelAddSettings"), ("base_class", Json.text ""),
                ("properties", .array [Json.record force])]),
            ("flags", Flags.toJson {})]]),
      ("data_classes", .array []),
      ("common_task_properties", .array []),
      ("references", .array []),
      ("license", .array []),
      ("executable", Json.text "label"),
      ("name", Json.text "Label"),
      ("note", Json.record [("note", .array [.null]), ("note", Json.record [])]),
      ("note", .number "1e999")]

/-- The form can be written if the members of the property can, so `pretty` gives its text. -/
theorem writable_labelForm {force : List (String × Json)}
    (h : ∀ member ∈ force, Writable member.2) : Writable (labelForm force) := by
  have hnone : ∀ items : List Json, items = [] → Writable (.array items) := by
    rintro items rfl
    exact .array (by simp)
  have hnote : Writable (Json.record [("note", .array [.null]), ("note", Json.record [])]) :=
    writable_record (List.forall_mem_cons.2 ⟨.array (List.forall_mem_singleton.2 .null),
      List.forall_mem_singleton.2 (writable_record (by simp))⟩)
  have hclass : Writable (Json.record [("name", Json.text "LabelAddSettings"),
      ("base_class", Json.text ""), ("properties", .array [Json.record force])]) := by
    refine writable_record ?_
    simp only [List.forall_mem_cons, List.not_mem_nil, false_imp_iff, implies_true, and_true]
    exact ⟨.text _, .text _, .array (List.forall_mem_singleton.2 (writable_record h))⟩
  refine writable_record ?_
  simp only [List.forall_mem_cons, List.not_mem_nil, false_imp_iff, implies_true, and_true]
  refine ⟨hnone _ rfl, .array (List.forall_mem_singleton.2 (writable_record ?_)), hnone _ rfl,
    hnone _ rfl, hnone _ rfl, hnone _ rfl, .text _, .text _, hnote, .number (by decide)⟩
  simp only [List.forall_mem_cons, List.not_mem_nil, false_imp_iff, implies_true, and_true]
  exact ⟨.text _, .text _, hclass, Flags.lawful.writable {}⟩

/-- A change of the property is a change of the form (`Within`), through the three records around
it. -/
theorem within_labelForm {change : Schema → List Member → List Member → Prop}
    {force force' : List (String × Json)}
    (h : Within change Property.schema (Json.record force) (Json.record force')) :
    Within change Tool.schema (labelForm force) (labelForm force') :=
  .many [_] _ [] [] .tasks
    (.one [_, _] _ .settingsClass (.many [_, _] _ [] [] .settingsProperties h))

/-- The form is the data form after four changes: two notes are put in, all members of the tool are
turned around, and a default is taken out of the property. -/
theorem rewritten_labelForm :
    Rewritten Tool.schema labelTool.toJson (labelForm forceMembers) := by
  -- Two notes are put in, the order is turned around, and a default is left out.
  have hnotes : Rewritten Tool.schema labelTool.toJson
      (labelForm (("name", Json.text "Force") :: ("type", Json.text "bool") ::
        ("nullable", .bool false) :: forceMembers.drop 2)) := by
    refine .head (.here (.insert [] _ "note" (Json.record [("note", .array [.null]),
      ("note", Json.record [])]) (by decide))) ?_
    refine .head (.here (.insert [] _ "note" (.number "1e999") (by decide))) ?_
    exact .single (.here (.reorder (List.reverse_perm _).symm))
  refine .tail hnotes (within_labelForm (.here (.remove [_, _] _ (by decide) ?_)))
  simp [Schema.defaults, Property.schema, Property.toJson, Json.record]

/-- The changed form of `labelTool` is read as the tool, and no more once the property has two
names. -/
theorem ofText_of_rewritten_label :
    Rewritten Tool.schema labelTool.toJson (labelForm forceMembers) ∧
    Tool.ofText (labelForm forceMembers).pretty = .ok labelTool ∧
    ∃ e, Tool.ofText (labelForm (("name", .null) :: forceMembers)).pretty = .error e := by
  have hforce : ∀ member ∈ forceMembers, Writable member.2 := by
    simp only [forceMembers, List.forall_mem_cons, List.not_mem_nil, false_imp_iff, implies_true,
      and_true]
    exact ⟨.text _, .text _, .text _, .bool _, .bool _⟩
  obtain ⟨-, hread, hrefused⟩ := labelTool.ofText_of_rewritten rewritten_labelForm
  -- The name stands twice in a property of the settings class of the only task.
  have hdoubled : Within Doubling Tool.schema (labelForm forceMembers)
      (labelForm (("name", .null) :: forceMembers)) :=
    within_labelForm (.here (.double [] _ (Json.text "Force") .null (by decide) List.mem_cons_self))
  exact ⟨rewritten_labelForm, hread (writable_labelForm hforce),
    (hrefused _ hdoubled).2 (writable_labelForm (List.forall_mem_cons.2 ⟨.null, hforce⟩))⟩

end WrapperModel.Model
