import WrapperModel.Definition.Json
import WrapperModel.Proofs.Json.Members
import WrapperModel.Proofs.Model.RoundTrip

/-!
# `WrapperModel.Proofs.Definition.RoundTrip`: definitions read back from their data form

The flags of a command stand in its object beside its other members, and so do those of each of
its options. A record and its flags look at different keys of the object that both are read from
(`BesideFlags.ofFields_append_members`), and the options of a command are under a key that is none
of the keys of flags. So each record gets its own flags back, whatever the others are.

* `Inlines`: an object holds these flags, and the version only if it is set.
* `OptionDefinition.lawful`: options can be written and are read back.
* `CommandDefinition.round_trip`: so are commands, but for the place where they were documented.
-/

set_option autoImplicit false

namespace WrapperModel.Definition

open WrapperModel.Model (Flags)
open WrapperModel.Json (Lawful fieldsOfObject fieldsOfObject_record fieldsOfObject_of_subset
  lookup_filter_of_mem optionalMember read_textOrNull textOrNull writable_record
  writable_textOrNull)

/-! ### Flags among other members -/

/-- The object holds the flags beside its other members: read as flags it gives them, and the
version stands in it exactly if it is set. So an unset version leaves no `null` behind. -/
structure Inlines (object : Json) (flags : Flags) : Prop where
  read : Flags.ofJson object = .ok flags
  version : fieldsOfObject ["min_api_version"] object =
    .ok (optionalMember "min_api_version" (flags.minApiVersion.map Json.text))

/-- The members of a record beside its flags, under these keys, none of which is the key of a flag.
All that is proved of records with flags among their members follows from this. -/
structure BesideFlags (keys : List String) (own : List (String × Json)) : Prop where
  map_fst_eq : own.map Prod.fst = keys
  nodup : (keys ++ Flags.keys).Nodup

namespace BesideFlags

variable {keys : List String} {own : List (String × Json)}

/-- A record that writes flags behind its own members is read with all of them as its fields. This
needs that no key occurs twice. -/
theorem fieldsOfObject_append_members (h : BesideFlags keys own) (flags : Flags) :
    fieldsOfObject (keys ++ Flags.keys) (Json.record (own ++ flags.members)) =
      .ok (own ++ flags.members) := by
  refine fieldsOfObject_record h.nodup ?_
  rw [List.map_append, h.map_fst_eq]
  exact (List.Sublist.refl keys).append flags.map_fst_members_sublist

/-- The key of a flag is none of the keys of the other members (`BesideFlags`), so looking up a flag
passes them all. -/
theorem ne_fst (h : BesideFlags keys own) {key : String} (hkey : key ∈ Flags.keys) :
    ∀ member ∈ own, key ≠ member.1 := by
  intro member hmem
  have hown : member.1 ∈ keys := h.map_fst_eq ▸ List.mem_map.2 ⟨member, hmem, rfl⟩
  exact ((List.nodup_append.1 h.nodup).2.2 member.1 hown key hkey).symm

/-- Beside the other members, `Flags.ofFields` reads the flags as they were written, since it looks
at their keys alone. -/
theorem ofFields_append_members (h : BesideFlags keys own) (flags : Flags) :
    Flags.ofFields (own ++ flags.members) = .ok flags := by
  -- A key of the flags is none of the members in front, so the search goes on to the flags.
  have hlookup : ∀ key ∈ Flags.keys,
      (own ++ flags.members).lookup key = flags.members.lookup key := by
    intro key hkey
    have hnone : own.lookup key = none := List.lookup_eq_none_iff.2 fun member hmem =>
      bne_iff_ne.2 (h.ne_fst hkey member hmem)
    rw [List.lookup_append, hnone, Option.none_or]
  rw [Flags.ofFields_congr hlookup]
  exact flags.ofFields_members

/-- A record that writes flags behind its own members holds them in the sense of `Inlines`: each
flag under its key, or not at all. -/
theorem inlines (h : BesideFlags keys own) (flags : Flags) :
    Inlines (Json.record (own ++ flags.members)) flags where
  read := by
    -- The keys in question are those of the flags, among all that a record may have.
    have hfields : Json.fieldsOfRecord Flags.keys (Json.record (own ++ flags.members)) = _ :=
      fieldsOfObject_of_subset (List.subset_append_right keys Flags.keys)
        (h.fieldsOfObject_append_members flags)
    rw [Flags.ofJson, hfields]
    show Flags.ofFields _ = _
    rw [Flags.ofFields_congr fun key hkey => lookup_filter_of_mem hkey _]
    exact h.ofFields_append_members flags
  version := by
    have hversion : "min_api_version" ∈ Flags.keys := by decide
    have hsub : ["min_api_version"] ⊆ keys ++ Flags.keys :=
      List.cons_subset.2 ⟨List.mem_append_right keys hversion, List.nil_subset _⟩
    -- Of the flags the version alone has this key, and none of the other members has it.
    have hown : own.filter (fun field => field.1 ∈ ["min_api_version"]) = [] := by
      rw [List.filter_eq_nil_iff]
      intro member hmem
      simpa using (h.ne_fst hversion member hmem).symm
    rw [fieldsOfObject_of_subset hsub (h.fieldsOfObject_append_members flags),
      List.filter_append, hown, List.nil_append]
    cases hset : flags.minApiVersion <;> simp [Flags.members, hset, optionalMember]

end BesideFlags

/-! ### Options -/

/-- The members of an option beside its flags, under `OptionDefinition.keys` and in that order. -/
def OptionDefinition.ownMembers (o : OptionDefinition) : List (String × Json) :=
  [("option", Json.text o.name),
    ("shorthand", textOrNull o.shorthand),
    ("value_type", textOrNull o.valueType),
    ("default_value", textOrNull o.defaultValue),
    ("description", textOrNull o.description)]

/-- The keys of an option and of its flags are distinct (`BesideFlags`), so their members can stand
in one object. -/
theorem OptionDefinition.besideFlags (o : OptionDefinition) :
    BesideFlags OptionDefinition.keys o.ownMembers :=
  ⟨rfl, by decide⟩

/-- The fields of an option are found as `OptionDefinition.toJson` writes them, and its flags are
read from the same fields. -/
theorem OptionDefinition.fields_toJson (o : OptionDefinition) :
    ∃ fields, fieldsOfObject (OptionDefinition.keys ++ Flags.keys) o.toJson = .ok fields ∧
      fields.lookup "option" = some (Json.text o.name) ∧
      fields.lookup "shorthand" = some (textOrNull o.shorthand) ∧
      fields.lookup "value_type" = some (textOrNull o.valueType) ∧
      fields.lookup "default_value" = some (textOrNull o.defaultValue) ∧
      fields.lookup "description" = some (textOrNull o.description) ∧
      Flags.ofFields fields = .ok o.flags :=
  ⟨o.ownMembers ++ o.flags.members, o.besideFlags.fieldsOfObject_append_members o.flags,
    rfl, rfl, rfl, rfl, rfl, o.besideFlags.ofFields_append_members o.flags⟩

/-- Options are `Lawful`: they can be written, are never `null`, and are read back as they were. The
lists of options of a command follow from this. -/
theorem OptionDefinition.lawful : Lawful OptionDefinition.toJson OptionDefinition.ofJson where
  writable o := by
    refine writable_record ?_
    simp only [List.forall_mem_append, List.forall_mem_cons, List.not_mem_nil, false_imp_iff,
      implies_true, and_true]
    exact ⟨⟨.text _, writable_textOrNull _, writable_textOrNull _, writable_textOrNull _,
      writable_textOrNull _⟩, o.flags.writable_members⟩
  ne_null o := by
    simp [OptionDefinition.toJson, Json.record]
  decode_encode o := by
    obtain ⟨fields, hfields, hname, hshorthand, htype, hdefault, hdescription, hflags⟩ :=
      o.fields_toJson
    rw [OptionDefinition.ofJson, hfields]
    simp only [bind, Except.bind, pure, Except.pure, Lawful.text.read hname,
      read_textOrNull hshorthand, read_textOrNull htype, read_textOrNull hdefault,
      read_textOrNull hdescription, hflags]

/-! ### Commands -/

/-- The members of a command beside its flags, under `CommandDefinition.keys` and in that order. -/
def CommandDefinition.ownMembers (d : CommandDefinition) : List (String × Json) :=
  [("command", Json.text d.command),
    ("aliases", textOrNull d.aliases),
    ("short", textOrNull d.short),
    ("long", textOrNull d.long),
    ("usage", Json.text d.usage),
    ("pname", textOrNull d.parentName),
    ("plink", textOrNull d.parentLink),
    ("examples", textOrNull d.examples),
    ("options", .array (d.options.map OptionDefinition.toJson)),
    ("inherited_options", .array (d.inheritedOptions.map OptionDefinition.toJson)),
    ("cname", Json.texts d.childNames),
    ("clink", Json.texts d.childLinks)]

/-- The keys of a command and of its flags are distinct (`BesideFlags`), so their members can stand
in one object. -/
theorem CommandDefinition.besideFlags (d : CommandDefinition) :
    BesideFlags CommandDefinition.keys d.ownMembers :=
  ⟨rfl, by decide⟩

/-- The fields of a command are found as `CommandDefinition.toJson` writes them, and its flags are
read from the same fields. -/
theorem CommandDefinition.fields_toJson (d : CommandDefinition) :
    ∃ fields, fieldsOfObject (CommandDefinition.keys ++ Flags.keys) d.toJson = .ok fields ∧
      fields.lookup "command" = some (Json.text d.command) ∧
      fields.lookup "aliases" = some (textOrNull d.aliases) ∧
      fields.lookup "short" = some (textOrNull d.short) ∧
      fields.lookup "long" = some (textOrNull d.long) ∧
      fields.lookup "usage" = some (Json.text d.usage) ∧
      fields.lookup "pname" = some (textOrNull d.parentName) ∧
      fields.lookup "plink" = some (textOrNull d.parentLink) ∧
      fields.lookup "examples" = some (textOrNull d.examples) ∧
      fields.lookup "options" = some (.array (d.options.map OptionDefinition.toJson)) ∧
      fields.lookup "inherited_options" =
        some (.array (d.inheritedOptions.map OptionDefinition.toJson)) ∧
      fields.lookup "cname" = some (Json.texts d.childNames) ∧
      fields.lookup "clink" = some (Json.texts d.childLinks) ∧
      Flags.ofFields fields = .ok d.flags :=
  ⟨d.ownMembers ++ d.flags.members, d.besideFlags.fieldsOfObject_append_members d.flags,
    rfl, rfl, rfl, rfl, rfl, rfl, rfl, rfl, rfl, rfl, rfl, rfl,
    d.besideFlags.ofFields_append_members d.flags⟩

/-- A command can be written (`Json.Writable`): no two members of its object or of the objects in it
have one key. -/
theorem CommandDefinition.writable_toJson (d : CommandDefinition) : Json.Writable d.toJson := by
  refine writable_record ?_
  simp only [CommandDefinition.members, List.forall_mem_append, List.forall_mem_cons,
    List.not_mem_nil, false_imp_iff, implies_true, and_true]
  exact ⟨⟨.text _, writable_textOrNull _, writable_textOrNull _, writable_textOrNull _, .text _,
    writable_textOrNull _, writable_textOrNull _, writable_textOrNull _,
    OptionDefinition.lawful.list.writable _, OptionDefinition.lawful.list.writable _,
    Lawful.text.list.writable _, Lawful.text.list.writable _⟩, d.flags.writable_members⟩

/-- `CommandDefinition.ofJson` reads a command from what `CommandDefinition.toJson` writes, but for
the place where it was documented, which is not written. -/
theorem CommandDefinition.ofJson_toJson (d : CommandDefinition) :
    CommandDefinition.ofJson d.toJson = .ok (d.withReference "") := by
  obtain ⟨fields, hfields, hcommand, haliases, hshort, hlong, husage, hparent, hparentLink,
    hexamples, hoptions, hinherited, hchildren, hchildLinks, hflags⟩ := d.fields_toJson
  rw [CommandDefinition.ofJson, hfields]
  -- Each field is read from the member that was written for it.
  simp only [bind, Except.bind, pure, Except.pure, Lawful.text.read hcommand,
    read_textOrNull haliases, read_textOrNull hshort, read_textOrNull hlong,
    Lawful.text.read husage, read_textOrNull hparent, read_textOrNull hparentLink,
    read_textOrNull hexamples, OptionDefinition.lawful.list.read hoptions,
    OptionDefinition.lawful.list.read hinherited, Lawful.text.list.read hchildren,
    Lawful.text.list.read hchildLinks, hflags]
  rfl

/-- Commands survive being written and read. The text of a command is read as its data form
`toJson`, and `CommandDefinition.ofJson` gives the command again, but for the place where it was
documented, which the data form does not hold. The object of the command holds the flags of the
command beside its other members (`Inlines`), and the object of each option those of the option. -/
theorem CommandDefinition.round_trip (d : CommandDefinition) :
    Json.ofText? d.toJson.pretty = some d.toJson ∧
      CommandDefinition.ofJson d.toJson = .ok (d.withReference "") ∧
      Inlines d.toJson d.flags ∧
      ∀ o ∈ d.options ++ d.inheritedOptions,
        OptionDefinition.ofJson o.toJson = .ok o ∧ Inlines o.toJson o.flags := by
  refine ⟨Json.ofText?_pretty d.writable_toJson, d.ofJson_toJson, d.besideFlags.inlines d.flags, ?_⟩
  intro o _
  exact ⟨OptionDefinition.lawful.decode_encode o, o.besideFlags.inlines o.flags⟩

end WrapperModel.Definition
