import WrapperModel.Definition.Basic
import WrapperModel.Model.Json

/-!
# `WrapperModel.Definition.Json`: the data form of definitions

The flags of a command or an option stand beside its other keys in the same object, so
these records are read from objects alone. Where a command was documented is no part of
its data form: `CommandDefinition.ofJson` leaves the reference empty.
-/

set_option autoImplicit false

namespace WrapperModel.Definition

open WrapperModel.Model (Flags)
open WrapperModel.Json (DecodeError Fields asText asOptional asList fieldsOfObject textOrNull)

/-- The keys of an option beside those of its flags. None of them is among `Flags.keys`, so one
object can hold both. -/
def OptionDefinition.keys : List String :=
  ["option", "shorthand", "value_type", "default_value", "description"]

/-- An option as a value. Its flags stand among its other members, and a text that is missing is
`null`. No member is left out but the last flag. -/
def OptionDefinition.toJson (o : OptionDefinition) : Json :=
  Json.record <|
    [("option", Json.text o.name),
      ("shorthand", textOrNull o.shorthand),
      ("value_type", textOrNull o.valueType),
      ("default_value", textOrNull o.defaultValue),
      ("description", textOrNull o.description)] ++
    o.flags.members

/-- The option that a value gives. A key that is missing gives the default of its field, and other
keys are passed over. -/
def OptionDefinition.ofJson (value : Json) : Except DecodeError OptionDefinition := do
  let fields ← fieldsOfObject (OptionDefinition.keys ++ Flags.keys) value
  return {
    name := ← fields.read "option" asText ""
    shorthand := ← fields.read "shorthand" (asOptional asText) none
    valueType := ← fields.read "value_type" (asOptional asText) none
    defaultValue := ← fields.read "default_value" (asOptional asText) none
    description := ← fields.read "description" (asOptional asText) none
    flags := ← Flags.ofFields fields }

/-- The keys of a command beside those of its flags. None of them is among `Flags.keys`. -/
def CommandDefinition.keys : List String :=
  ["command", "aliases", "short", "long", "usage", "pname", "plink", "examples", "options",
    "inherited_options", "cname", "clink"]

/-- The members of the data form of a command, in their order. The flags come last, behind the
members under `CommandDefinition.keys`. -/
def CommandDefinition.members (d : CommandDefinition) : List (String × Json) :=
  [("command", Json.text d.command),
    ("aliases", textOrNull d.aliases),
    ("short", textOrNull d.short),
    ("long", textOrNull d.long),
    ("usage", Json.text d.usage),
    ("pname", textOrNull d.parentName),
    ("plink", textOrNull d.parentLink),
    ("examples", textOrNull d.examples),
    ("options", .array (d.options.map OptionDefinition.toJson)),
    ("inherited_options", .array (d.inheritedOptions.map OptionDefinition.toJson)),
    ("cname", Json.texts d.childNames),
    ("clink", Json.texts d.childLinks)] ++
  d.flags.members

/-- A command as a value. The place where it was documented is left out. -/
def CommandDefinition.toJson (d : CommandDefinition) : Json :=
  Json.record d.members

/-- The command that a value gives, documented nowhere: its reference is empty, which
`withReference` fills. -/
def CommandDefinition.ofJson (value : Json) : Except DecodeError CommandDefinition := do
  let fields ← fieldsOfObject (CommandDefinition.keys ++ Flags.keys) value
  return {
    command := ← fields.read "command" asText ""
    aliases := ← fields.read "aliases" (asOptional asText) none
    short := ← fields.read "short" (asOptional asText) none
    long := ← fields.read "long" (asOptional asText) none
    usage := ← fields.read "usage" asText ""
    parentName := ← fields.read "pname" (asOptional asText) none
    parentLink := ← fields.read "plink" (asOptional asText) none
    examples := ← fields.read "examples" (asOptional asText) none
    options := ← fields.read "options" (asList OptionDefinition.ofJson) []
    inheritedOptions := ← fields.read "inherited_options" (asList OptionDefinition.ofJson) []
    childNames := ← fields.read "cname" (asList asText) []
    childLinks := ← fields.read "clink" (asList asText) []
    flags := ← Flags.ofFields fields }

end WrapperModel.Definition
