import WrapperModel.Json.Basic

/-!
# `WrapperModel.Json.Record`: records as values

A record is read from an object by its keys, whatever their order. A key that is missing
leaves its field at the default, a key that is no field is passed over with its value,
and a field's key that comes twice is refused. A record may also be written as an array
of its fields in their order, where fields at the end can be missing.

`fieldsOfObject` and `fieldsOfRecord` give the fields that are there; `Fields.read` reads
one of them.
-/

set_option autoImplicit false

namespace WrapperModel.Json

/-- Why a value is not of the wanted kind. The first reason ends the reading. -/
inductive DecodeError where
  /-- The text writes no value. -/
  | malformed
  /-- A value of another kind was wanted. -/
  | wanted (kind : String)
  /-- The key of a field comes twice. -/
  | repeatedKey (key : String)
  /-- A record has more items than fields. -/
  | tooManyItems
  /-- A choice has no such case. -/
  | unknownCase (name : String)
  deriving Repr, DecidableEq

/-- The reason in words, which name the kind or the key and no place in the text. -/
def DecodeError.message : DecodeError → String
  | .malformed => "the text is not well-formed"
  | .wanted kind => "expected " ++ kind
  | .repeatedKey key => "duplicate field " ++ key
  | .tooManyItems => "too many items in a record"
  | .unknownCase name => "unknown variant " ++ name

/-! ### Single values -/

/-- A text. A string that denotes none is refused here, though `ofText?` reads it. -/
def asText : Json → Except DecodeError String
  | .string (some s) => .ok s
  | _ => .error (.wanted "a string")

/-- A truth value. Neither a number nor a word is one, and neither is a text such as `"true"`. -/
def asBool : Json → Except DecodeError Bool
  | .bool value => .ok value
  | _ => .error (.wanted "a boolean")

/-- A text of exactly one character, as `asText` reads it. -/
def asChar : Json → Except DecodeError Char
  | .string (some s) =>
    match s.toList with
    | [c] => .ok c
    | _ => .error (.wanted "a character")
  | _ => .error (.wanted "a character")

/-- Nothing for `null`, else a value of the given kind by `decode`. -/
def asOptional {α : Type} (decode : Json → Except DecodeError α) :
    Json → Except DecodeError (Option α)
  | .null => .ok none
  | value => (decode value).map some

/-- An array of values of the given kind. The first item that is none ends the reading, with its
reason. -/
def asList {α : Type} (decode : Json → Except DecodeError α) :
    Json → Except DecodeError (List α)
  | .array items => items.mapM decode
  | _ => .error (.wanted "a sequence")

/-! ### Records -/

/-- The fields that a value gives, by key, in the order in which they stand. `Fields.read` takes one
of them. -/
abbrev Fields := List (String × Json)

/-- The members whose keys are fields. A key that denotes no text is refused, and so is a field's
key that comes again; a key that is no field may come as often as it likes. -/
def fieldsOfMembers (keys : List String) :
    List (Option String × Json) → Except DecodeError Fields
  | [] => .ok []
  | (none, _) :: _ => .error (.wanted "a string")
  | (some key, value) :: rest =>
    if keys.contains key then
      match fieldsOfMembers keys rest with
      | .ok fields =>
        if fields.any (fun field => field.1 = key) then .error (.repeatedKey key)
        else .ok ((key, value) :: fields)
      | .error e => .error e
    else fieldsOfMembers keys rest

/-- The fields of a record that is written as an object and in no other way, since its fields share
the object with those of another record. -/
def fieldsOfObject (keys : List String) : Json → Except DecodeError Fields
  | .object members => fieldsOfMembers keys members
  | _ => .error (.wanted "a map")

/-- The fields of a record that is written as an object or as an array. The items of an array belong
to the keys in their order, and fields at the end may be missing. -/
def fieldsOfRecord (keys : List String) : Json → Except DecodeError Fields
  | .array items =>
    if items.length ≤ keys.length then .ok (keys.zip items) else .error .tooManyItems
  | value => fieldsOfObject keys value

/-- One field, or the default where it is not given. A field that is given has to be readable, even
if it is the default. -/
def Fields.read {α : Type} (fields : Fields) (key : String)
    (decode : Json → Except DecodeError α) (default : α) : Except DecodeError α :=
  match fields.lookup key with
  | some value => decode value
  | none => .ok default

/-! ### Writing -/

/-- A member that is left out where there is no value. `textOrNull` is the other way, in which the
member stays. -/
def optionalMember (key : String) (value : Option Json) : List (String × Json) :=
  match value with
  | some value => [(key, value)]
  | none => []

/-- A text, or `null` where there is none. Definitions write their absent texts this way, models
leave them out by `optionalMember`. -/
def textOrNull : Option String → Json
  | some s => text s
  | none => null

end WrapperModel.Json
