/-!
# `WrapperModel.Json.Basic`: the values of the data format

A string of the format may write half of a character by an escape. Such a string denotes
no text, yet it is well-formed, and readers pass over it in parts that they do not use.
So the text of a string or of a key is optional here: `none` is a string that denotes no
text. A number keeps its written form.
-/

set_option autoImplicit false

namespace WrapperModel

/-- A value of the data format. A number is its written form, so numbers that no machine can hold
are values as well, and a string may denote no text. -/
inductive Json where
  | null
  | bool (value : Bool)
  | number (written : String)
  | string (text : Option String)
  | array (items : List Json)
  | object (members : List (Option String × Json))
  deriving Repr, Inhabited

namespace Json

/-- The string of a text. Every string that is written comes from here. -/
def text (s : String) : Json :=
  .string (some s)

/-- An object with the given keys, in their order. `fieldsOfMembers` reads it back whatever the
order. -/
def record (members : List (String × Json)) : Json :=
  .object (members.map fun member => (some member.1, member.2))

/-- An array of texts, each of them by `Json.text`. -/
def texts (items : List String) : Json :=
  .array (items.map text)

end Json

end WrapperModel
