import WrapperModel.Model.Basic
import WrapperModel.Text.Blank

/-!
# `WrapperModel.ValueType`: what the tag of an option says about its values

An option names the kind of its values by a tag. `classify` reads the tag, and
`mapping` is the table from tags to property types. The table gives up what the model
cannot express: ports, durations, mounts and unknown tags all become strings.
-/

set_option autoImplicit false

namespace WrapperModel

open WrapperModel.Text WrapperModel.Model

/-- The kinds of values that tags name. Some of them have the same property type in the end; they
are kept apart because a tag is one thing and its type another. -/
inductive ValueType where
  | string
  | bool
  | int
  | float
  | decimal
  | int64
  | bytes
  | list
  | stringSlice
  | map
  | uint16
  | uint64
  | uint
  /-- A tag that stands for no kind of its own. -/
  | other (tag : String)
  deriving Repr, DecidableEq

/-- How an option becomes a property: its type, whether a value may be absent, and the form of an
item. -/
structure TypeMapping where
  type : PropertyType
  nullable : Bool := false
  itemFormat : Option String := none
  deriving Repr, DecidableEq

namespace ValueType

/-- The form of an item of an option that takes pairs. It differs from that of a placeholder, which
has an equals sign. -/
def mapItemFormat : String := "\x7bkey\x7d:\x7bvalue\x7d"

/-- The kind that a tag names. White space around the tag is passed over, and capitals matter; the
tag of an unknown kind is kept without that white space. -/
def classify (tag : String) : ValueType :=
  match trim tag with
  | "string" => .string
  | "bool" => .bool
  | "int" => .int
  | "float" => .float
  | "decimal" => .decimal
  | "int64" => .int64
  | "bytes" => .bytes
  | "list" => .list
  | "stringSlice" => .stringSlice
  | "map" => .map
  | "uint16" => .uint16
  | "uint64" => .uint64
  | "uint" => .uint
  | tag => .other tag

/-- The property type of a kind. Signed numbers and truth values may be absent, unsigned numbers may
not, and unknown kinds are texts. -/
def mapping : ValueType → TypeMapping
  | .string | .other _ => { type := .string }
  | .bool => { type := .bool, nullable := true }
  | .int => { type := .int, nullable := true }
  | .float => { type := .float, nullable := true }
  | .decimal => { type := .decimal, nullable := true }
  | .int64 | .bytes => { type := .long, nullable := true }
  | .list | .stringSlice => { type := .stringList }
  | .map => { type := .stringMap, itemFormat := some mapItemFormat }
  | .uint16 | .uint64 | .uint => { type := .int }

end ValueType

end WrapperModel
