import WrapperModel.Json.Basic
import WrapperModel.Json.Quoted

/-!
# `WrapperModel.Json.Printer`: values as text

`pretty` writes every item of an array and every member of an object on a line of its
own, two spaces deeper than the brackets around it. Empty arrays and objects are closed
at once, and no line feed ends the text.
-/

set_option autoImplicit false

namespace WrapperModel.Json

/-- A line feed and the spaces of a depth, two for each level. `advances_newLine` says that a reader
passes it. -/
def newLine (depth : Nat) : List Char :=
  '\n' :: List.replicate (2 * depth) ' '

/-- A string between quotes. One that denotes no text is written as the empty text; values that are
made from a model have none such (`Writable`). -/
def quoteText (s : Option String) : List Char :=
  quote (s.getD "").toList

mutual

/-- A value that begins at the given depth. The depth is that of the line on which it begins: what
stands inside its brackets is one level deeper. -/
def prettyChars (depth : Nat) : Json → List Char
  | .null => "null".toList
  | .bool true => "true".toList
  | .bool false => "false".toList
  | .number written => written.toList
  | .string text => quoteText text
  | .array [] => ['[', ']']
  | .array (item :: items) =>
    '[' :: newLine (depth + 1) ++ prettyChars (depth + 1) item ++
      prettyItems (depth + 1) items ++ newLine depth ++ [']']
  | .object [] => ['\x7b', '\x7d']
  | .object (member :: members) =>
    '\x7b' :: newLine (depth + 1) ++ prettyMember (depth + 1) member ++
      prettyMembers (depth + 1) members ++ newLine depth ++ ['\x7d']

/-- The further items of an array, each behind a comma on a line of its own. The first item has no
comma in front. -/
def prettyItems (depth : Nat) : List Json → List Char
  | [] => []
  | item :: items =>
    ',' :: newLine depth ++ prettyChars depth item ++ prettyItems depth items

/-- A member of an object: the key, a colon with a space behind it, the value. A key that denotes no
text cannot be written, and no record has one. -/
def prettyMember (depth : Nat) : Option String × Json → List Char
  | (key, value) => quoteText key ++ [':', ' '] ++ prettyChars depth value

/-- The further members of an object, each behind a comma on a line of its own. The first member has
no comma in front. -/
def prettyMembers (depth : Nat) : List (Option String × Json) → List Char
  | [] => []
  | member :: members =>
    ',' :: newLine depth ++ prettyMember depth member ++ prettyMembers depth members

end

/-- The text of a value, one item or member to a line. `ofText?_pretty` reads it back. -/
def pretty (value : Json) : String :=
  String.ofList (prettyChars 0 value)

end WrapperModel.Json
