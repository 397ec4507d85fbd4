import WrapperModel.Json.Basic
import WrapperModel.Json.Token

/-!
# `WrapperModel.Json.Reader`: from lexemes to a value

The reader goes through the lexemes once and keeps the open arrays and objects on a
stack, so values may be nested to any depth. `step` is one lexeme; a text is a value when
its last lexeme completes a value outside all brackets.
-/

set_option autoImplicit false

namespace WrapperModel.Json

/-- An open array or object. Its items are written backwards, and an object waits for the value of
its key. -/
inductive Frame where
  | array (items : List Json)
  | object (members : List (Option String × Json)) (key : Option String)

/-- What the reader waits for, inside the open frames, the innermost first. -/
inductive State where
  /-- A value. -/
  | value (stack : List Frame)
  /-- The first item of an array, or its end. -/
  | firstItem (stack : List Frame)
  /-- The first key of an object, or its end. -/
  | firstKey (stack : List Frame)
  /-- A further key of an object. -/
  | key (members : List (Option String × Json)) (stack : List Frame)
  /-- The colon behind a key. -/
  | colon (members : List (Option String × Json)) (key : Option String) (stack : List Frame)
  /-- A comma or an end behind a complete value. -/
  | after (done : Json) (stack : List Frame)

/-- A lexeme with which a value begins: the value itself, or the bracket that opens it. `step?` asks
for it wherever a value may stand. -/
def begin? (stack : List Frame) : Token → Option State
  | .null => some (.after .null stack)
  | .bool value => some (.after (.bool value) stack)
  | .number written => some (.after (.number written) stack)
  | .string text => some (.after (.string text) stack)
  | .beginArray => some (.firstItem stack)
  | .beginObject => some (.firstKey stack)
  | _ => none

/-- One lexeme. There is no next state where the lexeme cannot stand, and from then on no value is
read. -/
def step? : State → Token → Option State
  | .value stack, token => begin? stack token
  | .firstItem stack, .endArray => some (.after (.array []) stack)
  | .firstItem stack, token => begin? (.array [] :: stack) token
  | .firstKey stack, .endObject => some (.after (.object []) stack)
  | .firstKey stack, .string key => some (.colon [] key stack)
  | .key members stack, .string key => some (.colon members key stack)
  | .colon members key stack, .colon => some (.value (.object members key :: stack))
  | .after done (.array items :: stack), .comma => some (.value (.array (done :: items) :: stack))
  | .after done (.array items :: stack), .endArray =>
    some (.after (.array (done :: items).reverse) stack)
  | .after done (.object members key :: stack), .comma =>
    some (.key ((key, done) :: members) stack)
  | .after done (.object members key :: stack), .endObject =>
    some (.after (.object ((key, done) :: members).reverse) stack)
  | _, _ => none

/-- The value of the lexemes. The last of them has to complete a value outside all brackets, and
none may follow. -/
def ofTokens? (tokens : List Token) : Option Json :=
  match tokens.foldlM step? (.value []) with
  | some (.after done []) => some done
  | _ => none

/-- The value that a text writes. No key is looked at here: a key may come twice in an object, which
only records refuse. -/
def ofText? (s : String) : Option Json :=
  (tokens? s.toList).bind ofTokens?

end WrapperModel.Json
