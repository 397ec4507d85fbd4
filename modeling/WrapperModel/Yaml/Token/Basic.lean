import WrapperModel.Yaml.Character
import WrapperModel.Yaml.Error
import WrapperModel.Yaml.Tag

/-!
# `WrapperModel.Yaml.Token.Basic`: lexemes and places in a document

The lexer works on text whose line breaks are unified: `unifyBreaks` leaves line feeds
and the two separators as the only breaks. A `Cursor` is the text that is left with the
line and the column at which it begins.
-/

set_option autoImplicit false

namespace WrapperModel.Yaml

/-- A lexeme. The starts and ends of block collections come from the indentation, and a key is
marked where its colon is found. There is no lexeme for the end of the text: the list ends there. -/
inductive Token where
  | versionDirective (major minor : Nat)
  | tagDirective (handle : List Char) (start : Tag)
  | documentStart
  | documentEnd
  | blockSequenceStart
  | blockMappingStart
  | blockEnd
  | flowSequenceStart
  | flowSequenceEnd
  | flowMappingStart
  | flowMappingEnd
  | blockEntry
  | flowEntry
  | key
  | value
  /-- A reference to the node of that name. -/
  | copyOf (name : List Char)
  /-- A name for the node that follows. -/
  | anchor (name : List Char)
  /-- The tag of the node that follows: its handle and what stands behind it. -/
  | tag (handle : List Char) (suffix : Tag)
  /-- A scalar, with or without quotes or block marks. -/
  | scalar (plain : Bool) (text : List Char)
  deriving Repr, DecidableEq

/-- The text with a line feed for every carriage return, for every pair of a carriage return and a
line feed, and for every next-line control. The text behind `done` is processed, which is written
backwards. -/
def unifyBreaksFrom (done : List Char) : List Char → List Char
  | '\r' :: '\n' :: rest => unifyBreaksFrom ('\n' :: done) rest
  | c :: rest =>
    unifyBreaksFrom ((if c = '\r' || c = nextLine then '\n' else c) :: done) rest
  | [] => done.reverse

/-- The text with unified line breaks, as `unifyBreaksFrom` gives it. It is done once for the whole
text, so that no later definition has to look for pairs. -/
def unifyBreaks (cs : List Char) : List Char :=
  unifyBreaksFrom [] cs

/-- Text that is left, and where it begins. The column counts characters, as the indentation
does. -/
structure Cursor where
  chars : List Char
  line : Nat
  column : Nat
  deriving Repr, DecidableEq

namespace Cursor

/-- The beginning of a text, in the first column of the first line. -/
def start (cs : List Char) : Cursor :=
  ⟨cs, 0, 0⟩

/-- The cursor behind that many characters of its line. It is used only where none of them is a
break, so the line stays; a break is passed with `Cursor.nextLine`. -/
def advance (cursor : Cursor) (count : Nat) : Cursor :=
  ⟨cursor.chars.drop count, cursor.line, cursor.column + count⟩

/-- The cursor behind the characters in front that satisfy the test, none of which is a break. -/
def skipWhile (p : Char → Bool) (cursor : Cursor) : Cursor :=
  cursor.advance (cursor.chars.takeWhile p).length

/-- The cursor at the end of the line, in front of the break. Comments are passed like this, in
`Lexer.skipBlanks` and behind directives and the marks of blocks. -/
def skipLine (cursor : Cursor) : Cursor :=
  cursor.skipWhile fun c => !isBreak c

/-- The cursor behind the break with which it begins, in the first column. -/
def nextLine (cursor : Cursor) : Cursor :=
  ⟨cursor.chars.drop 1, cursor.line + 1, 0⟩

/-- A break or the end of the text comes next. -/
def atLineEnd (cursor : Cursor) : Bool :=
  match cursor.chars with
  | [] => true
  | c :: _ => isBreak c

end Cursor

/-- A mark of a document's beginning or end stands at the beginning of a line. It has three equal
characters, with a blank behind them (`beginsBlank`): more than three dashes are no mark. -/
def atMarker (mark : Char) (column : Nat) : List Char → Bool
  | a :: b :: c :: rest => column = 0 && a = mark && b = mark && c = mark && beginsBlank rest
  | _ => false

/-- One of the two marks stands at the beginning of a line. A plain scalar ends there (`plainFrom`),
and a quoted one is refused. -/
def atDocumentMarker (column : Nat) (cs : List Char) : Bool :=
  atMarker '-' column cs || atMarker '.' column cs

end WrapperModel.Yaml
