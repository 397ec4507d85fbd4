import WrapperModel.Yaml.Token.Name
import WrapperModel.Yaml.Token.Scalar

/-!
# `WrapperModel.Yaml.Token.Lexer`: from text to lexemes

Outside of brackets the indentation opens and closes collections. A mapping key is known
as one only when its colon is found, so whatever could be a key is remembered with the
number of lexemes in front of it, and `Lexer.markKey` puts the mark there afterwards. Such a
key has to be on the line of its colon and within 1024 bytes of it.

`tokens` gives the lexemes of a text. One step of the lexer, `Lexer.step`, reads one lexeme
with the blanks and comments in front of it.
-/

set_option autoImplicit false

namespace WrapperModel.Yaml

/-- Where a key may have begun. Its lexemes are there already when its colon is found, so `place`
says in front of which one the mark belongs. -/
structure PossibleKey where
  /-- The lexemes in front of it. -/
  place : Nat
  line : Nat
  column : Nat
  /-- The last column at which its colon may stand. -/
  lastColumn : Nat
  /-- It stands where nothing but a key can stand. -/
  required : Bool
  deriving Repr, DecidableEq

/-- The state of the lexer between two lexemes. The lexemes are written backwards with their number
beside them, so that `emitAt` can count from the front. -/
structure Lexer where
  cursor : Cursor
  /-- The lexemes so far, written backwards. -/
  produced : List Token := []
  /-- The number of lexemes so far. -/
  count : Nat := 0
  /-- The column of the innermost block collection, -1 outside of all. -/
  indent : Int := -1
  /-- The columns of the block collections around it. -/
  indents : List Int := []
  /-- The possible key in front of the cursor, for every open bracket and for the text
  outside of all. -/
  keys : List (Option PossibleKey) := [none]
  /-- A key may begin here. -/
  keyAllowed : Bool := true
  deriving Repr

namespace Lexer

/-- The number of open brackets. There is an entry of `keys` for each of them and one for the text
outside, so the brackets need no counter of their own. -/
def flowLevel (lexer : Lexer) : Nat :=
  lexer.keys.length - 1

/-- The cursor is inside brackets, where the indentation has no meaning: there neither `unrollTo`
nor `rollTo` does anything. -/
def inFlow (lexer : Lexer) : Bool :=
  lexer.flowLevel ≠ 0

/-- The state with one more lexeme at the end. The list is written backwards, so the end is its
head, and `count` keeps its length. -/
def emit (lexer : Lexer) (token : Token) : Lexer :=
  { lexer with produced := token :: lexer.produced, count := lexer.count + 1 }

/-- The state with one more lexeme at an earlier place, counted from the front. It serves the marks
of keys and the beginnings of the mappings that they open (`markKey`). -/
def emitAt (lexer : Lexer) (place : Nat) (token : Token) : Lexer :=
  { lexer with
    produced := lexer.produced.insertIdx (lexer.count - place) token
    count := lexer.count + 1 }

/-! ### Possible keys -/

/-- Why a key has no colon. It is an error only for a key that is required: `dropStaleKeys` and
`dropKey` give up the others without a word. -/
def missingColon : ReadError :=
  .badToken "could not find expected ':'"

/-- How many characters at the beginning of a text have that many bytes at most. A key is limited in
bytes, but the columns count characters, so `PossibleKey.atCursor` turns the one limit into the
other. -/
def charsWithin : Nat → List Char → Nat
  | _, [] => 0
  | bytes, c :: rest => if c.utf8Size ≤ bytes then charsWithin (bytes - c.utf8Size) rest + 1 else 0

/-- The possible key at the cursor. Its `lastColumn` is worked out here, where the text behind it is
known. -/
def PossibleKey.atCursor (cursor : Cursor) (place : Nat) (required : Bool) : PossibleKey :=
  { place
    line := cursor.line
    column := cursor.column
    lastColumn := cursor.column + charsWithin 1024 cursor.chars
    required }

/-- The key is too far away for a colon at the cursor: on a line before, or beyond its
`lastColumn`. -/
def PossibleKey.isStale (key : PossibleKey) (cursor : Cursor) : Bool :=
  decide (key.line < cursor.line) || decide (key.lastColumn < cursor.column)

/-- Gives up the possible keys that are too far away (`PossibleKey.isStale`). It fails if one of
them is required, because only a key can stand where it stands. -/
def dropStaleKeys (lexer : Lexer) : Except ReadError Lexer := do
  let keys ← lexer.keys.mapM fun key =>
    match key with
    | some key =>
      if PossibleKey.isStale key lexer.cursor then
        if key.required then .error missingColon else .ok none
      else .ok (some key)
    | none => .ok none
  return { lexer with keys }

/-- Gives up the possible key in front of the cursor, in the innermost brackets. What comes next
cannot belong to it. The entries of `keys` for the brackets around stay. -/
def dropKey (lexer : Lexer) : Except ReadError Lexer :=
  match lexer.keys with
  | some key :: rest =>
    if key.required then .error missingColon else .ok { lexer with keys := none :: rest }
  | _ => .ok lexer

/-- Remembers that a key may begin at the cursor, in place of the one before (`dropKey`). In a block
mapping, what stands in its own column has to be a key. -/
def saveKey (lexer : Lexer) : Except ReadError Lexer :=
  if lexer.keyAllowed then do
    let key := PossibleKey.atCursor lexer.cursor lexer.count
      (!lexer.inFlow && lexer.indent = lexer.cursor.column)
    let lexer ← lexer.dropKey
    return { lexer with keys := some key :: lexer.keys.tail }
  else .ok lexer

/-! ### Indentation -/

/-- Closes the block collections that are indented deeper than the column, one after the other from
the innermost. The recursion is on `indents`, the columns of the collections around. -/
def unroll (lexer : Lexer) (column : Int) : List Int → Lexer
  | [] => lexer
  | outer :: rest =>
    if column < lexer.indent then
      unroll { lexer.emit .blockEnd with indent := outer, indents := rest } column rest
    else lexer

/-- Closes block collections deeper than the column (`unroll`), unless the cursor is inside
brackets. The column -1 closes all. -/
def unrollTo (lexer : Lexer) (column : Int) : Lexer :=
  if lexer.inFlow then lexer else lexer.unroll column lexer.indents

/-- Opens a block collection at the column, if it is deeper than the one around. What stands in the
same column belongs to the collection that is open. The lexeme goes to `place`, as a mapping is
known only at its first colon. -/
def rollTo (lexer : Lexer) (column : Nat) (place : Nat) (token : Token) : Lexer :=
  if !lexer.inFlow && decide (lexer.indent < column) then
    { lexer.emitAt place token with
      indent := column
      indents := lexer.indent :: lexer.indents }
  else lexer

/-- Marks the possible key in front of the cursor as a key, in a mapping of its own if it is
indented deeper than what is open (`rollTo`). Another key cannot follow on the same line, unless in
brackets. -/
def markKey (lexer : Lexer) (key : PossibleKey) : Lexer :=
  { (lexer.emitAt key.place .key).rollTo key.column key.place .blockMappingStart with
    keys := none :: lexer.keys.tail
    keyAllowed := false }

/-! ### Blanks and comments -/

/-- Passes blanks, comments and breaks; a break outside of brackets allows a key. Tabs count as
blanks inside brackets and where no key may begin, since no tab may indent a collection. The number
`bound` limits the lines that are left. -/
def skipBlanks (inFlow : Bool) (keyAllowed : Bool) (cursor : Cursor) : Nat → Bool × Cursor
  | 0 => (keyAllowed, cursor)
  | bound + 1 =>
    let cursor :=
      if cursor.column = 0 && cursor.chars.head? = some byteOrderMark then cursor.advance 1
      else cursor
    let cursor := cursor.skipWhile fun c => c = ' ' || ((inFlow || !keyAllowed) && c = '\t')
    let cursor := if cursor.chars.head? = some '#' then cursor.skipLine else cursor
    if cursor.chars.head?.any isBreak then
      skipBlanks inFlow (keyAllowed || !inFlow) cursor.nextLine bound
    else (keyAllowed, cursor)

/-! ### Lexemes -/

/-- A lexeme of a few marks at the cursor, on which nothing is to be read but the marks. The marks
are no breaks, so `Cursor.advance` passes them. -/
def mark (lexer : Lexer) (length : Nat) (token : Token) : Lexer :=
  { lexer.emit token with cursor := lexer.cursor.advance length }

/-- The end of the text, which closes all that is open (`unrollTo`) and refuses a required key
without a colon. Open brackets are left to the reader of the lexemes. -/
def finish (lexer : Lexer) : Except ReadError (List Token) := do
  let lexer ← (lexer.unrollTo (-1)).dropKey
  return lexer.produced.reverse

/-- Closes all block collections in front of a directive or a mark of a document, as `finish` does
at the end of the text. No key may begin behind it on the same line. -/
def closeBlocks (lexer : Lexer) : Except ReadError Lexer := do
  let lexer ← (lexer.unrollTo (-1)).dropKey
  return { lexer with keyAllowed := false }

/-- A directive, which closes the document in front of it. It takes the rest of its line, comment
included (`directive`). -/
def directiveLine (lexer : Lexer) : Except ReadError Lexer := do
  let lexer ← lexer.closeBlocks
  let (token, cursor) ← directive lexer.cursor
  return { lexer.emit token with cursor }

/-- A mark of a document's beginning or end, which has three characters (`atMarker`). It closes
every block collection in front of it. -/
def documentMark (lexer : Lexer) (token : Token) : Except ReadError Lexer := do
  return (← lexer.closeBlocks).mark 3 token

/-- An opening bracket. The bracket itself can begin a key (`saveKey`), as a collection can be one,
and inside a new key may begin. -/
def openFlow (lexer : Lexer) (token : Token) : Except ReadError Lexer := do
  let lexer ← lexer.saveKey
  return { lexer.mark 1 token with keys := none :: lexer.keys, keyAllowed := true }

/-- A closing bracket, which ends the entry of `keys` for what it closes. One that closes nothing is
left to the reader of the lexemes. -/
def closeFlow (lexer : Lexer) (token : Token) : Except ReadError Lexer := do
  let lexer ← lexer.dropKey
  return { lexer.mark 1 token with
    keys := if lexer.inFlow then lexer.keys.tail else lexer.keys
    keyAllowed := false }

/-- A comma, behind which a key may begin. What stands in front of it is no key any more
(`dropKey`). -/
def flowEntry (lexer : Lexer) : Except ReadError Lexer := do
  return { (← lexer.dropKey).mark 1 .flowEntry with keyAllowed := true }

/-- A dash in front of an item. It opens a sequence if it is indented deeper than what is open
(`rollTo`), and is refused in the middle of a line, where `keyAllowed` is false. -/
def blockEntry (lexer : Lexer) : Except ReadError Lexer := do
  if !lexer.inFlow && !lexer.keyAllowed then
    .error (.badToken "block sequence entries are not allowed in this context")
  else
    let lexer ← (lexer.rollTo lexer.cursor.column lexer.count .blockSequenceStart).dropKey
    return { lexer.mark 1 .blockEntry with keyAllowed := true }

/-- A question mark in front of a key. It opens a mapping as a colon does (`rollTo`), and its key
may take several lines, since the mark need not be put in afterwards. -/
def explicitKey (lexer : Lexer) : Except ReadError Lexer := do
  if !lexer.inFlow && !lexer.keyAllowed then
    .error (.badToken "mapping keys are not allowed in this context")
  else
    let lexer ← (lexer.rollTo lexer.cursor.column lexer.count .blockMappingStart).dropKey
    return { lexer.mark 1 .key with keyAllowed := !lexer.inFlow }

/-- A colon in front of a value. It makes a key of what may be one in front of it (`markKey`), and
without that the key is empty, which outside of brackets is allowed only where a key is. -/
def valueMark (lexer : Lexer) : Except ReadError Lexer :=
  match lexer.keys with
  | some key :: _ => .ok ((lexer.markKey key).mark 1 .value)
  | _ =>
    if !lexer.inFlow && !lexer.keyAllowed then
      .error (.badToken "mapping values are not allowed in this context")
    else
      let lexer := lexer.rollTo lexer.cursor.column lexer.count .blockMappingStart
      .ok { lexer.mark 1 .value with keyAllowed := !lexer.inFlow }

/-- An anchor or a reference, as `token` says. The two are read alike (`anchorName`), and either can
begin a key. -/
def named (lexer : Lexer) (token : List Char → Token) : Except ReadError Lexer := do
  let lexer ← lexer.saveKey
  let (name, cursor) ← anchorName (lexer.cursor.advance 1)
  return { lexer.emit (token name) with cursor, keyAllowed := false }

/-- A tag (`tagAt`), with which a key can begin. -/
def tagged (lexer : Lexer) : Except ReadError Lexer := do
  let lexer ← lexer.saveKey
  let (handle, suffix, cursor) ← tagAt lexer.inFlow lexer.cursor
  return { lexer.emit (.tag handle suffix) with cursor, keyAllowed := false }

/-- A block (`blockScalar`), which ends in front of the first line that is not indented enough. A
key may begin there. The block itself can be no key, as it takes its line to the end. -/
def block (lexer : Lexer) (folded : Bool) : Except ReadError Lexer := do
  let lexer ← lexer.dropKey
  let (text, cursor) ← blockScalar folded lexer.indent (lexer.cursor.advance 1)
  return { lexer.emit (.scalar false text) with cursor, keyAllowed := true }

/-- A scalar between quotes, double ones as the flag `double` says (`doubleQuoted`, `singleQuoted`).
It can be a key. -/
def quotedScalar (lexer : Lexer) (double : Bool) : Except ReadError Lexer := do
  let lexer ← lexer.saveKey
  let start := lexer.cursor.advance 1
  let (text, cursor) ←
    if double then doubleQuoted [] {} start.line start.column start.chars
    else singleQuoted [] {} start.line start.column start.chars
  return { lexer.emit (.scalar false text) with cursor, keyAllowed := false }

/-- A scalar without quotes (`plainScalar`). It goes over as many lines as are indented deeper than
the collection around. A break behind it allows a key. -/
def plain (lexer : Lexer) : Except ReadError Lexer := do
  let lexer ← lexer.saveKey
  let (text, overBreak, cursor) ← plainScalar lexer.inFlow (lexer.indent + 1) lexer.cursor
  return { lexer.emit (.scalar true text) with cursor, keyAllowed := overBreak }

/-- Marks with a meaning of their own, with which no plain scalar begins. Three of them can begin
one nevertheless, if the character behind them allows it (`lexeme`). -/
def isReserved (c : Char) : Bool :=
  ['-', '?', ':', ',', '[', ']', '\x7b', '\x7d', '#', '&', '*', '!', '|', '>', '\'', '"', '%', '@',
    '\x60'].contains c

/-- The lexeme that begins with `c`. The cases are tried in their order, since most marks are marks
only in some places: what no case before wants is a plain scalar or an error. -/
def lexeme (lexer : Lexer) (c : Char) (rest : List Char) : Except ReadError Lexer :=
  let column := lexer.cursor.column
  if column = 0 && c = '%' then lexer.directiveLine
  else if atMarker '-' column (c :: rest) then lexer.documentMark .documentStart
  else if atMarker '.' column (c :: rest) then lexer.documentMark .documentEnd
  else if c = '[' then lexer.openFlow .flowSequenceStart
  else if c = '\x7b' then lexer.openFlow .flowMappingStart
  else if c = ']' then lexer.closeFlow .flowSequenceEnd
  else if c = '\x7d' then lexer.closeFlow .flowMappingEnd
  else if c = ',' then lexer.flowEntry
  else if c = '-' && beginsBlank rest then lexer.blockEntry
  else if c = '?' && (lexer.inFlow || beginsBlank rest) then lexer.explicitKey
  else if c = ':' && (lexer.inFlow || beginsBlank rest) then lexer.valueMark
  else if c = '*' then lexer.named .copyOf
  else if c = '&' then lexer.named .anchor
  else if c = '!' then lexer.tagged
  else if c = '|' && !lexer.inFlow then lexer.block false
  else if c = '>' && !lexer.inFlow then lexer.block true
  else if c = '\'' then lexer.quotedScalar false
  else if c = '"' then lexer.quotedScalar true
  else if (!isReserved c && !isBlankOrBreak c) || c = '-' ||
      (!lexer.inFlow && (c = '?' || c = ':')) then
    lexer.plain
  else .error (.badToken "found character that cannot start any token")

/-- One lexeme with what stands in front of it, or all lexemes at the end of the text. Before the
lexeme, keys that are too far away are given up and collections closed that end here. The number
`lines` bounds the lines that are left. -/
def step (lexer : Lexer) (lines : Nat) : Except ReadError (Lexer ⊕ List Token) := do
  let (keyAllowed, cursor) := skipBlanks lexer.inFlow lexer.keyAllowed lexer.cursor lines
  let lexer ← { lexer with keyAllowed, cursor }.dropStaleKeys
  let lexer := lexer.unrollTo cursor.column
  match cursor.chars with
  | [] => return .inr (← lexer.finish)
  | c :: rest => return .inl (← lexer.lexeme c rest)

/-- All lexemes, where the numbers bound the lines and the lexemes that are left. A step takes a
character at least, so one more than the text has suffices for both (`tokens`). -/
def run (lexer : Lexer) (lines : Nat) : Nat → Except ReadError (List Token)
  | 0 => .error (.badToken "unexpected end of lexemes")
  | bound + 1 => do
    match ← lexer.step lines with
    | .inr tokens => return tokens
    | .inl next => next.run lines bound

end Lexer

/-- The lexemes of a text. A character that may not stand in a document (`isAccepted`) refuses the
whole text, wherever it stands, also in a comment. -/
def tokens (cs : List Char) : Except ReadError (List Token) :=
  let text := unifyBreaks cs
  if text.all isAccepted then
    Lexer.run { cursor := Cursor.start text } (text.length + 1) (text.length + 1)
  else .error .badCharacter

end WrapperModel.Yaml
