import WrapperModel.Yaml.Token.Basic

/-!
# `WrapperModel.Yaml.Token.Scalar`: the text of scalars

Scalars can go over several lines. Between lines a single break becomes a space, further
breaks are kept, and the blanks around breaks are dropped; `Gap` is such a stretch and
`Gap.text` what it becomes. Blocks have rules of their own, where the lines keep what
stands behind the indentation.

* `plainScalar` reads a scalar without quotes.
* `singleQuoted` and `doubleQuoted` read up to the closing quote.
* `blockScalar` reads a block behind its mark.
-/

set_option autoImplicit false

namespace WrapperModel.Yaml

/-! ### Gaps between words -/

/-- Blanks and breaks between the words of a scalar. Blanks behind a break are indentation and are
not kept at all. -/
structure Gap where
  /-- Blanks in front of any break, written backwards. -/
  blanks : List Char := []
  /-- The first break, which is empty where a backslash hides it. -/
  first : Option (List Char) := none
  /-- Further breaks, written backwards. -/
  more : List Char := []
  deriving Repr, DecidableEq

namespace Gap

/-- A gap at whose beginning a backslash hides the break. It has a break, so that blanks behind it
do not count (`Gap.addBlank`). -/
def hidden : Gap :=
  { first := some [] }

/-- The gap goes over a break. From there on its blanks are indentation and are dropped
(`Gap.addBlank`). -/
def hasBreak (gap : Gap) : Bool :=
  gap.first.isSome

/-- The gap with a blank behind it, which counts only in front of any break (`Gap.hasBreak`). -/
def addBlank (gap : Gap) (c : Char) : Gap :=
  if gap.hasBreak then gap else { gap with blanks := c :: gap.blanks }

/-- The gap with a break behind it. The first one drops the blanks in front of it. -/
def addBreak (gap : Gap) (c : Char) : Gap :=
  if gap.hasBreak then { gap with more := c :: gap.more } else { first := some [c] }

/-- What the gap becomes: its blanks, or for a single line feed a space, or its further breaks. A
first break that is no line feed is kept, and so is one that is hidden, as the empty text. -/
def text (gap : Gap) : List Char :=
  match gap.first with
  | none => gap.blanks.reverse
  | some first =>
    if first = ['\n'] then
      if gap.more.isEmpty then [' '] else gap.more.reverse
    else first ++ gap.more.reverse

end Gap

/-- Reads the blanks and breaks behind `gap`. A tab may not stand behind a break in a column below
`limit`, where it would indent the line. -/
def gapFrom (limit : Int) (gap : Gap) (line column : Nat) :
    List Char → Except ReadError (Gap × Cursor)
  | [] => .ok (gap, ⟨[], line, column⟩)
  | c :: rest =>
    if isBlank c then
      if c = '\t' && gap.hasBreak && decide ((column : Int) < limit) then
        .error (.badToken "found a tab character that violates indentation")
      else gapFrom limit (gap.addBlank c) line (column + 1) rest
    else if isBreak c then gapFrom limit (gap.addBreak c) (line + 1) 0 rest
    else .ok (gap, ⟨c :: rest, line, column⟩)

/-! ### Plain scalars -/

/-- Marks that end a plain scalar inside brackets. Outside they are characters like any other
(`wordLength`), except at its beginning. -/
def isFlowIndicator (c : Char) : Bool :=
  [',', '[', ']', '\x7b', '\x7d'].contains c

/-- The length of the word of a plain scalar that comes next, behind `count` characters of it.
Inside brackets a colon may not stand in front of a bracket, a comma or a question mark. -/
def wordLength (inFlow : Bool) (count : Nat) : List Char → Except ReadError Nat
  | [] => .ok count
  | c :: rest =>
    if isBlankOrBreak c then .ok count
    else if inFlow && c = ':' && rest.head?.any (fun d => isFlowIndicator d || d = '?') then
      .error (.badToken "found unexpected ':'")
    else if (c = ':' && beginsBlank rest) || (inFlow && isFlowIndicator c) then .ok count
    else wordLength inFlow (count + 1) rest

/-- The words of a plain scalar behind `text`, which is written backwards, and `gap`, with the gap
at the end, which is no part of it. A gap joins the text only when a word follows it. The number
`bound` limits the words that are left. -/
def plainFrom (inFlow : Bool) (limit : Int) (text : List Char) (gap : Gap) (cursor : Cursor) :
    Nat → Except ReadError (List Char × Gap × Cursor)
  | 0 => .ok (text.reverse, gap, cursor)
  | bound + 1 =>
    if atDocumentMarker cursor.column cursor.chars || cursor.chars.head? = some '#' then
      .ok (text.reverse, gap, cursor)
    else do
      let count ← wordLength inFlow 0 cursor.chars
      if count = 0 then .ok (text.reverse, gap, cursor)
      else
        let word := cursor.chars.take count
        let text := word.reverse ++ (gap.text.reverse ++ text)
        let (gap, next) ←
          gapFrom limit {} cursor.line (cursor.column + count) (cursor.chars.drop count)
        if gap = {} then .ok (text.reverse, gap, next)
        else if !inFlow && decide ((next.column : Int) < limit) then .ok (text.reverse, gap, next)
        else plainFrom inFlow limit text gap next bound

/-- A plain scalar, whether a break follows it, and the text behind. Outside of brackets its further
lines begin at column `limit` or beyond. -/
def plainScalar (inFlow : Bool) (limit : Int) (cursor : Cursor) :
    Except ReadError (List Char × Bool × Cursor) := do
  let (text, gap, next) ← plainFrom inFlow limit [] {} cursor (cursor.chars.length + 1)
  return (text, gap.hasBreak, next)

/-! ### Quoted scalars -/

/-- Reads to the closing single quote, behind `text`, which is written backwards, and `gap`. Two
quotes are one of the text; there are no escapes, unlike in `doubleQuoted`. -/
def singleQuoted (text : List Char) (gap : Gap) (line column : Nat) :
    List Char → Except ReadError (List Char × Cursor)
  | [] => .error (.badToken "found unexpected end of stream")
  | '\'' :: '\'' :: rest =>
    singleQuoted ('\'' :: (gap.text.reverse ++ text)) {} line (column + 2) rest
  | c :: rest =>
    if isBlank c then singleQuoted text (gap.addBlank c) line (column + 1) rest
    else if isBreak c then singleQuoted text (gap.addBreak c) (line + 1) 0 rest
    else if atDocumentMarker column (c :: rest) then
      .error (.badToken "found unexpected document indicator")
    else if c = '\'' then
      .ok ((gap.text.reverse ++ text).reverse, ⟨rest, line, column + 1⟩)
    else singleQuoted (c :: (gap.text.reverse ++ text)) {} line (column + 1) rest

/-- The character that a letter behind a backslash denotes. It has all that `escapeLetter?` writes,
and three more characters that stand for themselves. -/
def escaped? (c : Char) : Option Char :=
  [('0', '\x00'), ('a', '\x07'), ('b', '\x08'), ('t', '\t'), ('\t', '\t'), ('n', '\n'),
    ('v', '\x0b'), ('f', '\x0c'), ('r', '\r'), ('e', '\x1b'), (' ', ' '), ('"', '"'), ('/', '/'),
    ('\\', '\\'), ('N', nextLine), ('_', '\u00a0'), ('L', lineSeparator),
    ('P', paragraphSeparator)].lookup c

/-- The character with the number that hexadecimal digits (`hexValue?`) denote. Halves of characters
are refused, and so are numbers beyond the last character. -/
def coded? (digits : List Char) : Option Char := do
  let code ← digits.foldlM (fun value c => (hexValue? c).map (value * 16 + ·)) 0
  if code ≤ 0x10FFFF && !(decide (0xD800 ≤ code) && decide (code ≤ 0xDFFF)) then
    some (Char.ofNat code)
  else none

/-- Why an escape cannot be read: the letter is unknown (`escaped?`), digits are missing, or no
character has the number (`coded?`). -/
def badEscape : ReadError :=
  .badToken "found unknown escape character"

/-- Reads to the closing double quote, behind `text`, which is written backwards, and `gap`. A
backslash in front of a break hides it (`Gap.hidden`), and with it the indentation of the next
line. -/
def doubleQuoted (text : List Char) (gap : Gap) (line column : Nat) :
    List Char → Except ReadError (List Char × Cursor)
  | [] => .error (.badToken "found unexpected end of stream")
  | '\\' :: 'x' :: a :: b :: rest =>
    match coded? [a, b] with
    | some c => doubleQuoted (c :: (gap.text.reverse ++ text)) {} line (column + 4) rest
    | none => .error badEscape
  | '\\' :: 'u' :: a :: b :: c :: d :: rest =>
    match coded? [a, b, c, d] with
    | some c => doubleQuoted (c :: (gap.text.reverse ++ text)) {} line (column + 6) rest
    | none => .error badEscape
  | '\\' :: 'U' :: a :: b :: c :: d :: e :: f :: g :: h :: rest =>
    match coded? [a, b, c, d, e, f, g, h] with
    | some c => doubleQuoted (c :: (gap.text.reverse ++ text)) {} line (column + 10) rest
    | none => .error badEscape
  | '\\' :: e :: rest =>
    if isBreak e then
      doubleQuoted (gap.text.reverse ++ text) Gap.hidden (line + 1) 0 rest
    else
      match escaped? e with
      | some c => doubleQuoted (c :: (gap.text.reverse ++ text)) {} line (column + 2) rest
      | none => .error badEscape
  | c :: rest =>
    if isBlank c then doubleQuoted text (gap.addBlank c) line (column + 1) rest
    else if isBreak c then doubleQuoted text (gap.addBreak c) (line + 1) 0 rest
    else if atDocumentMarker column (c :: rest) then
      .error (.badToken "found unexpected document indicator")
    else if c = '"' then .ok ((gap.text.reverse ++ text).reverse, ⟨rest, line, column + 1⟩)
    else if c = '\\' then .error badEscape
    else doubleQuoted (c :: (gap.text.reverse ++ text)) {} line (column + 1) rest

/-! ### Blocks -/

/-- What becomes of the breaks at the end of a block (`BlockState.chomped`). -/
inductive Chomping where
  /-- None is kept. -/
  | drop
  /-- One is kept. -/
  | clip
  /-- All are kept. -/
  | keep
  deriving Repr, DecidableEq

/-- The chomping that a mark stands for. Without a mark a block is clipped (`blockHeader`). -/
def chomping? (c : Char) : Option Chomping :=
  if c = '+' then some .keep else if c = '-' then some .drop else none

/-- The marks behind the bar or the arrow: how many characters they take, the chomping (`chomping?`)
and the indentation, zero where it is left open. They come in either order. A zero may not be
given. -/
def blockHeader : List Char → Except ReadError (Nat × Chomping × Nat)
  | c :: rest =>
    match chomping? c with
    | some chomping =>
      match rest with
      | d :: _ =>
        if d = '0' then .error (.badToken "found an indentation indicator equal to 0")
        else if isDigit d then .ok (2, chomping, d.toNat - 48)
        else .ok (1, chomping, 0)
      | [] => .ok (1, chomping, 0)
    | none =>
      if c = '0' then .error (.badToken "found an indentation indicator equal to 0")
      else if isDigit c then
        match rest.head?.bind chomping? with
        | some chomping => .ok (2, chomping, c.toNat - 48)
        | none => .ok (1, .clip, c.toNat - 48)
      else .ok (0, .clip, 0)
  | [] => .ok (0, .clip, 0)

/-- Reads the indentation and the empty lines in front of the next line of a block: the deepest
column, the breaks, written backwards, and the text behind. The indentation `indent` is zero while
it is unknown, and then `blockScalar` takes it from the deepest column. -/
def blockBreaks (indent deepest : Nat) (breaks : List Char) (line column : Nat) :
    List Char → Except ReadError (Nat × List Char × Cursor)
  | [] => .ok (max deepest column, breaks, ⟨[], line, column⟩)
  | c :: rest =>
    if c = ' ' && (indent = 0 || decide (column < indent)) then
      blockBreaks indent deepest breaks line (column + 1) rest
    else if c = '\t' && (indent = 0 || decide (column < indent)) then
      .error (.badToken "found a tab character where an indentation space is expected")
    else if isBreak c then
      blockBreaks indent (max deepest column) (c :: breaks) (line + 1) 0 rest
    else .ok (max deepest column, breaks, ⟨c :: rest, line, column⟩)

/-- The state between two lines of a block. The breaks are kept apart from the text, since only the
next line or the end of the block decides what becomes of them. -/
structure BlockState where
  /-- The text so far, written backwards. -/
  text : List Char := []
  /-- The break behind the last line. -/
  lineBreak : List Char := []
  /-- The breaks of the empty lines behind it, written backwards. -/
  emptyLines : List Char := []
  /-- The last line begins with a blank. -/
  afterBlank : Bool := false
  deriving Repr, DecidableEq

/-- The text with the breaks in front of the next line. In a folded block a line feed between two
lines that begin with no blank (`afterBlank`) becomes a space or gives way to the empty lines. -/
def BlockState.joined (state : BlockState) (folded beginsWithBlank : Bool) : List Char :=
  if folded && state.lineBreak = ['\n'] && !state.afterBlank && !beginsWithBlank then
    if state.emptyLines.isEmpty then ' ' :: state.text else state.emptyLines ++ state.text
  else state.emptyLines ++ (state.lineBreak ++ state.text)

/-- The text with the breaks at the end that the `Chomping` keeps. -/
def BlockState.chomped (state : BlockState) : Chomping → List Char
  | .drop => state.text
  | .clip => state.lineBreak ++ state.text
  | .keep => state.emptyLines ++ (state.lineBreak ++ state.text)

/-- Reads the lines of a block whose indentation is known, and what follows the last one. A line
belongs to the block if `blockBreaks` reached that column in front of it. The number `bound` limits
the lines that are left. -/
def blockLines (folded : Bool) (indent : Nat) (state : BlockState) (cursor : Cursor) :
    Nat → Except ReadError (BlockState × Cursor)
  | 0 => .ok (state, cursor)
  | bound + 1 =>
    if cursor.column = indent && !cursor.chars.isEmpty then do
      let blank := cursor.chars.head?.any isBlank
      let body := cursor.chars.takeWhile fun c => !isBreak c
      let text := body.reverse ++ state.joined folded blank
      let stop := cursor.advance body.length
      let (lineBreak, next) :=
        match stop.chars with
        | c :: _ => ([c], stop.nextLine)
        | [] => ([], stop)
      let (_, emptyLines, next) ← blockBreaks indent 0 [] next.line next.column next.chars
      blockLines folded indent ⟨text, lineBreak, emptyLines, blank⟩ next bound
    else .ok (state, cursor)

/-- Reads a block behind its bar or arrow. Where its marks give no indentation, the deepest of its
first lines up to the one that holds something gives it, and it is deeper than the collection
around, which is indented to `parent`. -/
def blockScalar (folded : Bool) (parent : Int) (cursor : Cursor) :
    Except ReadError (List Char × Cursor) := do
  let (count, chomping, increment) ← blockHeader cursor.chars
  let cursor := (cursor.advance count).skipWhile isBlank
  let cursor := if cursor.chars.head? = some '#' then cursor.skipLine else cursor
  if !cursor.atLineEnd then .error (.badToken "did not find expected comment or line break")
  else
    let cursor := if cursor.chars.isEmpty then cursor else cursor.nextLine
    let given := if increment = 0 then 0 else (max parent 0).toNat + increment
    let (deepest, emptyLines, cursor) ←
      blockBreaks given 0 [] cursor.line cursor.column cursor.chars
    let indent := if given = 0 then max deepest (max (parent + 1).toNat 1) else given
    let (state, cursor) ←
      blockLines folded indent { emptyLines } cursor (cursor.chars.length + 1)
    return ((state.chomped chomping).reverse, cursor)

end WrapperModel.Yaml
