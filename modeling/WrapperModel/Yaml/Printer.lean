import WrapperModel.Yaml.Style

/-!
# `WrapperModel.Yaml.Printer`: documents as text

A document is written in block form: a line for every key and every item, nested mappings
two spaces deeper, and the dashes of a sequence below its key. Lines are never folded,
and an empty sequence is a pair of brackets.

* `scalarChars` writes a text in the form that `styleOf` chooses.
* `document` writes a mapping as a whole document.
-/

set_option autoImplicit false

namespace WrapperModel.Yaml

/-- A value that can be written. The models that are written have no numbers, so there is no case
for one; a truth value is a `word`. A `text` has quotes where `styleOf` finds it needs them, and a
`quoted` one has them whatever it looks like. -/
inductive Node where
  /-- A word that stands for nothing or for a truth value. -/
  | word (written : String)
  /-- A text. -/
  | text (s : String)
  /-- A text that is always quoted. -/
  | quoted (s : String)
  /-- A text with a tag of the document's own. -/
  | tagged (tag s : String)
  | sequence (items : List Node)
  | mapping (members : List (String × Node))
  deriving Repr, Inhabited

/-! ### Scalars -/

/-- That many spaces, which is how every line is indented. `literalBody` and `singleQuotedBody`
write them inside of texts too. -/
def spaces (n : Nat) : List Char :=
  List.replicate n ' '

/-- A text between single quotes, from the place behind the opening one. A quote is doubled. A break
is followed by the indentation, which belongs to the document and is dropped again when it is read
(`singleQuoted`). The first line feed of a run of breaks is written twice, since a reader takes a
single one for a fold. -/
def singleQuotedBody (indent : Nat) (afterBreak : Bool) : List Char → List Char
  | [] => (if afterBreak then spaces indent else []) ++ ['\'']
  | c :: rest =>
    if isBreak c then
      (if c = '\n' && !afterBreak then ['\n', '\n'] else [c]) ++ singleQuotedBody indent true rest
    else if c = ' ' then c :: singleQuotedBody indent afterBreak rest
    else
      (if afterBreak then spaces indent else []) ++ (if c = '\'' then ['\'', '\''] else [c]) ++
        singleQuotedBody indent false rest

/-- The hexadecimal digit of a number below sixteen, as a capital. `hexValue?` reads it back. -/
def hexDigit (n : Nat) : Char :=
  if n < 10 then Char.ofNat (48 + n) else Char.ofNat (55 + n)

/-- A number in that many hexadecimal digits, the highest first. Digits in front of them are lost,
so `count` has to suffice. -/
def hexDigits : Nat → Nat → List Char
  | 0, _ => []
  | count + 1, n => hexDigit (n / Nat.pow 16 count % 16) :: hexDigits count n

/-- The letter that stands for a character behind a backslash, where there is one. The others are
written by their number (`escapeChar`). -/
def escapeLetter? (c : Char) : Option Char :=
  [('\x00', '0'), ('\x07', 'a'), ('\x08', 'b'), ('\t', 't'), ('\n', 'n'), ('\x0b', 'v'),
    ('\x0c', 'f'), ('\r', 'r'), ('\x1b', 'e'), ('"', '"'), ('\\', '\\'), (nextLine, 'N'),
    ('\u00a0', '_'), (lineSeparator, 'L'), (paragraphSeparator, 'P')].lookup c

/-- How a character is written between double quotes: as it is where that is possible, with its
letter where it has one (`escapeLetter?`), and else by its number in as few of two, four or eight
digits as hold it. -/
def escapeChar (c : Char) : List Char :=
  if isPrintable c && !isBreak c && c != '"' && c != '\\' then [c]
  else
    match escapeLetter? c with
    | some letter => ['\\', letter]
    | none =>
      if c.toNat ≤ 0xFF then '\\' :: 'x' :: hexDigits 2 c.toNat
      else if c.toNat ≤ 0xFFFF then '\\' :: 'u' :: hexDigits 4 c.toNat
      else '\\' :: 'U' :: hexDigits 8 c.toNat

/-- The lines of a block. Every line that holds something is indented; empty lines are not, so no
line ends in blanks of the writer's own. `blockLines` reads them. -/
def literalBody (indent : Nat) (atStart : Bool) : List Char → List Char
  | [] => []
  | c :: rest =>
    if isBreak c then c :: literalBody indent true rest
    else (if atStart then spaces indent else []) ++ c :: literalBody indent false rest

/-- The digit that gives the indentation of a block whose first line does not show it, because it is
empty or begins with a space (`isSpaceOrBreak`). -/
def indentationHint (cs : List Char) : List Char :=
  if cs.head?.any isSpaceOrBreak then ['2'] else []

/-- What becomes of the breaks at the end of a block: a minus for none, a plus for several or where
there is nothing else, and no mark for one. `BlockState.chomped` undoes it. -/
def chompingHint (cs : List Char) : List Char :=
  match cs.reverse with
  | [] => ['-']
  | last :: before =>
    if !isBreak last then ['-']
    else
      match before with
      | [] => ['+']
      | c :: _ => if isBreak c then ['+'] else []

/-- A text in the given form, ended by a break. The lines behind the first are indented. The form
has to suit the text for it to be read back, which `styleOf` sees to. -/
def styledChars (indent : Nat) (cs : List Char) : Style → List Char
  | .plain => cs ++ ['\n']
  | .singleQuoted => '\'' :: singleQuotedBody indent false cs ++ ['\n']
  | .doubleQuoted => '"' :: cs.flatMap escapeChar ++ ['"', '\n']
  | .literal =>
    '|' :: indentationHint cs ++ chompingHint cs ++ ['\n'] ++ literalBody indent true cs ++
      (if cs.getLast?.any isBreak then [] else ['\n'])

/-- A text in the form that suits it (`styleOf`), with a break behind it. `quotedChars` is the same
for texts that are quoted in any case. -/
def scalarChars (indent : Nat) (cs : List Char) : List Char :=
  styledChars indent cs (styleOf cs)

/-- A text between quotes, single ones if they do (`quotedStyle`). Texts that are always quoted are
written like this. -/
def quotedChars (indent : Nat) (cs : List Char) : List Char :=
  styledChars indent cs (quotedStyle cs)

/-! ### Documents -/

mutual

/-- What follows the colon of a key whose mapping is indented that far: a scalar on the same line,
or a collection on the lines below. A sequence (`itemsChars`) is not indented deeper than its key, a
mapping is. -/
def valueChars (indent : Nat) : Node → List Char
  | .word written => ' ' :: written.toList ++ ['\n']
  | .text s => ' ' :: scalarChars (indent + 2) s.toList
  | .quoted s => ' ' :: quotedChars (indent + 2) s.toList
  | .tagged tag s => ' ' :: '!' :: tag.toList ++ ' ' :: scalarChars (indent + 2) s.toList
  | .sequence [] => [' ', '[', ']', '\n']
  | .sequence (item :: items) => '\n' :: itemsChars indent (item :: items)
  | .mapping [] => [' ', '\x7b', '\x7d', '\n']
  | .mapping (member :: members) =>
    '\n' :: spaces (indent + 2) ++ memberChars (indent + 2) member ++
      membersChars (indent + 2) members

/-- The items of a sequence, each behind a dash on lines of its own, all in the same column
(`itemChars`). -/
def itemsChars (indent : Nat) : List Node → List Char
  | [] => []
  | item :: items => spaces indent ++ '-' :: itemChars indent item ++ itemsChars indent items

/-- What follows the dash of an item. A collection inside begins on the line of the dash, two
columns behind it, where `valueChars` would begin a new line. -/
def itemChars (indent : Nat) : Node → List Char
  | .word written => ' ' :: written.toList ++ ['\n']
  | .text s => ' ' :: scalarChars (indent + 2) s.toList
  | .quoted s => ' ' :: quotedChars (indent + 2) s.toList
  | .tagged tag s => ' ' :: '!' :: tag.toList ++ ' ' :: scalarChars (indent + 2) s.toList
  | .sequence [] => [' ', '[', ']', '\n']
  | .sequence (item :: items) =>
    ' ' :: '-' :: itemChars (indent + 2) item ++ itemsChars (indent + 2) items
  | .mapping [] => [' ', '\x7b', '\x7d', '\n']
  | .mapping (member :: members) =>
    ' ' :: memberChars (indent + 2) member ++ membersChars (indent + 2) members

/-- A key with its value (`valueChars`), from the key on. Keys are names of fields and are written
as they are. -/
def memberChars (indent : Nat) : String × Node → List Char
  | (key, value) => key.toList ++ ':' :: valueChars indent value

/-- Further keys of a mapping, each on lines of its own in the column of the first
(`memberChars`). -/
def membersChars (indent : Nat) : List (String × Node) → List Char
  | [] => []
  | member :: members =>
    spaces indent ++ memberChars indent member ++ membersChars indent members

end

/-- A mapping with the given members as a document. It has no marks at its beginning or end;
`Document.ofText` needs none. -/
def document (members : List (String × Node)) : String :=
  String.ofList (membersChars 0 members)

end WrapperModel.Yaml
