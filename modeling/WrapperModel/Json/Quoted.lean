/-!
# `WrapperModel.Json.Quoted`: strings between quotes

`quote` writes a text between quotes. A quote, a backslash and the control characters
below the space are escaped, five of the controls by a letter and the others by their
number; all else stands for itself.

`quoted?` reads up to the closing quote. It understands every escape of the format. An
escape by number denotes a character or half of one, and two halves that stand together
denote one character; a half on its own leaves the string without a text. A bare control
character is refused.
-/

set_option autoImplicit false

namespace WrapperModel.Json

/-! ### Writing -/

/-- The hexadecimal digit of a number below sixteen, a small letter from ten on. -/
def hexDigit (n : Nat) : Char :=
  if n < 10 then Char.ofNat (48 + n) else Char.ofNat (87 + n)

/-- How a character is written between quotes. The slash and all characters beyond the controls
stand for themselves, and the delete control does too. -/
def escapeChar (c : Char) : List Char :=
  if c = '"' then ['\\', '"']
  else if c = '\\' then ['\\', '\\']
  else if c = '\n' then ['\\', 'n']
  else if c = '\r' then ['\\', 'r']
  else if c = '\t' then ['\\', 't']
  else if c = '\x08' then ['\\', 'b']
  else if c = '\x0c' then ['\\', 'f']
  else if c.toNat < 32 then ['\\', 'u', '0', '0', hexDigit (c.toNat / 16), hexDigit (c.toNat % 16)]
  else [c]

/-- A text between quotes, each character by `escapeChar`. `quoted?_quote` reads it back. -/
def quote (cs : List Char) : List Char :=
  '"' :: cs.flatMap escapeChar ++ ['"']

/-! ### Reading -/

/-- What a part of a string denotes: a character, or a unit of sixteen bits, which two escapes by
number may have to share for one character. -/
inductive Piece where
  | char (c : Char)
  | unit (code : Nat)
  deriving Repr, DecidableEq

/-- The number of a hexadecimal digit, in letters of either case. `escapeChar` writes small ones
alone. -/
def hexValue? (c : Char) : Option Nat :=
  if '0' ≤ c && c ≤ '9' then some (c.toNat - 48)
  else if 'a' ≤ c && c ≤ 'f' then some (c.toNat - 87)
  else if 'A' ≤ c && c ≤ 'F' then some (c.toNat - 55)
  else none

/-- The unit that four hexadecimal digits denote, the first being the highest. Fewer digits denote
none. -/
def unit? (a b c d : Char) : Option Nat := do
  let a ← hexValue? a
  let b ← hexValue? b
  let c ← hexValue? c
  let d ← hexValue? d
  return ((a * 16 + b) * 16 + c) * 16 + d

/-- The character that a letter behind a backslash denotes. More can be read than `escapeChar`
writes: the slash may have a backslash. -/
def escaped? (c : Char) : Option Char :=
  if c = '"' || c = '\\' || c = '/' then some c
  else if c = 'b' then some '\x08'
  else if c = 'f' then some '\x0c'
  else if c = 'n' then some '\n'
  else if c = 'r' then some '\r'
  else if c = 't' then some '\t'
  else none

/-- The parts of a string up to its closing quote, behind the parts `done`, which are written
backwards, and what follows the quote. A control character, an unknown escape or a missing quote
makes it no string. -/
def scanQuoted (done : List Piece) : List Char → Option (List Piece × List Char)
  | '"' :: rest => some (done.reverse, rest)
  | '\\' :: 'u' :: a :: b :: c :: d :: rest =>
    match unit? a b c d with
    | some code => scanQuoted (.unit code :: done) rest
    | none => none
  | '\\' :: e :: rest =>
    match escaped? e with
    | some c => scanQuoted (.char c :: done) rest
    | none => none
  | c :: rest =>
    if c = '\\' || c.toNat < 32 then none else scanQuoted (.char c :: done) rest
  | [] => none

/-- A unit that is the first half of a character beyond sixteen bits. The second half has to follow
it at once. -/
def isHighHalf (code : Nat) : Bool :=
  decide (0xD800 ≤ code) && decide (code < 0xDC00)

/-- A unit that is the second half of such a character. On its own it denotes no text. -/
def isLowHalf (code : Nat) : Bool :=
  decide (0xDC00 ≤ code) && decide (code < 0xE000)

/-- The text of the parts behind `done`, which is written backwards, if every half has its other
half beside it. A half on its own is no error of the format, so the string is still read, without a
text. -/
def textOfPieces (done : List Char) : List Piece → Option (List Char)
  | [] => some done.reverse
  | .char c :: rest => textOfPieces (c :: done) rest
  | .unit high :: .unit low :: rest =>
    if isHighHalf high then
      if isLowHalf low then
        textOfPieces (Char.ofNat (0x10000 + (high - 0xD800) * 0x400 + (low - 0xDC00)) :: done) rest
      else none
    else if isLowHalf high then none
    else textOfPieces (Char.ofNat high :: done) (.unit low :: rest)
  | .unit code :: rest =>
    if isHighHalf code || isLowHalf code then none else textOfPieces (Char.ofNat code :: done) rest

/-- The text of a string whose opening quote was just read, and what follows its closing quote. The
outer `none` says that there is no string, the inner one that the string denotes no text. -/
def quoted? (cs : List Char) : Option (Option String × List Char) :=
  (scanQuoted [] cs).map fun (parts, rest) => ((textOfPieces [] parts).map String.ofList, rest)

end WrapperModel.Json
