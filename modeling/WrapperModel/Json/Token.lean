import WrapperModel.Json.Quoted

/-!
# `WrapperModel.Json.Token`: the lexemes of the data format

`tokens?` cuts a text into its lexemes. White space between them is the space, the tab,
the line feed and the carriage return; a byte order mark is none. A number has no
superfluous zero in front, and digits on both sides of its point.
-/

set_option autoImplicit false

namespace WrapperModel.Json

/-- A lexeme. A string is one lexeme with the text that it denotes, and a number one with its
written form. -/
inductive Token where
  | beginArray
  | endArray
  | beginObject
  | endObject
  | comma
  | colon
  | null
  | bool (value : Bool)
  | number (written : String)
  | string (text : Option String)
  deriving Repr, DecidableEq

/-- White space between lexemes: four characters, and no other white space. A byte order mark is
none, so `tokens?` refuses a text that begins with one. -/
def isSpace (c : Char) : Bool :=
  c = ' ' || c = '\t' || c = '\n' || c = '\r'

/-- A decimal digit of the basic characters. Digits of other scripts are no digits here, though they
may stand in texts. -/
def isDigit (c : Char) : Bool :=
  '0' ≤ c && c ≤ '9'

/-- The digits in front (`isDigit`), if there are any, and the rest. No digits at all are no
number. -/
def digits? (cs : List Char) : Option (List Char × List Char) :=
  let digits := cs.takeWhile isDigit
  if digits.isEmpty then none else some (digits, cs.dropWhile isDigit)

/-- The whole part of a number: a zero on its own, or digits that begin with no zero. A zero with a
digit behind it is refused at once and not read as two numbers. -/
def whole? : List Char → Option (List Char × List Char)
  | '0' :: rest =>
    match rest with
    | c :: _ => if isDigit c then none else some (['0'], rest)
    | [] => some (['0'], [])
  | cs => digits? cs

/-- The part behind the point, if a point follows. A point needs a digit behind it (`digits?`), and
without a point the part is empty. -/
def fraction? : List Char → Option (List Char × List Char)
  | '.' :: rest => (digits? rest).map fun (digits, rest) => ('.' :: digits, rest)
  | cs => some ([], cs)

/-- A sign in front, and the rest. Only the power of ten has a plus sign; in front of a number
`number?` takes a minus sign alone. -/
def sign : List Char → List Char × List Char
  | '+' :: rest => (['+'], rest)
  | '-' :: rest => (['-'], rest)
  | cs => ([], cs)

/-- The power of ten, if one follows. The letter needs a digit behind it, with a sign between them
or none. -/
def exponent? : List Char → Option (List Char × List Char)
  | e :: rest =>
    if e = 'e' || e = 'E' then
      let (mark, rest) := sign rest
      (digits? rest).map fun (digits, rest) => (e :: mark ++ digits, rest)
    else some ([], e :: rest)
  | [] => some ([], [])

/-- A number in front, and the rest. What follows the number is not looked at; the next lexeme
begins there. -/
def number? (cs : List Char) : Option (List Char × List Char) := do
  let (minus, rest) := match cs with
    | '-' :: rest => (['-'], rest)
    | cs => ([], cs)
  let (whole, rest) ← whole? rest
  let (fraction, rest) ← fraction? rest
  let (exponent, rest) ← exponent? rest
  return (minus ++ whole ++ fraction ++ exponent, rest)

/-- The lexeme that begins with `c`, and what follows it. A word has to be spelled in small letters,
and nothing is asked of the character behind it. -/
def lexeme? (c : Char) (rest : List Char) : Option (Token × List Char) :=
  if c = '[' then some (.beginArray, rest)
  else if c = ']' then some (.endArray, rest)
  else if c = '\x7b' then some (.beginObject, rest)
  else if c = '\x7d' then some (.endObject, rest)
  else if c = ',' then some (.comma, rest)
  else if c = ':' then some (.colon, rest)
  else if c = '"' then (quoted? rest).map fun (text, rest) => (.string text, rest)
  else if c = 'n' then
    match rest with
    | 'u' :: 'l' :: 'l' :: rest => some (.null, rest)
    | _ => none
  else if c = 't' then
    match rest with
    | 'r' :: 'u' :: 'e' :: rest => some (.bool true, rest)
    | _ => none
  else if c = 'f' then
    match rest with
    | 'a' :: 'l' :: 's' :: 'e' :: rest => some (.bool false, rest)
    | _ => none
  else (number? (c :: rest)).map fun (written, rest) => (.number (String.ofList written), rest)

/-- The lexemes of the text behind the lexemes `done`, which are written backwards. The number
bounds the characters that are left: every lexeme takes one at least, so `tokens?` starts with a
bound that is never reached. -/
def tokensWithin? (done : List Token) : Nat → List Char → Option (List Token)
  | _, [] => some done.reverse
  | 0, _ => none
  | bound + 1, c :: rest =>
    if isSpace c then tokensWithin? done bound rest
    else
      match lexeme? c rest with
      | some (token, rest) => tokensWithin? (token :: done) bound rest
      | none => none

/-- The lexemes of a text, if it has no other characters. The length of the text bounds their
number, since each has a character at least. -/
def tokens? (cs : List Char) : Option (List Token) :=
  tokensWithin? [] cs.length cs

end WrapperModel.Json
