import WrapperModel.Yaml.Character

/-!
# `WrapperModel.Yaml.Resolution`: what a plain scalar stands for

A scalar without quotes stands for nothing, a truth value, a number or its own text.
`resolve` decides by the core schema:

* nothing is the empty scalar, `null` in three spellings, or a tilde;
* truth values are `true` and `false` in three spellings each;
* whole numbers are decimal, or hexadecimal, octal or binary behind `0x`, `0o` or `0b`,
  with a sign in front; numbers that need more than 64 bits are told apart, and those
  that need more than 128 are not whole numbers;
* a zero in front of further digits makes a text, such as `007`;
* other numbers have a point or an exponent, or are one of the spellings of infinity and
  of no number; a decimal number too large for a double is a text.
-/

set_option autoImplicit false

namespace WrapperModel.Yaml

/-- What a plain scalar stands for (`resolve`). The values of numbers are not kept, because no field
holds one: it is enough that they are no texts. -/
inductive Resolved where
  | null
  | bool (value : Bool)
  /-- A number that a word of 64 bits or a double holds. -/
  | number
  /-- A whole number that needs more than 64 bits, but not more than 128. -/
  | wideNumber
  | text
  deriving Repr, DecidableEq

/-! ### Nothing and truth values -/

/-- One of the explicit spellings of nothing. The empty scalar is another one, which `optionalText`
treats apart where there is a tag. -/
def isNullWord (cs : List Char) : Bool :=
  ["null".toList, "Null".toList, "NULL".toList, ['~']].contains cs

/-- The truth value of a spelling. Mixed cases such as `tRue` are texts, and so are the words `yes`
and `no`, which `readsAsOther` therefore leaves without quotes. -/
def boolWord? (cs : List Char) : Option Bool :=
  if ["true".toList, "True".toList, "TRUE".toList].contains cs then some true
  else if ["false".toList, "False".toList, "FALSE".toList].contains cs then some false
  else none

/-! ### Whole numbers -/

/-- The characters behind a sign, if one stands in front. A second sign stays, so that a number with
two is none. -/
def dropSign : List Char → List Char
  | '+' :: rest => rest
  | '-' :: rest => rest
  | cs => cs

/-- Digits that begin with a superfluous zero, with or without a sign. They are no number to this
reader, and `styleOf` quotes them because they are one to others. -/
def hasLeadingZero (cs : List Char) : Bool :=
  match dropSign cs with
  | '0' :: c :: rest => (c :: rest).all isDigit
  | _ => false

/-- The number that digits of a base denote (`hexValue?`). There has to be one digit at least, and
all have to be digits of the base. -/
def digitsValue? (base : Nat) (cs : List Char) : Option Nat :=
  if cs.isEmpty then none
  else
    cs.foldlM (fun value c =>
      (hexValue? c).bind fun digit =>
        if digit < base then some (value * base + digit) else none) 0

/-- The number that digits denote, behind the mark of their base or none (`digitsValue?`). A mark
with no digits behind it is no number. -/
def magnitude? : List Char → Option Nat
  | '0' :: 'x' :: rest => digitsValue? 16 rest
  | '0' :: 'o' :: rest => digitsValue? 8 rest
  | '0' :: 'b' :: rest => digitsValue? 2 rest
  | cs => digitsValue? 10 cs

/-- The whole number that a scalar writes, of any size. A sign may stand in front of the mark of a
base (`magnitude?`). -/
def wholeNumber? (cs : List Char) : Option Int :=
  if hasLeadingZero cs then none
  else
    match cs with
    | '-' :: rest => (magnitude? rest).map fun n => -(n : Int)
    | '+' :: rest => (magnitude? rest).map fun n => (n : Int)
    | _ => (magnitude? cs).map fun n => (n : Int)

/-- The number lies between the least signed and the greatest unsigned one of that many bits, so
that a word of that size holds it in one of the two ways. `resolve` asks it for 64 and for 128
bits. -/
def fitsBits (bits : Nat) (n : Int) : Bool :=
  decide (-(Nat.pow 2 (bits - 1) : Int) ≤ n) && decide (n < (Nat.pow 2 bits : Int))

/-! ### Other numbers -/

/-- A decimal number: its digits as one whole number, and the power of ten to multiply it with. It
is exact, whatever the number of digits, so that `isFinite` can compare it. -/
structure Decimal where
  digits : Nat
  power : Int
  deriving Repr, DecidableEq

/-- The exponent that follows `e` or `E`, zero where nothing follows. The letter without digits
behind it makes the scalar a text. -/
def exponent? : List Char → Option Int
  | [] => some 0
  | e :: rest =>
    if e = 'e' || e = 'E' then
      match rest with
      | '-' :: digits =>
        if digits.all isDigit then (digitsValue? 10 digits).map fun n => -(n : Int) else none
      | '+' :: digits =>
        if digits.all isDigit then (digitsValue? 10 digits).map fun n => (n : Int) else none
      | digits =>
        if digits.all isDigit then (digitsValue? 10 digits).map fun n => (n : Int) else none
    else none

/-- The decimal number that a scalar without its sign writes: digits with a point among them, before
or behind them or nowhere, and an exponent. A point alone is no number. Whether the number is finite
is asked apart (`Decimal.isFinite`). -/
def decimal? (cs : List Char) : Option Decimal :=
  let whole := cs.takeWhile isDigit
  let rest := cs.dropWhile isDigit
  let (fraction, rest) :=
    match rest with
    | '.' :: tail => (tail.takeWhile isDigit, tail.dropWhile isDigit)
    | _ => ([], rest)
  match digitsValue? 10 (whole ++ fraction), exponent? rest with
  | some digits, some exponent => some ⟨digits, exponent - fraction.length⟩
  | _, _ => none

/-- The number is less than the half-way point above the greatest double, so that the nearest double
is finite. The two bounds on its size spare the comparison of enormous powers. -/
def Decimal.isFinite (d : Decimal) : Bool :=
  let size : Int := (Nat.toDigits 10 d.digits).length
  if d.digits = 0 then true
  else if size + d.power ≤ 308 then true
  else if 310 ≤ size + d.power then false
  else
    decide (d.digits * Nat.pow 10 d.power.toNat <
      (Nat.pow 2 1024 - Nat.pow 2 970) * Nat.pow 10 (-d.power).toNat)

/-- The scalar writes a number with a point or an exponent (`decimal?`), infinity, or no number. The
words are matched exactly, and those for no number take no sign. -/
def isFloat (cs : List Char) : Bool :=
  let word := String.ofList cs
  if [".inf", ".Inf", ".INF", "+.inf", "+.Inf", "+.INF", "-.inf", "-.Inf", "-.INF", ".nan", ".NaN",
      ".NAN"].contains word then true
  else (decimal? (dropSign cs)).any Decimal.isFinite

/-! ### All together -/

/-- What a plain scalar stands for, by the first of the cases that applies. A number of more than
128 bits is no `wholeNumber?` any more, but it is still a number with its digits (`isFloat`). -/
def resolve (cs : List Char) : Resolved :=
  if cs.isEmpty || isNullWord cs then .null
  else
    match boolWord? cs with
    | some value => .bool value
    | none =>
      if (wholeNumber? cs).any (fitsBits 64) then .number
      else if (wholeNumber? cs).any (fitsBits 128) then .wideNumber
      else if hasLeadingZero cs then .text
      else if isFloat cs then .number
      else .text

end WrapperModel.Yaml
