import WrapperModel.Yaml.Resolution

/-!
# `WrapperModel.Yaml.Style`: how a text is written in a document

A text is written plainly where that is allowed and reads back as the same text. A text
of several lines is written as a block, and the others between single quotes. What
neither can express goes between double quotes with escapes.

`styleOf` makes the choice from the features of the text, and `plainAllowed`,
`singleQuotedAllowed` and `blockAllowed` say which forms can express it.
-/

set_option autoImplicit false

namespace WrapperModel.Yaml

/-- The forms of a scalar that are written (`styleOf`). Folded blocks are read but never written. -/
inductive Style where
  | plain
  | singleQuoted
  | doubleQuoted
  | literal
  deriving Repr, DecidableEq

/-! ### Features of a text -/

/-- Somewhere a character of the first kind is followed by one of the second. Two such pairs of
spaces and breaks (`hasSpaceBreak`, `hasBreakSpace`) decide which forms a text can have. -/
def adjacent (p q : Char → Bool) : List Char → Bool
  | a :: b :: rest => (p a && q b) || adjacent p q (b :: rest)
  | _ => false

/-- Characters that have a meaning of their own at the beginning of a plain scalar. The dash, the
colon and the question mark have one only in front of a blank, and are left to
`beginsLikeIndicator`. -/
def isIndicator (c : Char) : Bool :=
  ['#', ',', '[', ']', '\x7b', '\x7d', '&', '*', '!', '|', '>', '\'', '"', '%', '@',
    '\x60'].contains c

/-- A mark of a document's beginning or end in front. It would be taken for one only in the first
column and before a blank (`atMarker`), but such a text is quoted wherever it stands. -/
def beginsLikeMarker (cs : List Char) : Bool :=
  ['-', '-', '-'].isPrefixOf cs || ['.', '.', '.'].isPrefixOf cs

/-- The first character would not be read as part of a plain scalar: it is an indicator, or one of
three signs with a blank behind it. -/
def beginsLikeIndicator : List Char → Bool
  | [] => false
  | c :: rest => isIndicator c || ((c = '?' || c = ':' || c = '-') && beginsBlank rest)

/-- A colon with a blank behind it, or a hash with a blank in front of it, would end a plain scalar.
The flag `afterBlank` says whether a blank stands in front of the text, as it does at its
beginning. -/
def hasInnerIndicator (afterBlank : Bool) : List Char → Bool
  | [] => false
  | c :: rest =>
    (c = ':' && beginsBlank rest) || (c = '#' && afterBlank) ||
      hasInnerIndicator (isBlankOrBreak c) rest

/-- The text would not be read as one plain scalar, for one of the three reasons above.
`plainAllowed` excludes them all. -/
def hasIndicator (cs : List Char) : Bool :=
  beginsLikeMarker cs || beginsLikeIndicator cs || hasInnerIndicator true cs

/-- A space directly in front of a break, which the reader would drop (`Gap.addBreak`). Only double
quotes can keep it. -/
def hasSpaceBreak (cs : List Char) : Bool :=
  adjacent (· = ' ') isBreak cs

/-- A space directly behind a break. Between single quotes it would be taken for indentation
(`Gap.addBlank`); a block can keep it. -/
def hasBreakSpace (cs : List Char) : Bool :=
  adjacent isBreak (· = ' ') cs

/-- Every character may stand in the document as it is (`isPrintable`). All forms but the double
quotes need it. -/
def allPrintable (cs : List Char) : Bool :=
  cs.all isPrintable

/-! ### Allowed forms -/

/-- Between single quotes a text keeps its meaning. Breaks are allowed, but no spaces around them
(`hasSpaceBreak`, `hasBreakSpace`). -/
def singleQuotedAllowed (cs : List Char) : Bool :=
  allPrintable cs && !hasSpaceBreak cs && !hasBreakSpace cs

/-- A space or a break. Neither may stand at the ends of a plain scalar (`plainAllowed`), and either
in front of a block hides its indentation (`indentationHint`). -/
def isSpaceOrBreak (c : Char) : Bool :=
  c = ' ' || isBreak c

/-- Without quotes a text keeps its meaning as a text. Whether it is then taken for a text at all is
the question of `readsAsOther`. -/
def plainAllowed (cs : List Char) : Bool :=
  allPrintable cs && !cs.any isBreak && !cs.head?.any isSpaceOrBreak &&
    !cs.getLast?.any isSpaceOrBreak && !hasIndicator cs

/-- As a block a text keeps its meaning. A space at its very end is excluded, and with it the empty
text, and so is a space in front of a break (`hasSpaceBreak`). -/
def blockAllowed (cs : List Char) : Bool :=
  allPrintable cs && !hasSpaceBreak cs && cs.getLast?.any (· != ' ')

/-- Without quotes the text would stand for something else (`resolve`), or other readers might take
it for a number. -/
def readsAsOther (cs : List Char) : Bool :=
  resolve cs != .text || hasLeadingZero cs

/-- Single quotes, or double quotes where single ones do not do (`singleQuotedAllowed`). Double
quotes can express every text. -/
def quotedStyle (cs : List Char) : Style :=
  if singleQuotedAllowed cs then .singleQuoted else .doubleQuoted

/-- The form in which a text is written. Only a line feed makes a block (`blockAllowed`); the other
breaks go between quotes (`quotedStyle`). -/
def styleOf (cs : List Char) : Style :=
  if cs.contains '\n' then
    if blockAllowed cs then .literal else .doubleQuoted
  else if readsAsOther cs || !plainAllowed cs then quotedStyle cs
  else .plain

end WrapperModel.Yaml
