/-!
# `WrapperModel.Yaml.Character`: classes of characters in documents

A break ends a line. A blank is a space or a tab. Printable characters may stand in a
written document as they are: the line feed, the visible part of the basic set, and all
beyond the second control block but the byte order mark and the two non-characters at the
end of the basic plane. A document that is read may hold a few more, which are accepted.
-/

set_option autoImplicit false

namespace WrapperModel.Yaml

/-- The next-line control, the only one of the second block of controls that a document may hold
(`isAccepted`). -/
def nextLine : Char := '\u0085'

/-- The line separator, which ends a line and stays what it is where `unifyBreaks` rewrites
breaks. -/
def lineSeparator : Char := '\u2028'

/-- The paragraph separator, which `unifyBreaks` leaves alone like the line separator. -/
def paragraphSeparator : Char := '\u2029'

/-- The byte order mark. It may stand at the beginning of a line, where `Lexer.skipBlanks` passes
it, and is never printable. -/
def byteOrderMark : Char := '\ufeff'

/-- The character ends a line. There are five such characters, of which a text whose breaks
`unifyBreaks` has rewritten holds only three. -/
def isBreak (c : Char) : Bool :=
  c = '\r' || c = '\n' || c = nextLine || c = lineSeparator || c = paragraphSeparator

/-- A space or a tab. The tab is not printable (`isPrintable`), so that it never stands in a
document that was written. -/
def isBlank (c : Char) : Bool :=
  c = ' ' || c = '\t'

/-- A blank, a break or the null character, which counts as the end of the text. The dash of an item
is a mark only in front of one of them (`beginsBlank`), and so are some others. -/
def isBlankOrBreak (c : Char) : Bool :=
  isBlank c || isBreak c || c = '\x00'

/-- A blank, a break or the end of the text comes first (`isBlankOrBreak`): what has to follow a
dash that is a mark, and a colon outside of brackets. -/
def beginsBlank : List Char → Bool
  | [] => true
  | c :: _ => isBlankOrBreak c

/-- The character may stand in a written document as it is. It is one of the printable characters of
the document format, without the tab and the two breaks that `unifyBreaks` rewrites. -/
def isPrintable (c : Char) : Bool :=
  c = '\n' || (decide (0x20 ≤ c.toNat) && decide (c.toNat ≤ 0x7E)) ||
    (decide (0xA0 ≤ c.toNat) && c != byteOrderMark && c.toNat != 0xFFFE && c.toNat != 0xFFFF)

/-- The character may stand in a document that is read. Every printable character may
(`isAccepted_of_isPrintable`), and the tab, the other breaks and the byte order mark besides. -/
def isAccepted (c : Char) : Bool :=
  c = '\t' || c = '\n' || c = '\r' || (decide (0x20 ≤ c.toNat) && decide (c.toNat ≤ 0x7E)) ||
    c = nextLine || (decide (0xA0 ≤ c.toNat) && decide (c.toNat ≤ 0xFFFD)) ||
    decide (0x10000 ≤ c.toNat)

/-- A decimal digit. Digits stand in numbers, in versions of a document and behind the bar of a
block. -/
def isDigit (c : Char) : Bool :=
  '0' ≤ c && c ≤ '9'

/-- The number of a hexadecimal digit, in small or in capital letters. The writer uses capitals
alone (`hexDigit`). -/
def hexValue? (c : Char) : Option Nat :=
  if '0' ≤ c && c ≤ '9' then some (c.toNat - 48)
  else if 'a' ≤ c && c ≤ 'f' then some (c.toNat - 87)
  else if 'A' ≤ c && c ≤ 'F' then some (c.toNat - 55)
  else none

/-- A letter, a digit, a hyphen or an underscore of the basic set: what names of anchors
(`anchorName`), of handles and of directives are made of. -/
def isNameChar (c : Char) : Bool :=
  isDigit c || ('a' ≤ c && c ≤ 'z') || ('A' ≤ c && c ≤ 'Z') || c = '-' || c = '_'

end WrapperModel.Yaml
