import WrapperModel.Text.CodeRun
import WrapperModel.Text.Pieces

/-!
# `WrapperModel.Text.Blank`: white space, trimming and words

White space is the `White_Space` property of the character standard: the controls
from tab to carriage return, the space, the next-line control, and the spaces and
separators beyond Latin-1. It holds neither the zero-width space nor the byte order
mark.

* `trim` drops white space at both ends.
* `words` are the maximal runs of other characters.
* `isBlankText` says that nothing but white space is there.
-/

set_option autoImplicit false

namespace WrapperModel.Text

/-- The `White_Space` property, ten runs in all. `isBlank` asks for it, and
`not_isBlank_of_mem_upperChar` compares the tables of the letter cases with it. -/
def blankRuns : List CodeRun :=
  [⟨0x9, 0xD, 1⟩, ⟨0x20, 0x20, 1⟩, ⟨0x85, 0x85, 1⟩, ⟨0xA0, 0xA0, 1⟩, ⟨0x1680, 0x1680, 1⟩,
    ⟨0x2000, 0x200A, 1⟩, ⟨0x2028, 0x2029, 1⟩, ⟨0x202F, 0x202F, 1⟩, ⟨0x205F, 0x205F, 1⟩,
    ⟨0x3000, 0x3000, 1⟩]

/-- The character is white space, in the sense of `blankRuns`. No smaller notion is used for names,
words and comments: a text with nothing but a no-break space in it counts as blank. -/
def isBlank (c : Char) : Bool :=
  onRuns blankRuns c

/-- The characters without those at both ends that satisfy the test. The tests in use are white
space and the marks that stand around a placeholder. -/
def strip (p : Char → Bool) (cs : List Char) : List Char :=
  ((cs.dropWhile p).reverse.dropWhile p).reverse

/-- The text without the characters at both ends that satisfy the test, by `strip`. -/
def trimWhere (p : Char → Bool) (s : String) : String :=
  String.ofList (strip p s.toList)

/-- The text without white space at both ends, `isBlank` being the test. White space inside is
kept. -/
def trim (s : String) : String :=
  trimWhere isBlank s

/-- The text holds nothing but white space. The empty text is blank, and `trim` leaves nothing of a
blank one. -/
def isBlankText (s : String) : Bool :=
  s.toList.all isBlank

/-- The maximal runs of characters that are not white space, in order. Blanks at the ends and
several blanks between words make no difference, and a blank text has no words. -/
def words (s : String) : List String :=
  (runsWithout isBlank s.toList).map String.ofList

end WrapperModel.Text
