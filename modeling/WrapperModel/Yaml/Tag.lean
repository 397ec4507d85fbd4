/-!
# `WrapperModel.Yaml.Tag`: names for kinds of nodes

A tag is a run of bytes, which need not be those of a text. The standard tags have a common
beginning. A tag that begins with an exclamation mark is one of the document's own, and its
word is what follows the mark, if that is a text.
-/

set_option autoImplicit false

namespace WrapperModel.Yaml

/-- The bytes of a tag. They are bytes because escapes in a tag can spell what is no text. -/
abbrev Tag := List UInt8

namespace Tag

/-- The tag that a text writes, byte by byte. -/
def ofText (s : String) : Tag :=
  s.toUTF8.toList

/-- The tag of bytes, which ends in front of the first zero. An escape can write a zero
(`escapedByte?`), and the tag is cut there. -/
def ofBytes (bytes : List UInt8) : Tag :=
  bytes.takeWhile (· ≠ 0)

/-- The lone exclamation mark. It begins like a tag of the document's own (`Tag.isOwn`) and has an
empty word (`Tag.word?`). -/
def mark : Tag := ofText "!"

/-- What the standard tags begin with. The handle of two exclamation marks stands for it
(`Reader.standardHandles`), so `!!bool` is `Tag.bool`. -/
def standardStart : Tag := ofText "tag:yaml.org,2002:"

/-- The tag of truth values. -/
def bool : Tag := standardStart ++ ofText "bool"

/-- The tag of whole numbers. -/
def int : Tag := standardStart ++ ofText "int"

/-- The tag of other numbers. -/
def float : Tag := standardStart ++ ofText "float"

/-- The tag of values that stand for nothing. -/
def null : Tag := standardStart ++ ofText "null"

/-- The tag begins with an exclamation mark, and is the document's own. Such a tag leaves the
meaning of a plain scalar open (`scalarContent`). -/
def isOwn (tag : Tag) : Bool :=
  tag.head? = some 0x21

/-- The word of a tag of the document's own: what follows the mark, if that is a text. The word
names the case of a choice, as in `Node.tagged`. -/
def word? : Tag → Option String
  | [] => none
  | byte :: rest => if byte = 0x21 then String.fromUTF8? rest.toByteArray else none

end Tag

end WrapperModel.Yaml
