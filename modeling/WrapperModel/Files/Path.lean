import WrapperModel.Text.Bytes
import WrapperModel.Text.Pieces

/-!
# `WrapperModel.Files.Path`: the parts of a path

A `Path` is a string of bytes in which strokes separate the bytes of names. A part that is
empty or a single dot says nothing, save for a dot in front, which is the directory of work.
The bytes of a name need not be those of a text. What is said about a file, in a message or
an address, is said with `nameText`, which is the empty text for such a name.

* `segments` are the parts of a path as they are written.
* `inDirectory` is the path of a name in a directory.
* `isLongPath` and `isLongName` say what is too long for a path and for a name in it.
* `parent` is the path of the directory that holds what a path names. It is asked of paths
  that came as texts, so it works on these.
-/

set_option autoImplicit false

namespace WrapperModel.Files

open WrapperModel.Text (bytes text? split joinWith)

/-- A path as the machine takes it: any bytes, of which a stroke separates the names
(`strokeByte`). -/
abbrev Path := List UInt8

/-- A name of a file or a directory as the machine has it. It need not be a text; `nameText` says
what it is called where a text is wanted. -/
abbrev FileName := List UInt8

/-- The byte that separates the names of a path: a stroke. No `FileName` of a thing that stands in a
tree holds it. -/
def strokeByte : UInt8 := 0x2F

/-- The byte of a dot, with which the extension of a name begins. -/
def dotByte : UInt8 := 0x2E

/-- The name as a text. A name that is none becomes the empty text wherever it is mentioned: in the
list of stems to be skipped, in an address and in an error. -/
def nameText (name : FileName) : String :=
  (text? name).getD ""

/-- The parts between the strokes of a path, as they are written. Empty parts are among them, and
say nothing. -/
def segments (path : Path) : List FileName :=
  path.splitOn strokeByte

/-- The path begins with a stroke, that is, at the root of all files. Any other path begins at the
directory of work. -/
def isAbsolute (path : Path) : Bool :=
  path.head? = some strokeByte

/-- The path is too long: it has more than 4095 bytes. What is at its end cannot be reached under
it, though it may be under a shorter one. -/
def isLongPath (path : Path) : Bool :=
  decide (4096 ≤ path.length)

/-- The name is too long: it has more than 255 bytes. No file has such a name, and a path that holds
one leads nowhere. -/
def isLongName (name : FileName) : Bool :=
  decide (256 ≤ name.length)

/-- The path of a name in a directory. A stroke is put between them where the path of the directory
does not end in one, so the path of the name may be longer than `isLongPath` allows where that of
the directory is not. -/
def inDirectory (directory : Path) (name : FileName) : Path :=
  if directory.getLast? = some strokeByte then directory ++ name
  else directory ++ strokeByte :: name

/-! ### The directory above -/

/-- The parts of a path, last first, from the last one that says something. Empty parts and single
dots say nothing, but a dot in front of all others is kept. -/
def trimSegments : List String → List String
  | [] => []
  | [first] => if first = "" then [] else [first]
  | last :: before => if last = "" || last = "." then trimSegments before else last :: before

/-- The path without its last name. A single name leaves nothing, which stands for the directory of
work, and below the root of all files there is only the root. -/
def parent (path : String) : String :=
  match trimSegments ((trimSegments (split '/' path).reverse).drop 1) with
  | [] => if isAbsolute (bytes path) then "/" else ""
  | above => joinWith "/" above.reverse

end WrapperModel.Files
