import WrapperModel.Files.Path

/-!
# `WrapperModel.Files.Store`: what a program does with files

A `FileStore` is a monad in which files can be read and written. The command line is
written for any of them, so that it runs on the files of the machine and on a `FileTree`
alike. An operation that fails gives a `FileError` and does nothing.

Files are found as the program finds them: a directory tells the names of all that stands in
it, and `FileStore.isFile` tells of a path whether a file stands there. The question has no
error: whatever keeps the answer from being found, the answer is no.
-/

set_option autoImplicit false

namespace WrapperModel.Files

/-- Why an operation on files failed. The words of each are those of the system, in
`FileError.message`. -/
inductive FileError where
  /-- Nothing stands there. -/
  | notFound
  /-- A file stands where there should be a directory. -/
  | notDirectory
  /-- A directory stands where there should be a file. -/
  | isDirectory
  /-- Something stands there already. -/
  | alreadyThere
  /-- The path holds a byte that no path may hold. -/
  | badPath
  /-- The path, or one of its names, is longer than paths and names may be. -/
  | tooLong
  /-- The bytes of the file are no text. -/
  | notText
  /-- Anything else, in the words of the machine. -/
  | other (message : String)
  deriving Repr, DecidableEq

/-- The error in words, those of the system for it. -/
def FileError.message : FileError → String
  | .notFound => "No such file or directory (os error 2)"
  | .notDirectory => "Not a directory (os error 20)"
  | .isDirectory => "Is a directory (os error 21)"
  | .alreadyThere => "File exists (os error 17)"
  | .badPath => "file name contained an unexpected NUL byte"
  | .tooLong => "File name too long (os error 36)"
  | .notText => "stream did not contain valid UTF-8"
  | .other message => message

/-- Files that can be read and written. `FileTree` is one, on which runs are reasoned about, and the
files of the machine are another; whatever is written for all of them runs alike on both. -/
class FileStore (m : Type → Type) where
  /-- The bytes of a file. -/
  read (path : Path) : ExceptT FileError m ByteArray
  /-- The names of all that stands in a directory, in any order. -/
  entryNames (path : Path) : ExceptT FileError m (List FileName)
  /-- A file stands there. Where that cannot be found out, the answer is `false`. -/
  isFile (path : Path) : m Bool
  /-- Makes a directory, and those above it that are missing. -/
  createDirectory (path : Path) : ExceptT FileError m Unit
  /-- Puts a text in the place of what a file held. -/
  write (path : Path) (text : String) : ExceptT FileError m Unit

/-- The text of the bytes of a file. Bytes that are not well formed are the error
`FileError.notText`. -/
def textOfBytes (content : ByteArray) : Except FileError String :=
  match String.fromUTF8? content with
  | some text => .ok text
  | none => .error .notText

/-- `textOfBytes` gives back the text of which the bytes were made, so a text that is written can be
read. -/
theorem textOfBytes_toUTF8 (text : String) : textOfBytes text.toUTF8 = .ok text := by
  have h : String.fromUTF8? text.toUTF8 = some text := dif_pos text.isValidUTF8
  rw [textOfBytes, h]

end WrapperModel.Files
