import Std.Time.DateTime
import WrapperModel.CommandLine.Run

/-!
# `WrapperModel.Main`: the program on the files of the machine

The files of the machine are a store of files. The program reads its arguments, the setting
of its log and the year, runs in that store, and gives out what comes of it.

Names of files come from the runtime as texts, and bytes that are none have been replaced in
them. So a file whose name is no text is found here under another name, under which no file
stands, and is passed over; `Definition.Catalogue.load` itself treats such names by their bytes.
-/

set_option autoImplicit false

namespace WrapperModel

open WrapperModel.Files (FileError FileName FileStore Path)
open WrapperModel.Text (bytes text?)

/-- The cause that the machine gives for an error. The number for a name that is too long comes with
either sign, and what has no name of its own in `FileError` keeps its words. -/
def fileErrorOf : IO.Error → FileError
  | .noFileOrDirectory .. => .notFound
  | .alreadyExists .. => .alreadyThere
  | .inappropriateType _ 21 _ => .isDirectory
  | .inappropriateType _ 20 _ => .notDirectory
  | reason@(.invalidArgument _ code _) =>
    if code = 36 || code = -36 then .tooLong else .other (toString reason)
  | reason => .other (toString reason)

/-- An operation on the files of the machine. A path that is empty or has a zero in it is refused
before the machine is asked. The runtime takes paths as texts only, so a path that is none is
refused here as well. -/
def onMachine {α : Type} (path : Path) (operation : String → IO α) : ExceptT FileError IO α :=
  ExceptT.mk do
    if path = [] then return .error .notFound
    else if path.contains 0 then return .error .badPath
    else
      match text? path with
      | none => return .error (.other "path is not valid UTF-8")
      | some path =>
        try return .ok (← operation path)
        catch reason => return .error (fileErrorOf reason)

/-- The names of all that stands in a directory of the machine. The entry that is made of the
path serves only to have it as the runtime wants it. -/
def entryNamesIn (path : String) : IO (List FileName) := do
  let entries ← (IO.FS.DirEntry.mk path "").root.readDir
  return entries.toList.map fun entry => bytes entry.fileName

/-- A file stands there. What the path names is followed to where it leads, and an error on the
way means that no file is there. -/
def isFileAt (path : String) : IO Bool := do
  try return (← (IO.FS.DirEntry.mk path "").root.metadata).type == .file
  catch _ => return false

instance : FileStore IO where
  read path := onMachine path fun path => IO.FS.readBinFile path
  entryNames path := onMachine path entryNamesIn
  isFile path := do
    match ← (onMachine path isFileAt).run with
    | .ok answer => return answer
    | .error _ => return false
  createDirectory path := onMachine path fun path => IO.FS.createDirAll path
  write path text := onMachine path fun path => IO.FS.writeFile path text

/-- The present year, counted in the time of Greenwich. -/
def presentYear : IO Nat := do
  let today := Std.Time.PlainDate.ofEpochDay (← Std.Time.Timestamp.now).toDaysSinceUnixEpoch
  return today.year.toInt.toNat

end WrapperModel

/-- Runs the program once: `CommandLine.run` on the files of the machine, in the surroundings that
the machine gives. The two streams are written after the run and not while it goes on. -/
def main (arguments : List String) : IO UInt32 := do
  let setting ← IO.getEnv "RUST_LOG"
  let outcome ← WrapperModel.CommandLine.run ⟨setting, ← WrapperModel.presentYear⟩ arguments
  (← IO.getStdout).putStr outcome.stdout
  (← IO.getStderr).putStr outcome.stderr
  return outcome.exitCode.toUInt32
