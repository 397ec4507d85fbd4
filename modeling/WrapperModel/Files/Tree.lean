import WrapperModel.Files.Path
import WrapperModel.Files.Store

/-!
# `WrapperModel.Files.Tree`: files as a value

A `FileTree` holds all that stands below the root of the files, and says which directory is
the directory of work. A `Place` is the list of names that leads to something from the root,
which is itself the empty list.

`FileTree.place` finds the place that a path names. A path that begins with a stroke sets out
from the root and any other from the directory of work. On the way everything has to be a
directory, and what stands at the end is left to the operation.
-/

set_option autoImplicit false

namespace WrapperModel.Files

open WrapperModel.Text (bytes)

/-- What stands at a place: a file with its bytes, or a directory. There are no links, so a thing
stands at one place only. -/
inductive Entry where
  | file (content : ByteArray)
  | directory

/-- A directory stands there, so a path can lead on (`FileTree.stepInto`). -/
def Entry.isDirectory : Entry → Bool
  | .file _ => false
  | .directory => true

/-- A file stands there, whatever it holds. A directory is none, whatever its name is, which is what
`FileTree.isFile` asks. -/
def Entry.isFile : Entry → Bool
  | .file _ => true
  | .directory => false

/-- The names that lead to a place from the root, outermost first. Places are what paths lead to:
many paths lead to one place. -/
abbrev Place := List FileName

/-- The files and directories below the root, as they are at one time. Nothing is asked of the
entries here; `FileTree.IsProper` says which trees can be. -/
structure FileTree where
  /-- What stands where. Of two things at one place the first counts. -/
  entries : List (Place × Entry) := []
  /-- The place of the directory of work. -/
  work : Place := []
  deriving Inhabited

namespace FileTree

/-- What stands at a place, if anything does. The root is always there, though it is not among the
entries. -/
def get? (tree : FileTree) (place : Place) : Option Entry :=
  match place with
  | [] => some .directory
  | place => tree.entries.lookup place

/-- The tree with something at a place, where nothing or a file stood before. What stood there goes,
so that places stay distinct. -/
def put (tree : FileTree) (place : Place) (entry : Entry) : FileTree :=
  { tree with
    entries := (place, entry) :: tree.entries.filter fun other => other.1 ≠ place }

/-- What was `put` at a place stands there. The root is excluded, because `get?` does not look
for it among the entries. -/
theorem get?_put_self (tree : FileTree) {place : Place} (entry : Entry) (h : place ≠ []) :
    (tree.put place entry).get? place = some entry := by
  cases place with
  | nil => exact absurd rfl h
  | cons name rest => simp [get?, put]

/-- Taking away the entries of one place leaves what is found at another one. This is the case of
`get?_put_of_ne` that is not about the new entry. -/
theorem lookup_filter_ne {place other : Place} (h : other ≠ place)
    (entries : List (Place × Entry)) :
    (entries.filter fun e => e.1 ≠ place).lookup other = entries.lookup other := by
  induction entries with
  | nil => rfl
  | cons e es ih =>
    by_cases he : e.1 = place
    · rw [List.filter_cons_of_neg (by simp [he]), ih, List.lookup_cons,
        show (other == e.1) = false by simp [he, h]]
    · rw [List.filter_cons_of_pos (by simp [he]), List.lookup_cons, List.lookup_cons, ih]

/-- `put` changes nothing at other places. -/
theorem get?_put_of_ne (tree : FileTree) {place other : Place} (entry : Entry)
    (h : other ≠ place) : (tree.put place entry).get? other = tree.get? other := by
  cases other with
  | nil => rfl
  | cons name rest =>
    have hne : (name :: rest == place) = false := by simp [h]
    simp only [get?, put, List.lookup_cons, hne]
    exact lookup_filter_ne h tree.entries

/-! ### Paths -/

/-- The place to which a part of a path leads from another one, which has to be a directory. A name
that is too long is refused where it is looked up, so not below a directory that is missing. Two
dots lead up, and from the root nowhere else. -/
def stepInto (tree : FileTree) (place : Place) (segment : FileName) : Except FileError Place :=
  match tree.get? place with
  | none => .error .notFound
  | some (.file _) => .error .notDirectory
  | some .directory =>
    if segment = [] || segment = [dotByte] then .ok place
    else if segment = [dotByte, dotByte] then .ok place.dropLast
    else if isLongName segment then .error .tooLong
    else .ok (place ++ [segment])

/-- Refuses a path that cannot name anything, before any part of it is looked at: one with a zero in
it or one that is too long. -/
def check (path : Path) : Except FileError Unit :=
  if path.contains 0 then .error .badPath
  else if isLongPath path then .error .tooLong
  else .ok ()

/-- The place from which a path sets out: the root if it `isAbsolute`, or else the directory of
work. -/
def origin (tree : FileTree) (path : Path) : Place :=
  if isAbsolute path then [] else tree.work

/-- The steps on the way that a path goes, from `start` on. The empty path goes no way at all and
finds nothing. What a step does is left open, since some only look and `createInto` makes
directories. -/
def walk {σ : Type} (path : Path) (start : σ) (step : σ → FileName → Except FileError σ) :
    Except FileError σ := do
  check path
  if path = [] then throw .notFound
  else (segments path).foldlM step start

/-- The place that a path names. Everything on the way has to be a directory, but nothing has to
stand at the end. -/
def place (tree : FileTree) (path : Path) : Except FileError Place :=
  walk path (tree.origin path) tree.stepInto

/-! ### Operations -/

/-- The bytes of the file to which a path leads (`FileTree.place`). A directory cannot be read, and
the error says so. -/
def read (tree : FileTree) (path : Path) : Except FileError ByteArray := do
  match tree.get? (← tree.place path) with
  | some (.file content) => return content
  | some .directory => throw .isDirectory
  | none => throw .notFound

/-- A file stands where the path leads. A path that leads nowhere, for whatever reason, names no
file: here a path that is too long is not told from one at which nothing stands. -/
def isFile (tree : FileTree) (path : Path) : Bool :=
  match tree.place path with
  | .ok place => (tree.get? place).any Entry.isFile
  | .error _ => false

/-- The name of something that stands in the directory itself, and not deeper: its place is that of
the directory with one name more. -/
def nameIn? (directory : Place) (thing : Place × Entry) : Option FileName :=
  match thing.1.getLast? with
  | some name => if thing.1 = directory ++ [name] then some name else none
  | none => none

/-- The names of all that stands in a directory, files or not (`nameIn?`), in the order in which the
tree has them. The machine may list them in any order as well. -/
def entryNames (tree : FileTree) (path : Path) : Except FileError (List FileName) := do
  let place ← tree.place path
  match tree.get? place with
  | some .directory => return tree.entries.filterMap (nameIn? place)
  | some (.file _) => throw .notDirectory
  | none => throw .notFound

/-- The path ends in a stroke, so it can name a directory only. `write` refuses such a path. -/
def endsInStroke (path : Path) : Bool :=
  path.getLast? = some strokeByte

/-- The path without the strokes at its end. Strokes alone name the root and are kept. -/
def withoutStrokes (path : Path) : Path :=
  match path.reverse.dropWhile (· = strokeByte) with
  | [] => path
  | kept => kept.reverse

/-- Puts bytes in the place of what a file held. The directory of the file has to be there, and
neither may a directory stand in its place nor the path end in a stroke. -/
def write (tree : FileTree) (path : Path) (content : ByteArray) :
    Except FileError FileTree := do
  check path
  let place ← tree.place (withoutStrokes path)
  if endsInStroke path || (tree.get? place).any Entry.isDirectory then throw .isDirectory
  else return tree.put place (.file content)

/-- Makes the directory to which a part of a path leads, where it is missing, and goes into it.
Where a file stands nothing is made, and the next step or the end of the path fails. -/
def createInto (state : FileTree × Place) (segment : FileName) :
    Except FileError (FileTree × Place) := do
  let (tree, place) := state
  let next ← tree.stepInto place segment
  match tree.get? next with
  | none => return (tree.put next .directory, next)
  | some _ => return (tree, next)

/-- Makes a directory, and those above it that are missing. A directory that is there already is no
error, but a file is. -/
def createDirectory (tree : FileTree) (path : Path) : Except FileError FileTree := do
  let (tree, place) ← walk path (tree, tree.origin path) createInto
  if (tree.get? place).any Entry.isDirectory then return tree else throw .alreadyThere

end FileTree

/-! ### The tree as a store -/

/-- Looks something up in the tree, which stays as it is. The operations that read and can fail are
made with it; `isFile` cannot. -/
def lookUp {α : Type} (find : FileTree → Except FileError α) :
    ExceptT FileError (StateM FileTree) α :=
  ExceptT.mk fun tree => (find tree, tree)

/-- Changes the tree. A change that fails leaves it as it is, since its result is the tree before.
All writing operations are made with it. -/
def alter (change : FileTree → Except FileError FileTree) :
    ExceptT FileError (StateM FileTree) Unit :=
  ExceptT.mk fun tree =>
    match change tree with
    | .ok changed => (.ok (), changed)
    | .error reason => (.error reason, tree)

instance : FileStore (StateM FileTree) where
  read path := lookUp (·.read path)
  entryNames path := lookUp (·.entryNames path)
  isFile path := fun tree => (tree.isFile path, tree)
  createDirectory path := alter (·.createDirectory path)
  write path text := alter (·.write path text.toUTF8)

end WrapperModel.Files
