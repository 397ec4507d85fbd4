import WrapperModel.Definition.Document
import WrapperModel.Definition.Provenance
import WrapperModel.Files.Path
import WrapperModel.Files.Store

/-!
# `WrapperModel.Definition.Catalogue`: the definitions in a directory

A directory documents a tool by one file for every command. A file counts if its name is
a stem that holds something, a dot, and one of two extensions. The files are taken in the
order of their names, and those whose stem is to be skipped are not even opened.

A name is bytes, and wherever a document is mentioned its name is a text: in the list of
stems to be skipped, in the address of a definition and in an error. A name that is no text
is mentioned as the empty text.

* `documentStem?` tells which names count, and what is left of them without the extension.
* `Catalogue.ofDocuments` reads documents; the first that is no definition decides the
  error.
* `Catalogue.load` takes the documents from a directory.
-/

set_option autoImplicit false

namespace WrapperModel.Definition

open WrapperModel.Files (FileStore FileError FileName dotByte nameText inDirectory textOfBytes)
open WrapperModel.Text (bytes)

/-! ### Names of files -/

/-- The parts of a name before and after its last dot. A dot in front begins no extension, so a name
like `.yaml` has none. -/
def stemAndExtension? (name : FileName) : Option (FileName × FileName) :=
  match name.reverse.dropWhile (· ≠ dotByte) with
  | _ :: first :: stem =>
    some ((first :: stem).reverse, (name.reverse.takeWhile (· ≠ dotByte)).reverse)
  | _ => none

/-- The extensions of documents, as they are written (`isDocumentName`). Other letter cases are
other extensions. -/
def documentExtensions : List String :=
  ["yaml", "yml"]

/-- The name without its extension, if it is the name of a document. The extension has to be
one of the `documentExtensions`; the stem may hold any bytes, those of a text or not. -/
def documentStem? (name : FileName) : Option FileName :=
  match stemAndExtension? name with
  | some (stem, extension) =>
    if (documentExtensions.map bytes).contains extension then some stem else none
  | none => none

/-- The name is that of a document (`documentStem?`). Whether a file stands under it is asked
apart. -/
def isDocumentName (name : FileName) : Bool :=
  (documentStem? name).isSome

/-- The stem of a document as a text. Skipping goes by it, so that a stem which is no text is
skipped like the empty text. -/
def stemText? (name : FileName) : Option String :=
  (documentStem? name).map nameText

/-- The document is to be skipped: the text of its stem is in the list. A name that is no document's
is never skipped. -/
def isSkipped (skip : List String) (name : FileName) : Bool :=
  (stemText? name).any skip.contains

/-! ### Catalogues -/

/-- Why a directory gives no catalogue. `CatalogueError.message` says it in words. -/
inductive CatalogueError where
  /-- The directory or a file in it cannot be read. -/
  | unread (reason : FileError)
  /-- A document is no definition. The file is mentioned by the text of its name. -/
  | invalid (file : String) (reason : DefinitionError)
  /-- No definition is there. -/
  | noDefinitions (path : String)
  deriving Repr, DecidableEq

/-- What is said of a file or directory that cannot be read. It is not named, only the reason is
(`FileError.message`). -/
def unreadFile (reason : FileError) : String :=
  "I/O error: " ++ reason.message

/-- The error in words, as the command line shows it. A bad document is named
(`invalidDefinition`). -/
def CatalogueError.message : CatalogueError → String
  | .unread reason => unreadFile reason
  | .invalid file reason => invalidDefinition file reason
  | .noDefinitions path => "no definitions found in " ++ path

/-- A file of a directory with what reading it gave. Reading it may have failed, which becomes an
error where the document is taken in its turn. -/
structure FoundDocument where
  /-- The name as a text, under which the document is stamped and reported. -/
  name : String
  /-- The bytes of the file, or why they could not be read. -/
  content : Except FileError ByteArray

/-- The definition in a document, stamped with the address that `referenceUrl` makes of its name.
Bytes that are no text are an error of reading, which does not mention the file; whatever else is
wrong with it mentions it. -/
def FoundDocument.definition (template reference : String) (document : FoundDocument) :
    Except CatalogueError CommandDefinition := do
  let text ← (document.content.bind textOfBytes).mapError .unread
  let address := referenceUrl template reference document.name
  (CommandDefinition.ofDocument text address).mapError (.invalid document.name)

/-- The definitions of a directory with the directory itself and what was left out of it. -/
structure Catalogue where
  /-- The directory. -/
  path : String
  /-- The definitions in the order of their files. -/
  definitions : List CommandDefinition
  /-- The stems of the files that were skipped, as texts and in the order of the files. -/
  skipped : List String

namespace Catalogue

/-- The catalogue of the documents that were found. The first of them that cannot be read decides
the error, and that there are none is an error too. What was skipped is only carried along. -/
def ofDocuments (path template reference : String) (skipped : List String)
    (documents : List FoundDocument) : Except CatalogueError Catalogue := do
  let definitions ← documents.mapM (FoundDocument.definition template reference)
  if definitions.isEmpty then throw (.noDefinitions path)
  else return { path, definitions, skipped }

/-- The catalogue of a directory. Of the names of documents those are taken under which a
file is found, in the order of their bytes; what is no file, or cannot be looked at, is passed
over without a word. The files whose stems are to be skipped are not opened. -/
def load {m : Type → Type} [Monad m] [FileStore m] (path template reference : String)
    (skip : List String) : ExceptT CatalogueError m Catalogue := do
  let pathOf := inDirectory (bytes path)
  let entries ← (FileStore.entryNames (m := m) (bytes path)).adapt .unread
  let files ← (entries.filter isDocumentName).filterM fun name =>
    return ← (FileStore.isFile (pathOf name) : m Bool)
  let names := files.mergeSort
  let skipped := (names.filter (isSkipped skip)).filterMap stemText?
  let kept := names.filter fun name => !isSkipped skip name
  let documents ← kept.mapM fun name => do
    let content ← (FileStore.read (m := m) (pathOf name)).run
    return ({ name := nameText name, content } : FoundDocument)
  ofDocuments path template reference skipped documents

end Catalogue

end WrapperModel.Definition
