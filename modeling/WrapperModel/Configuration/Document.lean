import WrapperModel.Configuration.Basic
import WrapperModel.Files.Store
import WrapperModel.Model.Document
import WrapperModel.Profile.Json
import WrapperModel.Yaml.Decode
import WrapperModel.Yaml.Tree.Reader

/-!
# `WrapperModel.Configuration.Document`: configurations as documents

A configuration is a mapping of sections, each a mapping of its own. Sections and fields
may be missing, other keys are passed over, and an unset text is the word for nothing.

* `Configuration.document` writes every field.
* `Configuration.ofText` reads a document.
* `Configuration.load` and `Configuration.save` do so with files.
-/

set_option autoImplicit false

namespace WrapperModel

open WrapperModel.Model (OutputFormat textNodes)
open WrapperModel.Yaml (Tag Tree Node Reading ReadError Document isNullWord)
open WrapperModel.Files (FileStore FileError textOfBytes)
open WrapperModel.Text (bytes)

/-! ### Writing -/

/-- A text, or the word for nothing. A text that looks like that word is written in quotes by
`styleOf`. -/
def optionalNode (s : Option String) : Node :=
  match s with
  | some s => .text s
  | none => .word "null"

/-- The profile of a tool as a mapping, with all its fields in the order of `ToolProfile.keys`. -/
def ToolProfile.node (profile : ToolProfile) : Node :=
  .mapping
    [("name", .text profile.name),
      ("executable", .text profile.executable),
      ("help", optionalNode profile.help),
      ("official_url", optionalNode profile.officialUrl),
      ("license", textNodes profile.license),
      ("options_marker", .text profile.optionsMarker)]

/-- The settings for definitions as a mapping. No list of skipped stems is written as an empty one,
which is not the list by default. -/
def SourceSettings.node (source : SourceSettings) : Node :=
  .mapping
    [("path", .text source.path),
      ("reference", .text source.reference),
      ("reference_url", .text source.referenceUrl),
      ("skip", textNodes source.skip)]

/-- The settings for the model as a mapping. The form is written as its word (`OutputFormat.word`),
which needs no quotes. -/
def OutputSettings.node (output : OutputSettings) : Node :=
  .mapping [("path", optionalNode output.path), ("format", .text output.format.word)]

/-- A configuration as a document. Every field is written, defaults too, so that reading needs none
of them. -/
def Configuration.document (configuration : Configuration) : String :=
  Yaml.document
    [("version", .text configuration.version),
      ("tool", configuration.tool.node),
      ("definitions", configuration.source.node),
      ("output", configuration.output.node)]

/-! ### Reading -/

/-- The fields of a section with the depth that is left for them. Keys that are no fields are passed
over, and a field that comes twice is refused. -/
def sectionFields (keys : List String) (depth : Nat) (tree : Tree) :
    Reading (List (String × Tree) × Nat) := do
  let (entries, depth) ← Reading.entries depth tree
  return ((← Reading.splitFields keys entries).1, depth)

/-- The profile in a section. A missing field is that of Docker, the default of `ToolProfile`. -/
def ToolProfile.ofTree (depth : Nat) (tree : Tree) : Reading ToolProfile := do
  let (fields, depth) ← sectionFields ToolProfile.keys depth tree
  let docker : ToolProfile := {}
  return {
    name := ← Reading.field fields "name" Reading.text docker.name
    executable := ← Reading.field fields "executable" Reading.text docker.executable
    help := ← Reading.field fields "help" Reading.optionalText docker.help
    officialUrl := ← Reading.field fields "official_url" Reading.optionalText docker.officialUrl
    license := ← Reading.field fields "license" (Reading.texts depth) docker.license
    optionsMarker := ← Reading.field fields "options_marker" Reading.text docker.optionsMarker }

/-- The settings for definitions in a section. A missing field is at its default, also the list of
skipped stems. -/
def SourceSettings.ofTree (depth : Nat) (tree : Tree) : Reading SourceSettings := do
  let (fields, depth) ← sectionFields ["path", "reference", "reference_url", "skip"] depth tree
  let standard : SourceSettings := {}
  return {
    path := ← Reading.field fields "path" Reading.text standard.path
    reference := ← Reading.field fields "reference" Reading.text standard.reference
    referenceUrl := ← Reading.field fields "reference_url" Reading.text standard.referenceUrl
    skip := ← Reading.field fields "skip" (Reading.texts depth) standard.skip }

/-- The form of a word (`OutputFormat.ofWord?`), or the error that there is no such form. Words are
matched exactly. -/
def formatOfWord (word : String) : Reading OutputFormat :=
  match OutputFormat.ofWord? word with
  | some format => return format
  | none => throw (.unknownCase word)

/-- A form: its word, or its word as a tag of the document's own (`Tag.word?`) on nothing. With such
a tag the scalar itself has to be empty or a spelling of nothing. -/
def formatOfTree (tree : Tree) : Reading OutputFormat := do
  match ← Reading.resolved tree with
  | .scalar tag plain s =>
    match tag.bind Tag.word? with
    | some word =>
      let format ← formatOfWord word
      if plain && (s.isEmpty || isNullWord s) then return format
      else Reading.wanted "nothing behind the word"
    | none => formatOfWord (String.ofList s)
  | _ => Reading.wanted "an output format"

/-- The settings for the model in a section (`sectionFields`). A missing field is at its default. -/
def OutputSettings.ofTree (depth : Nat) (tree : Tree) : Reading OutputSettings := do
  let (fields, _) ← sectionFields ["path", "format"] depth tree
  let standard : OutputSettings := {}
  return {
    path := ← Reading.field fields "path" Reading.optionalText standard.path
    format := ← Reading.field fields "format" formatOfTree standard.format }

/-- The configuration that a node describes. Its sections are mappings one level deeper, and the
lists in them one more, for which `depth` has to be enough. -/
def Configuration.ofTree (depth : Nat) (tree : Tree) : Reading Configuration := do
  let (fields, depth) ← sectionFields ["version", "tool", "definitions", "output"] depth tree
  let standard : Configuration := {}
  return {
    version := ← Reading.field fields "version" Reading.text standard.version
    tool := ← Reading.field fields "tool" (ToolProfile.ofTree depth) standard.tool
    source := ← Reading.field fields "definitions" (SourceSettings.ofTree depth) standard.source
    output := ← Reading.field fields "output" (OutputSettings.ofTree depth) standard.output }

/-- The configuration in a document. A section that is missing is at its default, and an empty
document gives all defaults. -/
def Configuration.ofText (text : String) : Except ReadError Configuration :=
  (Document.ofText text).bind (Reading.ofDocument · Configuration.ofTree)

/-! ### Files -/

/-- Why there is no configuration. What fails before a file is open is told apart from what fails
behind that, for the messages begin differently. -/
inductive ConfigurationError where
  /-- The file cannot be opened or written. -/
  | unopened (reason : FileError)
  /-- What was opened cannot be read to its end as a text. -/
  | unread (reason : FileError)
  /-- The text is no configuration. -/
  | unreadable (reason : ReadError)
  deriving Repr, DecidableEq

/-- The error in words, as it is shown behind the path of the file. It says whether the file or its
text is at fault. -/
def ConfigurationError.message : ConfigurationError → String
  | .unopened reason => "I/O error: " ++ reason.message
  | .unread reason => "YAML error: " ++ reason.message
  | .unreadable reason => "YAML error: " ++ reason.message

/-- The error for a file that could not be read. A directory can be opened, and fails only when it
is read. -/
def ConfigurationError.ofFileError (reason : FileError) : ConfigurationError :=
  match reason with
  | .isDirectory => .unread .isDirectory
  | reason => .unopened reason

namespace Configuration

/-- The configuration in the bytes of a file: they have to be a text (`textOfBytes`), and the text a
configuration (`ofText`). -/
def ofBytes (content : ByteArray) : Except ConfigurationError Configuration := do
  let text ← (textOfBytes content).mapError .unread
  (ofText text).mapError .unreadable

variable {m : Type → Type} [Monad m] [FileStore m]

/-- The configuration in a file (`ofBytes`). The file is read as a whole before anything of it is
looked at. -/
def load (path : String) : ExceptT ConfigurationError m Configuration := do
  ofBytes (← (FileStore.read (m := m) (bytes path)).adapt ConfigurationError.ofFileError)

/-- Writes a configuration into a file, as its `document`. `save_load` reads it back. -/
def save (configuration : Configuration) (path : String) : ExceptT ConfigurationError m Unit :=
  (FileStore.write (m := m) (bytes path) configuration.document).adapt .unopened

end Configuration

end WrapperModel
