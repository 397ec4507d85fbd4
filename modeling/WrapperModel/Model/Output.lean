import WrapperModel.Model.Document
import WrapperModel.Model.Report

/-!
# `WrapperModel.Model.Output`: the forms in which a model is given out

Two forms are read by programs, the other two by people. Every model can be given out in each of
them, but for an overview whose name column would be too wide.
-/

set_option autoImplicit false

namespace WrapperModel.Model

/-- A form in which a model is given out (`Tool.render?`). The first is the one that can be read
back. -/
inductive OutputFormat where
  | json
  | yaml
  | markdown
  | table
  deriving Repr, DecidableEq, Inhabited

namespace OutputFormat

/-- The word for a form, in settings and on the command line alike. -/
def word : OutputFormat → String
  | .json => "json"
  | .yaml => "yaml"
  | .markdown => "markdown"
  | .table => "table"

/-- The form of a word. Capitals matter, and there is no other name for a form. -/
def ofWord? : String → Option OutputFormat
  | "json" => some .json
  | "yaml" => some .yaml
  | "markdown" => some .markdown
  | "table" => some .table
  | _ => none

/-- The word of a form (`word`) is read as the form, so a form that was written is found again. -/
theorem ofWord?_word (format : OutputFormat) : ofWord? format.word = some format := by
  cases format <;> rfl

/-- The form that a value gives: its word, alone or as the only key of an object with `null` as its
value. -/
def ofJson : Json → Except Json.DecodeError OutputFormat
  | .string (some word) | .object [(some word, .null)] =>
    match ofWord? word with
    | some format => .ok format
    | none => .error (.unknownCase word)
  | _ => .error (.wanted "an output format")

end OutputFormat

/-- A tool in one of the forms. It says what the text would be; whether there is one, `Tool.fits`
says. -/
def Tool.render (tool : Tool) : OutputFormat → String
  | .json => tool.json
  | .yaml => tool.document
  | .markdown => tool.markdown
  | .table => tool.table

/-- The tool can be given out in the form. Only an overview sets a bound, to its name column
(`widestColumn`); all other forms take every tool. -/
def Tool.fits (tool : Tool) : OutputFormat → Bool
  | .table => nameWidth tool.tasks ≤ widestColumn
  | _ => true

/-- The tool in one of the forms, if it can be given out in it. A run asks for this one, and breaks
off where it is `none`. -/
def Tool.render? (tool : Tool) (format : OutputFormat) : Option String :=
  if tool.fits format then some (tool.render format) else none

end WrapperModel.Model
