import WrapperModel.Model.Basic
import WrapperModel.Text.Pieces

/-!
# `WrapperModel.Model.Report`: a model for readers

* `Tool.markdown` is a page with one section per task and a table of its properties, and
  a table of the enumerations at the end.
* `Tool.table` is an overview with one line per task. Its name column is as wide as the
  longest task name takes bytes, and it is filled up by characters. A column that is wider
  than `widestColumn` cannot be filled up.
-/

set_option autoImplicit false

namespace WrapperModel.Model

open WrapperModel.Text

/-! ### Markdown -/

/-- The row of a property in its table. The texts go in as they are: a bar in a help looks like one
between cells. -/
def Property.markdownRow (p : Property) : String :=
  "| `" ++ p.name ++ "` | " ++ p.type.display ++ (if p.nullable then "?" else "") ++ " | `" ++
    p.format ++ "` | " ++ p.help.getD "" ++ " |\n"

/-- The table of the properties of a class; a class without any has no table. Behind the rows stands
an empty line. -/
def propertyTable (properties : List Property) : String :=
  if properties.isEmpty then ""
  else
    "| Property | Type | Format | Description |\n" ++
      "|----------|------|--------|-------------|\n" ++
      String.join (properties.map Property.markdownRow) ++ "\n"

/-- A paragraph for a help text, where there is one. The text goes in as it is. -/
def helpParagraph (help : Option String) : String :=
  match help with
  | some text => text ++ "\n\n"
  | none => ""

/-- The section of a task: its name, its help, the beginning of the command with the class that it
extends, and the table of its properties. -/
def Task.markdown (executable : String) (task : Task) : String :=
  "## " ++ task.postfixName ++ "\n\n" ++ helpParagraph task.help ++
    "`" ++ executable ++ " " ++ task.definiteArgument ++ "` (extends `" ++
    task.settingsClass.baseClass ++ "`)\n\n" ++ propertyTable task.settingsClass.properties

/-- The row of an enumeration in its table: its name, and its values on one line. Nothing is done to
bars in either. -/
def Enumeration.markdownRow (e : Enumeration) : String :=
  "| `" ++ e.name ++ "` | " ++ joinWith ", " e.values ++ " |\n"

/-- The section of the enumerations, one row for each (`Enumeration.markdownRow`). A tool without
any has no section. -/
def enumerationTable (enumerations : List Enumeration) : String :=
  if enumerations.isEmpty then ""
  else
    "## Enumerations\n\n" ++
      "| Enumeration | Values |\n" ++
      "|-------------|--------|\n" ++
      String.join (enumerations.map Enumeration.markdownRow) ++ "\n"

/-- The page of a tool. The data classes, the common properties, the license and the references are
not on it. -/
def Tool.markdown (tool : Tool) : String :=
  "# " ++ tool.name ++ "\n\n" ++ helpParagraph tool.help ++
    "**Executable:** `" ++ tool.executable ++ "`\n\n" ++
    String.join (tool.tasks.map (Task.markdown tool.executable)) ++
    enumerationTable tool.enumerations

/-! ### The overview -/

/-- The text followed by spaces, `width` characters in all if it is shorter. A longer text is not
cut. -/
def padRight (width : Nat) (s : String) : String :=
  s ++ String.ofList (List.replicate (width - s.toList.length) ' ')

/-- Spaces followed by the text, `width` characters in all if it is shorter. Numbers are written
like this. -/
def padLeft (width : Nat) (s : String) : String :=
  String.ofList (List.replicate (width - s.toList.length) ' ') ++ s

/-- The widest column that can be filled up: the width is kept in sixteen bits. `Tool.fits` asks for
it. -/
def widestColumn : Nat := 65535

/-- The bytes of the longest task name, zero where there are no tasks. `padRight` counts characters
instead, of which a name never has more. -/
def nameWidth (tasks : List Task) : Nat :=
  (tasks.map fun task => task.postfixName.utf8ByteSize).foldr max 0

/-- The line of a task: its name, the number of its properties and its arguments. The `width` is
that of the name column. -/
def Task.tableRow (width : Nat) (task : Task) : String :=
  "  " ++ padRight width task.postfixName ++ "  " ++
    padLeft 3 (toString task.settingsClass.properties.length) ++ " props  " ++
    task.definiteArgument ++ "\n"

/-- The overview of a tool, one of the forms of `Tool.render`. A tool without tasks has a single
line, and no column then. -/
def Tool.table (tool : Tool) : String :=
  "Tool: " ++ tool.name ++ "  Tasks: " ++ toString tool.tasks.length ++ "  Enumerations: " ++
    toString tool.enumerations.length ++ "\n" ++
    (if tool.tasks.isEmpty then ""
      else
        "\nTasks:\n" ++
          String.join (tool.tasks.map (Task.tableRow (nameWidth tool.tasks))))

end WrapperModel.Model
