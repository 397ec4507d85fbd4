import WrapperModel.CommandLine.Generation
import WrapperModel.Json.Printer
import WrapperModel.Model.Validation
import WrapperModel.Usage.Template

/-!
# `WrapperModel.CommandLine.Run`: what the program does

`run` reads the arguments and carries out the request in any store of files. Arguments
that are refused end with the exit code 2, and errors with 1.
-/

set_option autoImplicit false

namespace WrapperModel.CommandLine

open WrapperModel.Files (FileStore textOfBytes)
open WrapperModel.Model (Tool)
open WrapperModel.Text (bytes joinWith)

/-! ### Usage templates -/

/-- A parameter of a usage template as a value. The keys stand in the order of the alphabet, and the
help that belongs to a parameter in a model is not among them. -/
def parameterValue (p : Usage.Parameter) : Json :=
  Json.record
    [("is_argument", .bool p.isArgument), ("is_dictionary", .bool p.isDictionary),
      ("is_list", .bool p.isList), ("name", Json.text p.name), ("raw", Json.text p.raw)]

/-- A usage template with its parameters as `Usage.ofTemplate` finds them. The template is shown as
it was given. -/
def templateValue (template : String) : Json :=
  Json.record
    [("parameters", .array ((Usage.ofTemplate template).map parameterValue)),
      ("usage", Json.text template)]

/-- Shows the parameters of usage templates, one record for each template in the order given. No
template is refused: what `Usage.ofTemplate` does not understand is a parameter with a literal
text. -/
def showParameters (templates : List String) : Outcome :=
  { stdout := Json.pretty (.array (templates.map templateValue)) ++ "\n" }

/-! ### Models in files -/

/-- The outcome of examining a model: its counts when `Tool.findings` is empty, and else an error
that lists every finding on a line of its own. -/
def examine (path : String) (tool : Tool) : Outcome :=
  let findings := tool.findings
  if findings.isEmpty then
    { stdout := "Validated model '" ++ tool.name ++ "' with " ++ toString tool.tasks.length ++
        " task(s).\n" }
  else
    (Outcome.failure
      ("'" ++ path ++ "' has " ++ toString findings.length ++ " validation error(s)")).after
      (joinWith "" (findings.map fun finding => "  " ++ finding.message ++ "\n"))

variable {m : Type → Type} [Monad m] [FileStore m]

/-- The model in a file. A file that cannot be read or holds no text, and a text that `Tool.ofText`
refuses, have different messages. -/
def modelIn (path : String) : ExceptT String m Tool := do
  let content ← (FileStore.read (m := m) (bytes path)).run
  let text ← (content.bind textOfBytes).mapError fun reason =>
    "Failed to read '" ++ path ++ "': " ++ reason.message
  (Tool.ofText text).mapError fun reason =>
    "Failed to parse '" ++ path ++ "': " ++ reason.message

/-- Examines the model in a file. It is the same `Tool.findings` that a strict generation asks for,
on the model as it was read back. -/
def validate (path : String) : m Outcome := do
  match ← (modelIn (m := m) path).run with
  | .ok tool => return examine path tool
  | .error message => return .failure message

/-! ### The program -/

/-- How the program is used, in the words that `--help` shows and that follow the message about
refused arguments. -/
def usageText : String :=
  "Generate CLI wrapper models from command reference definitions\n\n" ++
  "Usage: wrapgen [--debug] generate [--config FILE] [--definitions DIRECTORY]\n" ++
  "                        [--output FILE] [--reference REVISION] [--skip STEMS]\n" ++
  "                        [--format json|yaml|markdown|table] [--strict]\n" ++
  "       wrapgen [--debug] parse-usage USAGES...\n" ++
  "       wrapgen [--debug] validate INPUT\n"

/-- Carries out a request. Only a generation looks at the surroundings and changes the store. -/
def perform (surroundings : Surroundings) : Request → m Outcome
  | .generate options => generate surroundings options
  | .parseUsage templates => return showParameters templates
  | .validate path => validate path
  | .help => return { stdout := usageText }

/-- Runs the program with its arguments. `Invocation.ofArguments` either refuses them, with the exit
code 2 and before any file is touched, or yields a request for `perform`.

The flag `Invocation.debug` is not looked at: it asks for a log down to the level `debug` where the
surroundings give no setting, and every setting from warnings on shows the same warnings, which are
all that an `Outcome` has of the log. -/
def run (surroundings : Surroundings) (arguments : List String) : m Outcome :=
  match Invocation.ofArguments arguments with
  | .ok invocation => perform surroundings invocation.request
  | .error reason =>
    return { exitCode := 2, stderr := "error: " ++ reason.message ++ "\n\n" ++ usageText }

end WrapperModel.CommandLine
