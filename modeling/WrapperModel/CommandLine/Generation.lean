import WrapperModel.Assembly
import WrapperModel.CommandLine.Invocation
import WrapperModel.CommandLine.Notice
import WrapperModel.Configuration.Document
import WrapperModel.Definition.Catalogue
import WrapperModel.Text.Blank

/-!
# `WrapperModel.CommandLine.Generation`: from definitions to a model in a file

A generation takes its configuration from a file or the defaults, puts the options of the
command line over it, loads the definitions and builds the model. Only when all that has
succeeded, and under `strict` without findings, is anything written.
-/

set_option autoImplicit false

namespace WrapperModel.CommandLine

open WrapperModel.Definition (Catalogue)
open WrapperModel.Files (FileStore parent)
open WrapperModel.Model (Tool Finding)
open WrapperModel.Text (bytes split trim joinWith)

/-- What a run of the program gives out. The files it leaves behind are in the state of the store
and not in here. -/
structure Outcome where
  /-- 0 for success, 1 for an error, 2 for arguments that are refused, 101 for a run that breaks
  off. -/
  exitCode : Nat := 0
  /-- What the standard output gets: the model, or the summary when the model went into a file. -/
  stdout : String := ""
  /-- What the error stream gets of the warnings and the errors. The lines of the log at the levels
  `info` and `debug` and the times in front of lines are no part of it; see `notices`. -/
  stderr : String := ""
  deriving Repr, DecidableEq, Inhabited

/-- The outcome of a run that an error ends: exit code 1, and nothing on the standard output. -/
def Outcome.failure (message : String) : Outcome :=
  { exitCode := 1, stderr := "error: " ++ message ++ "\n" }

/-- The outcome of a run that breaks off in the middle, with the exit code 101. It happens in
`giveOut` alone, where `Tool.render?` has no text for a model. -/
def Outcome.brokenOff (message : String) : Outcome :=
  { exitCode := 101, stderr := message ++ "\n" }

/-- The outcome with `notices` in front of what goes to the error stream. The log is written while
the run goes on, so its lines come before the message of an error. -/
def Outcome.after (outcome : Outcome) (notices : String) : Outcome :=
  { outcome with stderr := notices ++ outcome.stderr }

/-- What a run knows beside its arguments and the files. `run` is a function of these three, so that
two runs in the same surroundings and on the same files give out the same. -/
structure Surroundings where
  /-- The setting of the log, where there is one. It decides which warnings `notices` shows; what it
  says about the levels below warnings has no effect here, since those lines are not part of an
  `Outcome`. -/
  logSetting : Option String := none
  /-- The present year, for `defaultLicense`. -/
  year : Nat
  deriving Repr, DecidableEq

/-! ### Settings -/

/-- The texts between commas, without white space around and without empty ones. `--skip` gives its
stems this way; a comma, a blank at an end and an empty stem cannot be written with it, while the
list in a file of settings takes any text. -/
def listItems (text : String) : List String :=
  ((split ',' text).map trim).filter (· ≠ "")

/-- The license of a tool for which none is given. It depends on the year, which is the one thing of
the surroundings that the model itself shows. -/
def defaultLicense (year : Nat) (toolName : String) : List String :=
  ["Copyright " ++ toString year ++ " the " ++ toolName ++ " wrapper authors.",
    "Distributed under the MIT License."]

/-- The configuration with the options of the command line over it. An option that is not given
leaves what the file of settings says. The strictness of a run is no part of a configuration. -/
def GenerateOptions.over (options : GenerateOptions) (configuration : Configuration) :
    Configuration :=
  { configuration with
    source := { configuration.source with
      path := options.definitions.getD configuration.source.path
      reference := options.reference.getD configuration.source.reference
      skip := (options.skip.map listItems).getD configuration.source.skip }
    output := {
      path := options.output <|> configuration.output.path
      format := options.format.getD configuration.output.format } }

/-- The profile with a license. The lines a profile gives are kept, and only an empty list is filled
by `defaultLicense`. -/
def licensed (year : Nat) (profile : ToolProfile) : ToolProfile :=
  if profile.license.isEmpty then
    { profile with license := defaultLicense year profile.name }
  else profile

/-! ### The run -/

/-- The counts of a model in words. They go to the standard output when the model went into a file,
and else to the error stream, since the standard output then holds the model. -/
def summary (tool : Tool) : String :=
  "Generated " ++ toString tool.tasks.length ++ " task(s), " ++
    toString tool.dataClasses.length ++ " data class(es), " ++
    toString tool.enumerations.length ++ " enumeration(s), " ++
    toString tool.commonTaskProperties.length ++ " common propert(ies) for " ++
    tool.name ++ "."

variable {m : Type → Type} [Monad m] [FileStore m]

/-- The configuration of a generation: the file that `--config` names, or the defaults without one,
then `GenerateOptions.over`, then `licensed`. A file that cannot be read or is no configuration ends
the run here. -/
def configurationOf (options : GenerateOptions) (year : Nat) : ExceptT String m Configuration := do
  let configuration ← match options.configuration with
    | some path =>
      (Configuration.load (m := m) path).adapt fun reason =>
        "Failed to load config '" ++ path ++ "': " ++ reason.message
    | none => pure {}
  let configuration := options.over configuration
  return { configuration with tool := licensed year configuration.tool }

/-- The definitions that a configuration names, as `Catalogue.load` finds them under the path of the
source. -/
def catalogueOf (configuration : Configuration) : ExceptT String m Catalogue :=
  let source := configuration.source
  (Catalogue.load (m := m) source.path source.referenceUrl source.reference source.skip).adapt
    fun reason => reason.message

/-- Writes a model into a file, for which the directories above are made first. Both steps can fail,
and the message names which. A path without a directory above needs none made. -/
def deliver (path rendered : String) : ExceptT String m Unit := do
  let above := parent path
  if above ≠ "" then
    (FileStore.createDirectory (m := m) (bytes above)).adapt fun reason =>
      "Failed to create output directory '" ++ above ++ "': " ++ reason.message
  (FileStore.write (m := m) (bytes path) rendered).adapt fun reason =>
    "Failed to write '" ++ path ++ "': " ++ reason.message

/-- Gives out a model that is good enough for the run. A form into which it does not fit
(`Tool.render?`) breaks the run off before anything is written; with a path the text goes into the
file by `deliver`, and without one to the standard output. -/
def giveOut (output : OutputSettings) (tool : Tool) : m Outcome := do
  match tool.render? output.format with
  | none => return .brokenOff "Formatting argument out of range"
  | some rendered =>
    -- only from here on is the store changed
    -- only from here on is the store changed
    match output.path with
    | some path =>
      match ← (deliver path rendered).run with
      | .ok () => return { stdout := summary tool ++ " Wrote '" ++ path ++ "'.\n" }
      | .error message => return .failure message
    | none => return { stdout := rendered ++ "\n", stderr := summary tool ++ "\n" }

/-- Builds a model and gives it out: `configurationOf`, `catalogueOf`, `Assembly.build`, the
findings, then `giveOut`. Under `strict` a model with findings is refused before `giveOut`, so no
file is touched. The warnings go in front of every outcome that comes after the building, refusals
included; an error before it shows none. -/
def generate (surroundings : Surroundings) (options : GenerateOptions) : m Outcome := do
  let prepared : ExceptT String m (Configuration × Catalogue) := do
    let configuration ← configurationOf options surroundings.year
    return (configuration, ← catalogueOf configuration)
  match ← prepared.run with
  | .error message => return .failure message
  | .ok (configuration, catalogue) =>
    let tool := Assembly.build configuration.tool catalogue.definitions
    let findings := tool.findings
    -- the warnings come whether or not the model is then refused
    -- the warnings come whether or not the model is then refused
    let shown := notices surroundings.logSetting
      (Assembly.collisions configuration.tool catalogue.definitions) findings
    let outcome ←
      if options.strict && !findings.isEmpty then
        pure <| Outcome.failure <|
          "Generated model has " ++ toString findings.length ++ " validation error(s)"
      else giveOut configuration.output tool
    return outcome.after shown

end WrapperModel.CommandLine
