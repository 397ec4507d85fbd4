import WrapperModel.Model.Output

/-!
# `WrapperModel.CommandLine.Invocation`: what the arguments ask for

Arguments are names of commands, options and values. An option is two hyphens and a name;
its value follows as the next argument, or behind an equals sign. A value that follows may
not look like an option, but a single hyphen is a value. Behind two hyphens alone every
argument is a value.

* `Given.ofArguments` sorts the arguments of a command by their kind.
* `Invocation.ofArguments` reads the whole line. An option may be given once.
-/

set_option autoImplicit false

namespace WrapperModel.CommandLine

open WrapperModel.Model (OutputFormat)

/-! ### Requests -/

/-- The options of a generation as they were given. An option that is absent is `none`, which
`GenerateOptions.over` tells apart from one that gives an empty text. -/
structure GenerateOptions where
  /-- The file of the configuration. -/
  configuration : Option String := none
  /-- The directory of the definitions. -/
  definitions : Option String := none
  /-- The file for the model. -/
  output : Option String := none
  /-- The revision of the documentation. -/
  reference : Option String := none
  /-- The stems of files to skip, between commas. -/
  skip : Option String := none
  /-- The form of the text, where `asFormat` knows its word. -/
  format : Option OutputFormat := none
  /-- A model with findings is an error. -/
  strict : Bool := false
  deriving Repr, DecidableEq, Inhabited

/-- What the program is asked to do, with the options that belong to it (`GenerateOptions`). -/
inductive Request where
  /-- Builds a model from definitions. -/
  | generate (options : GenerateOptions)
  /-- Shows the parameters of usage templates. -/
  | parseUsage (templates : List String)
  /-- Examines a model in a file. -/
  | validate (path : String)
  /-- Says how the program is used. -/
  | help
  deriving Repr, DecidableEq

/-- A request with the choice of a chatty log, which can be made with every `Request`. -/
structure Invocation where
  /-- A chatty log is asked for. The flag is read so that lines with it are accepted and doubled
  ones refused; it would change only lines of the log below the warnings, which are no part of an
  `Outcome`. -/
  debug : Bool
  /-- What is to be done. -/
  request : Request
  deriving Repr, DecidableEq

/-- Why arguments are refused. Every refusal ends the run with the exit code 2, and the constructor
holds the word or the name of the option that the message shows. -/
inductive ArgumentError where
  | missingCommand
  | unknownCommand (word : String)
  | unexpected (argument : String)
  | missingValue (option : String)
  | unwantedValue (option : String)
  | emptyValue (name : String)
  | badFormat (word : String)
  | repeated (option : String)
  | missingArgument (name : String)
  deriving Repr, DecidableEq

/-- The refusal in words. `usageText` follows it on the error stream. -/
def ArgumentError.message : ArgumentError → String
  | .missingCommand => "a command is required"
  | .unknownCommand word => "unrecognized command '" ++ word ++ "'"
  | .unexpected argument => "unexpected argument '" ++ argument ++ "'"
  | .missingValue option => "a value is required for '--" ++ option ++ "'"
  | .unwantedValue option => "no value is allowed for '--" ++ option ++ "'"
  | .emptyValue name => "an empty value is not allowed for '" ++ name ++ "'"
  | .badFormat word => "invalid format '" ++ word ++ "'"
  | .repeated option => "'--" ++ option ++ "' cannot be used multiple times"
  | .missingArgument name => "the argument '" ++ name ++ "' is required"

/-! ### Kinds of arguments -/

/-- An argument of a command with what belongs to it. `Given.ofArguments` makes these of the words
of a line, and from there on no hyphen is looked at any more. -/
inductive Given where
  /-- An option with its value, behind an equals sign or as the next word. -/
  | option (name value : String)
  /-- A flag, which has no value. -/
  | flag (name : String)
  /-- A word that is no option. -/
  | value (text : String)
  /-- The command is to be explained. What follows is not read. -/
  | help
  deriving Repr, DecidableEq

/-- The name behind two hyphens, and the value behind the first equals sign, if there is one. The
value may be empty and may have further equals signs. -/
def longOption? (argument : String) : Option (String × Option String) :=
  match argument.toList with
  | '-' :: '-' :: body =>
    let name := String.ofList (body.takeWhile (· ≠ '='))
    match body.dropWhile (· ≠ '=') with
    | [] => some (name, none)
    | _ :: value => some (name, some (String.ofList value))
  | _ => none

/-- The argument begins with a hyphen and is not a hyphen alone. Such a word is never taken for the
value of an option that stands before it, and never for a free value unless two hyphens alone stand
before it. -/
def looksLikeOption (argument : String) : Bool :=
  argument.toList.head? = some '-' && argument.toList.length ≠ 1

/-- The argument asks for help. A word that begins with `-h` does so whatever follows, for the
options with one hyphen are read letter by letter and `h` is the only letter. -/
def asksHelp (argument : String) : Bool :=
  argument = "--help" || ['-', 'h'].isPrefixOf argument.toList

/-- The arguments of a command that knows these options and flags, sorted by their kind. Two hyphens
alone make values of everything behind them, and a request for help ends the reading: what stands
behind it is not examined and cannot be refused. -/
def Given.ofArguments (options flags : List String) :
    List String → Except ArgumentError (List Given)
  | [] => .ok []
  | argument :: rest =>
    if argument = "--" then .ok (rest.map .value)
    else if asksHelp argument then .ok [.help]
    else
      match longOption? argument with
      | some (name, attached) =>
        if flags.contains name then
          if attached.isSome then .error (.unwantedValue name)
          else return .flag name :: (← ofArguments options flags rest)
        else if options.contains name then
          match attached, rest with
          | some word, rest => return .option name word :: (← ofArguments options flags rest)
          | none, [] => .error (.missingValue name)
          | none, word :: rest =>
            if looksLikeOption word then .error (.missingValue name)
            else return .option name word :: (← ofArguments options flags rest)
        else .error (.unexpected argument)
      | none =>
        if looksLikeOption argument then .error (.unexpected argument)
        else return .value argument :: (← ofArguments options flags rest)

/-! ### Commands -/

/-- What has been read of the arguments of a command: whether the chatty log or help was asked
for, and what `step` has gathered. -/
structure Progress (α : Type) where
  debug : Bool := false
  help : Bool := false
  result : α

/-- Reads the arguments of a command in order by `step`, up to a request for help. The flag for the
chatty log belongs to all commands, so it is dealt with here, and a second one is refused. -/
def readGiven {α : Type} (step : α → Given → Except ArgumentError α) (result : α)
    (debug : Bool) : List Given → Except ArgumentError (Progress α)
  | [] => .ok { debug, result }
  | .help :: _ => .ok { debug, result, help := true }
  | .flag "debug" :: rest =>
    if debug then .error (.repeated "debug") else readGiven step result true rest
  | given :: rest => do readGiven step (← step result given) debug rest

/-- The value of an option that has not been given before. Every option of a generation goes through
here, so that no option silently replaces another. -/
def onlyOnce {α : Type} (name : String) (before : Option α) (value : α) :
    Except ArgumentError (Option α) :=
  if before.isSome then .error (.repeated name) else .ok (some value)

/-- A path, which is never empty. `name` is the one that the refusal shows, that of the option or of
the value. -/
def asPath (name value : String) : Except ArgumentError String :=
  if value = "" then .error (.emptyValue name) else .ok value

/-- The form that a word names, by `OutputFormat.ofWord?`. Any other word is refused. -/
def asFormat (word : String) : Except ArgumentError OutputFormat :=
  match OutputFormat.ofWord? word with
  | some format => .ok format
  | none => .error (.badFormat word)

/-- The options of a generation with one more. An option is refused when it is repeated (`onlyOnce`)
or when its value is not one (`asPath`, `asFormat`), and a free value is refused always. -/
def GenerateOptions.add (options : GenerateOptions) : Given → Except ArgumentError GenerateOptions
  | .option "config" value => return { options with
      configuration := ← onlyOnce "config" options.configuration (← asPath "config" value) }
  | .option "definitions" value => return { options with
      definitions := ← onlyOnce "definitions" options.definitions (← asPath "definitions" value) }
  | .option "output" value => return { options with
      output := ← onlyOnce "output" options.output (← asPath "output" value) }
  | .option "reference" value => return { options with
      reference := ← onlyOnce "reference" options.reference value }
  | .option "skip" value => return { options with
      skip := ← onlyOnce "skip" options.skip value }
  | .option "format" value => return { options with
      format := ← onlyOnce "format" options.format (← asFormat value) }
  | .flag "strict" =>
    if options.strict then .error (.repeated "strict") else .ok { options with strict := true }
  | .option name _ | .flag name => .error (.unexpected ("--" ++ name))
  | .value text => .error (.unexpected text)
  | .help => .ok options

/-- The usage templates with one more. Any value is a template, an empty one too; options of a name
are refused. -/
def addTemplate (templates : List String) : Given → Except ArgumentError (List String)
  | .value text => .ok (templates ++ [text])
  | .option name _ | .flag name => .error (.unexpected ("--" ++ name))
  | .help => .ok templates

/-- The only path that is given. A second one is refused before it is asked whether it is empty
(`asPath`). -/
def addPath (path : Option String) : Given → Except ArgumentError (Option String)
  | .value text =>
    if path.isSome then .error (.unexpected text) else return some (← asPath "INPUT" text)
  | .option name _ | .flag name => .error (.unexpected ("--" ++ name))
  | .help => .ok path

/-- The request that the arguments behind the name of a command make. Arguments that a command
requires are asked for only when no help is wanted. A name that is no command is refused by its
look, as an option that is not expected or as a command that is not known. -/
def command (name : String) (arguments : List String) : Except ArgumentError Invocation := do
  match name with
  | "generate" =>
    let given ← Given.ofArguments
      ["config", "definitions", "output", "reference", "skip", "format"] ["debug", "strict"]
      arguments
    let progress ← readGiven GenerateOptions.add {} false given
    return ⟨progress.debug, if progress.help then .help else .generate progress.result⟩
  | "parse-usage" =>
    let progress ← readGiven addTemplate [] false (← Given.ofArguments [] ["debug"] arguments)
    if progress.help then return ⟨progress.debug, .help⟩
    else if progress.result.isEmpty then throw (.missingArgument "USAGES")
    else return ⟨progress.debug, .parseUsage progress.result⟩
  | "validate" =>
    let progress ← readGiven addPath none false (← Given.ofArguments [] ["debug"] arguments)
    if progress.help then return ⟨progress.debug, .help⟩
    else
      match progress.result with
      | some path => return ⟨progress.debug, .validate path⟩
      | none => throw (.missingArgument "INPUT")
  | "help" =>
    match arguments with
    | [] => return ⟨false, .help⟩
    | [word] =>
      if ["generate", "parse-usage", "validate", "help"].contains word then
        return ⟨false, .help⟩
      else throw (.unknownCommand word)
    | _ :: word :: _ => throw (.unknownCommand word)
  | word => throw (if looksLikeOption word then .unexpected word else .unknownCommand word)

/-- What a line of arguments asks for. The flag for the chatty log may stand in front of the
command, too, and then it need not be the only one: the command counts its own flags afresh, as
`readGiven` begins without one. -/
def Invocation.ofArguments : List String → Except ArgumentError Invocation
  | [] => .error .missingCommand
  | "--debug" :: rest =>
    match rest with
    | [] => .error .missingCommand
    | name :: rest =>
      if name = "--debug" then .error (.repeated "debug")
      else if asksHelp name then .ok ⟨true, .help⟩
      else do return { ← command name rest with debug := true }
  | name :: rest => if asksHelp name then .ok ⟨false, .help⟩ else command name rest

end WrapperModel.CommandLine
