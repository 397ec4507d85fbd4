import WrapperModel.Text.Blank
import WrapperModel.Text.LetterCase

/-!
# `WrapperModel.Naming`: the names of generated classes, tasks and properties

Names are made from words that are written with separators. `camelCase` removes the
separators and capitalises what follows them; `pascalCase` capitalises the first
character too. The other names rest on these two:

* `placeholderName` is the name of a placeholder such as `SOURCE_IMAGE`.
* `taskPostfix` is the name of a task, from its command path without the program.
* `settingsClassName` is the name of the settings class of a task.
* `plural` is the name of a property that holds several values.
-/

set_option autoImplicit false

namespace WrapperModel.Naming

open WrapperModel.Text

/-! ### Removing separators -/

/-- Drops every separator and capitalises the character behind a run of separators. The flag says
that such a run was just passed. A separator at the end capitalises nothing. -/
def capitalizeAfter (separator : Char) (passed : Bool) : List Char → List Char
  | [] => []
  | c :: rest =>
    if c = separator then capitalizeAfter separator true rest
    else if passed then upperChar c ++ capitalizeAfter separator false rest
    else c :: capitalizeAfter separator false rest

/-- The first character stays as it is, a separator too; behind it separators go by
`capitalizeAfter`. -/
def camelChars (separator : Char) : List Char → List Char
  | [] => []
  | c :: rest => c :: capitalizeAfter separator false rest

/-- Capitalises the first character by `upperChar`, which may make several of it. -/
def capitalizeFirst : List Char → List Char
  | [] => []
  | c :: rest => upperChar c ++ rest

/-- `camelChars` with a capital in front. A separator that stands first has no capital and is
kept. -/
def pascalChars (separator : Char) (cs : List Char) : List Char :=
  capitalizeFirst (camelChars separator cs)

/-- The words of a name run together: `log-level` becomes `logLevel`. The first character keeps its
case. -/
def camelCase (s : String) (separator : Char) : String :=
  String.ofList (camelChars separator s.toList)

/-- The words of a name run together behind a capital: `log-level` becomes `LogLevel`. -/
def pascalCase (s : String) (separator : Char) : String :=
  String.ofList (pascalChars separator s.toList)

/-- The text without line feeds and carriage returns. Other white space is kept, so the words on
both sides of a line end run together. -/
def removeNewLines (s : String) : String :=
  String.ofList (s.toList.filter fun c => c != '\r' && c != '\n')

/-! ### Plurals -/

/-- Endings of words that end in `s` and are singular all the same. They are asked for before the
ending `s` alone. -/
def singularEndings : List (List Char) :=
  ["alias".toList, "status".toList, "bus".toList, "ss".toList]

/-- Endings that take `es`, as `x` and `ch` do. They are compared in small letters. -/
def sibilantEndings : List (List Char) :=
  [['x'], ['z'], ['c', 'h'], ['s', 'h']]

/-- The ways of making a plural. `pluralRule` chooses one from the word in small letters, and
`PluralRule.apply` carries it out on the word as it is written. -/
inductive PluralRule where
  /-- Nothing is added. -/
  | unchanged
  /-- `s` is added. -/
  | addS
  /-- `es` is added. -/
  | addEs
  /-- The last letter gives way to `ies`. -/
  | yToIes
  deriving Repr, DecidableEq

/-- A word that ends in `y` behind something other than a vowel; the word is written backwards and
in small letters. A `y` alone is no such word, for nothing stands before it. -/
def endsInConsonantY : List Char → Bool
  | 'y' :: before :: _ => !(['a', 'e', 'i', 'o', 'u'].contains before)
  | _ => false

/-- The rule for a word that is written in small letters. The first that fits decides: singular
words in `s` before plurals in `s`, those before the sibilants, and `y` last. The empty word is
kept. -/
def pluralRule (lower : List Char) : PluralRule :=
  if lower.isEmpty then .unchanged
  else if singularEndings.any (·.isSuffixOf lower) then .addEs
  else if ['s'].isSuffixOf lower then .unchanged
  else if sibilantEndings.any (·.isSuffixOf lower) then .addEs
  else if endsInConsonantY lower.reverse then .yToIes
  else .addS

/-- Carries out a `PluralRule` on a word. What is added is in small letters whatever the case of the
word. -/
def PluralRule.apply (cs : List Char) : PluralRule → List Char
  | .unchanged => cs
  | .addS => cs ++ ['s']
  | .addEs => cs ++ ['e', 's']
  | .yToIes => cs.dropLast ++ ['i', 'e', 's']

/-- The plural of a word; `pluralRule` reads its endings without regard to the case of the basic
letters. -/
def pluralChars (cs : List Char) : List Char :=
  (pluralRule (cs.map Char.toLower)).apply cs

/-- The plural of a name, in which only the ending can differ from the name (`PluralRule`). -/
def plural (s : String) : String :=
  String.ofList (pluralChars s.toList)

/-! ### Placeholders, tasks and classes -/

/-- The name of a placeholder: all small, then capitals behind hyphens and underscores, so that
`SOURCE_IMAGE` becomes `SourceImage`. Hyphens go before underscores, each with a `pascalCase` of its
own. -/
def placeholderName (segment : String) : String :=
  pascalCase (pascalCase (lowercase segment) '-') '_'

/-- The words of a command path without the program in front. The program is dropped once and only
as the first word, and no other word is compared with it. -/
def commandWords (program command : String) : List String :=
  match words command with
  | first :: rest => if first = program then rest else first :: rest
  | [] => []

/-- The name of a task: its command words run together, so that `docker container ls` becomes
`ContainerLs`. The program on its own gives the empty name, and a command with an empty name becomes
no task. -/
def taskPostfix (program command : String) : String :=
  pascalCase (pascalCase (joinWith " " (commandWords program command)) ' ') '-'

/-- The name of the settings class of a task, which is at the same time what `rootSettingsName` is
for the empty name. -/
def settingsClassName (tool postfixName : String) : String :=
  tool ++ postfixName ++ "Settings"

/-- The name of the class that all settings classes of a tool share and that has the common
properties. -/
def rootSettingsName (tool : String) : String :=
  tool ++ "Settings"

end WrapperModel.Naming
