import WrapperModel.CommandLine.LogFilter
import WrapperModel.Enumeration.Registry
import WrapperModel.Model.Validation
import WrapperModel.Text.ExtendingMark
import WrapperModel.Text.Pieces

/-!
# `WrapperModel.CommandLine.Notice`: lines of the log

Two things are worth a warning: an enumeration that replaces another of its name by other
values (`collisionNotice`), and a finding about the model (`findingNotice`). Each has a source
of its own, so that the setting of the log can show the one and hide the other. `notices` puts
the shown ones behind each other, and `generate` sends them to the error stream in front of what
else goes there.

## What of the log is here

The warnings and nothing else. The lines at the levels `info` and `debug`, which follow the run
as it goes, and the time at the beginning of each line are left out. So `Outcome.stderr` is what
the error stream holds when the log shows no more than warnings, less the times; at a more
chatty setting the program writes further lines among these.
-/

set_option autoImplicit false

namespace WrapperModel.CommandLine

open WrapperModel.Enumeration (Collision)
open WrapperModel.Model (Finding)
open WrapperModel.Text (isExtendingMark joinWith)

/-! ### Values in the log -/

/-- The fillers of the Hangul script. They are letters, so `isExtendingMark` does not name them, yet
they are drawn as nothing, and `quotedChar` writes them by their numbers for that reason. -/
def isFiller (c : Char) : Bool :=
  ['\u115f', '\u1160', '\u3164', '\uffa0'].contains c

/-- How a character of a value is written between quotes. A quote, a backslash and the four control
characters with letters of their own get a backslash. A mark that would join the quote
(`isExtendingMark`), a joiner, a filler (`isFiller`) and the other control characters are written by
their numbers in base sixteen. Every other character stands for itself. -/
def quotedChar (c : Char) : List Char :=
  if c = '"' || c = '\\' then ['\\', c]
  else if c = '\n' then ['\\', 'n']
  else if c = '\r' then ['\\', 'r']
  else if c = '\t' then ['\\', 't']
  else if c = '\x00' then ['\\', '0']
  else if isExtendingMark c || c = '\u200d' || isFiller c || c.toNat < 0x20 || c.toNat = 0x7F then
    "\\u\x7b".toList ++ Nat.toDigits 16 c.toNat ++ ['\x7d']
  else [c]

/-- A value between quotes, each of its characters as `quotedChar` writes it. -/
def quotedValue (value : String) : String :=
  String.ofList ('"' :: value.toList.flatMap quotedChar ++ ['"'])

/-- Values between brackets, each as `quotedValue` writes it, with a comma and a space between
neighbours. No values give `[]`. -/
def listedValues (values : List String) : String :=
  "[" ++ joinWith ", " (values.map quotedValue) ++ "]"

/-! ### Lines -/

/-- A line of the log for a warning from `source`. The line of the program begins with the time,
which is not part of this one: nothing here depends on when a run takes place. -/
def warning (source : LogSource) (message : String) : String :=
  " WARN " ++ source.target ++ ": " ++ message ++ "\n"

/-- Where the warnings about enumerations come from, with the names of the values in such a line.
`showsWarnings` asks for both when it decides whether the line is shown. -/
def collisionSource : LogSource :=
  ⟨"wrapgen_generator::enumeration", ["message", "enumeration", "previous", "current"]⟩

/-- Where the warnings about findings come from, with the names of the values in such a line. -/
def findingSource : LogSource :=
  ⟨"wrapgen", ["message", "error"]⟩

/-- The warning about an enumeration whose values were replaced by others: its name, the values it
had (`Collision.previous`) and the ones it has now (`Collision.current`). -/
def collisionNotice (collision : Collision) : String :=
  warning collisionSource
    ("Enumeration name collision; last registration wins enumeration=" ++ collision.name ++
      " previous=" ++ listedValues collision.previous ++
      " current=" ++ listedValues collision.current)

/-- The warning about a finding, with the words of `Finding.message`, as the log writes a line. -/
def findingNotice (finding : Finding) : String :=
  warning findingSource ("Model validation finding error=" ++ finding.message)

/-- The warnings that are shown at a setting of the log: first those about enumerations in the order
of the `collisions`, then those about the model in the order of the `findings`. `showsWarnings` is
asked once for each of the two sources.

A log has more than warnings at the levels `info` and `debug`: the settings as they were resolved,
the files that are skipped, the counts of definitions and of what was built of them, the commands
that name no task. Such lines tell what the run does and change nothing of it, and they are not part
of this text. -/
def notices (setting : Option String) (collisions : List Collision) (findings : List Finding) :
    String :=
  joinWith ""
    ((if showsWarnings setting collisionSource then collisions.map collisionNotice else []) ++
      (if showsWarnings setting findingSource then findings.map findingNotice else []))

end WrapperModel.CommandLine
