import WrapperModel.Text.Alphanumeric
import WrapperModel.Text.Blank
import WrapperModel.Text.Pieces

/-!
# `WrapperModel.CommandLine.LogFilter`: what a log shows

The setting of a log is a list of directives between commas. A directive is a level, or the
beginning of a target with a level behind an equals sign, or has between them the name of a
span and a field in brackets:

    target[span{field=value}]=level

A line of the log comes from a `LogSource`. The most specific directive that covers the
source decides (`LogFilter.decisive?`): first the longer target counts, then a field. The program
opens no spans, so directives that ask for one, or for the value of a field, cover nothing.

Only one question is asked of a filter, whether it shows warnings (`showsWarnings`), because the
warnings are all that an outcome of a run has of the log.
-/

set_option autoImplicit false

namespace WrapperModel.CommandLine

open WrapperModel.Text (isAlphanumeric isBlank split startsWith strip)

/-! ### Levels -/

/-- How much a log shows. A level shows lines of its own kind and of the kinds before it, so
warnings are shown from `warn` on. -/
inductive LogLevel where
  | off
  | error
  | warn
  | info
  | debug
  | trace
  deriving Repr, DecidableEq

namespace LogLevel

/-- The levels by their numbers, in the order in which they stand in `LogLevel`. There are no
numbers beyond theirs. -/
def ofNumber? : Nat → Option LogLevel
  | 0 => some .off
  | 1 => some .error
  | 2 => some .warn
  | 3 => some .info
  | 4 => some .debug
  | 5 => some .trace
  | _ => none

/-- The number that digits denote, with or without a plus sign in front. A sign alone and no
characters at all denote none. -/
def number? (cs : List Char) : Option Nat :=
  let digits := match cs with
    | '+' :: rest => rest
    | _ => cs
  if digits.isEmpty || !digits.all Char.isDigit then none
  else some (digits.foldl (fun value c => value * 10 + (c.toNat - 48)) 0)

/-- The levels by their names in small letters. `ofWord?` takes names in any case. -/
def names : List (String × LogLevel) :=
  [("off", .off), ("error", .error), ("warn", .warn), ("info", .info), ("debug", .debug),
    ("trace", .trace)]

/-- The level that a word means: a number (`number?`, then `ofNumber?`) or a name in letters of
either case. A word of digits that is no number of a level means none, although a target may be
named so. No word at all means errors. -/
def ofWord? (word : String) : Option LogLevel :=
  if word = "" then some .error
  else
    match number? word.toList with
    | some n => ofNumber? n
    | none => names.lookup (String.ofList (word.toList.map Char.toLower))

/-- Warnings are shown at the level. No other lines of the log are asked for here. -/
def showsWarnings : LogLevel → Bool
  | .off | .error => false
  | .warn | .info | .debug | .trace => true

end LogLevel

/-! ### Directives -/

/-- What a directive asks of a field of the lines it is meant for. It may ask for the name of a
field alone. -/
structure FieldDemand where
  /-- The name of the field. -/
  name : String
  /-- A value is asked for. -/
  valued : Bool
  deriving Repr, DecidableEq

/-- One part of the setting of a log. What is left out asks for nothing, and the level that is left
out shows everything. -/
structure LogDirective where
  level : LogLevel := .trace
  /-- What the targets begin with for which it is meant. -/
  target : Option String := none
  /-- The name of a span. -/
  span : Option String := none
  field : Option FieldDemand := none
  deriving Repr, DecidableEq

/-- The text behind the first `count` bytes, if a character begins there. Places in a directive are
counted in bytes, and a place within a character ends the reading. -/
def dropBytes? : Nat → List Char → Option (List Char)
  | 0, cs => some cs
  | _ + 1, [] => none
  | count + 1, c :: rest =>
    if c.utf8Size ≤ count + 1 then dropBytes? (count + 1 - c.utf8Size) rest else none

/-- The first `count` bytes of a text, if a character ends with them. A cut within a character gives
nothing. -/
def takeBytes? : Nat → List Char → Option (List Char)
  | 0, _ => some []
  | _ + 1, [] => none
  | count + 1, c :: rest =>
    if c.utf8Size ≤ count + 1 then (takeBytes? (count + 1 - c.utf8Size) rest).map (c :: ·)
    else none

/-- The piece of a text between two places, counted in bytes. There is none when either place is
within a character or behind the end. -/
def piece? (text : List Char) (start stop : Nat) : Option String := do
  return String.ofList (← takeBytes? (stop - start) (← dropBytes? start text))

/-- The piece of a text from a place, counted in bytes, to its end. It is `piece?` without a second
place. -/
def pieceFrom? (text : List Char) (start : Nat) : Option String :=
  (dropBytes? start text).map String.ofList

namespace LogDirective

/-- The part of a directive that is being read, with the place at which it begins. The places are
those of `piece?`. -/
inductive Part where
  | nothing
  /-- A level or a target. -/
  | word (start : Nat)
  | span (start : Nat)
  | field (start : Nat)
  | behindField
  | behindSpan
  | level (start : Nat)
  deriving Repr, DecidableEq

/-- What a directive asks of a field: a name, and a value behind an equals sign. No characters
between the braces ask for nothing. -/
def fieldDemand? (piece : String) : Option FieldDemand :=
  if piece = "" then none
  else some ⟨String.ofList (piece.toList.takeWhile (· ≠ '=')), piece.toList.contains '='⟩

/-- One character of a directive at a place. When a part ends, its piece is cut from `text` by
`piece?`; a character that cannot stand where it does ends the reading with none. -/
def next? (text : List Char) (place : Nat) (c : Char) :
    Part × LogDirective → Option (Part × LogDirective)
  | (.nothing, directive) =>
    if c = '[' then some (.span (place + 1), directive)
    else if ['-', ':', '_'].contains c || isAlphanumeric c then some (.word place, directive)
    else none
  | (.word start, directive) =>
    if c = '=' then do
      return (.level (place + 1), { directive with target := ← piece? text start place })
    else if c = '[' then do
      return (.span (place + 1), { directive with target := ← piece? text start place })
    else some (.word start, directive)
  | (.span start, directive) =>
    if c = ']' then do
      return (.behindSpan, { directive with span := ← piece? text start place })
    else if c = '\x7b' then do
      let name ← piece? text start place
      let span := if name = "" then none else some name
      return (.field (place + 1), { directive with span })
    else some (.span start, directive)
  | (.field start, directive) =>
    if c = '\x7d' then do
      let demand ← fieldDemand? (← piece? text start place)
      return (.behindField, { directive with field := demand })
    else some (.field start, directive)
  | (.behindField, directive) => if c = ']' then some (.behindSpan, directive) else none
  | (.behindSpan, directive) =>
    if c = '=' then some (.level (place + 1), directive) else none
  | (.level start, directive) => some (.level start, directive)

/-- The directive at its end. A level that is left out shows everything, as does a word that is no
level and thereby a target. An end within a span or a field is none. -/
def finish? (text : List Char) : Part × LogDirective → Option LogDirective
  | (.word start, directive) => do
    let word ← pieceFrom? text start
    match LogLevel.ofWord? word with
    | some level => return { directive with level }
    | none => return { directive with target := some word }
  | (.level start, directive) => do
    let word ← pieceFrom? text start
    if word = "" then return directive
    else return { directive with level := ← LogLevel.ofWord? word }
  | (.behindSpan, directive) => some directive
  | _ => none

/-- The directive behind the characters, the first of which begins at `place`: `next?` for each of
them and `finish?` at the end. -/
def scan? (text : List Char) (place : Nat) (state : Part × LogDirective) :
    List Char → Option LogDirective
  | [] => finish? text state
  | c :: rest => do scan? text (place + c.utf8Size) (← next? text place c state) rest

/-- The directive that a text writes. Blanks around it are passed over, yet its pieces are cut from
the text as it stands, at the same number of bytes behind its beginning; so a text with blanks in
front gives other pieces than the same text without them. -/
def ofText? (s : String) : Option LogDirective :=
  scan? s.toList 0 (.nothing, {}) (strip isBlank s.toList)

end LogDirective

/-! ### Settings -/

/-- What lines of the log come from: the part of the program, and the names of the values in
them. -/
structure LogSource where
  target : String
  /-- The names of the values in a line. -/
  fields : List String
  deriving Repr, DecidableEq

/-- The directive is meant for the source: no span is asked for, the target begins as the directive
says, and the field it asks for is there without a value being asked for. -/
def LogDirective.covers (directive : LogDirective) (source : LogSource) : Bool :=
  directive.span.isNone &&
    directive.target.all (startsWith · source.target) &&
    directive.field.all fun demand => !demand.valued && source.fields.contains demand.name

/-- The directive is not more specific than `other`: its target is shorter, or of the same length
and its field comes no later in the order of names. No target is shorter than any, even an empty
one, and no field is earlier than any. -/
def LogDirective.yieldsTo (directive other : LogDirective) : Bool :=
  let size (d : LogDirective) : Nat := d.target.elim 0 fun target => target.utf8ByteSize + 1
  let fieldYields : Bool :=
    match directive.field, other.field with
    | none, _ => true
    | some _, none => false
    | some mine, some theirs => !decide (theirs.name < mine.name)
  decide (size directive < size other) || (size directive = size other && fieldYields)

/-- The setting of a log as its directives in the order in which they are written, which decides
only between equally specific ones. -/
structure LogFilter where
  directives : List LogDirective
  deriving Repr, DecidableEq

namespace LogFilter

/-- The filter that a setting writes, one directive between commas. One piece that is no directive
(`LogDirective.ofText?`) makes the whole setting unreadable. Without any directive the filter shows
errors. -/
def ofSetting? (setting : String) : Option LogFilter := do
  let directives ← ((split ',' setting).filter (· ≠ "")).mapM LogDirective.ofText?
  return ⟨if directives.isEmpty then [{ level := .error }] else directives⟩

/-- The most specific directive that covers a source, the last one of several, by
`LogDirective.yieldsTo`. -/
def decisive? (filter : LogFilter) (source : LogSource) : Option LogDirective :=
  (filter.directives.filter (·.covers source)).foldl
    (fun best directive =>
      match best with
      | none => some directive
      | some best => if best.yieldsTo directive then some directive else some best)
    none

/-- Warnings from a source are shown: some directive covers the source, and the decisive one has
a level that shows warnings. -/
def showsWarnings (filter : LogFilter) (source : LogSource) : Bool :=
  (filter.decisive? source).any (·.level.showsWarnings)

end LogFilter

/-- Warnings from a source are shown at the given setting. Where none is given, or
`LogFilter.ofSetting?` cannot read it, the program chooses a setting of its own, and that one
shows them. -/
def showsWarnings (setting : Option String) (source : LogSource) : Bool :=
  ((setting.bind LogFilter.ofSetting?).map (·.showsWarnings source)).getD true

end WrapperModel.CommandLine
