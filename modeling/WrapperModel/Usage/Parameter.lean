import WrapperModel.Naming
import WrapperModel.Text.Uppercase

/-!
# `WrapperModel.Usage.Parameter`: one item of a usage template

A usage template is a line such as `docker commit [OPTIONS] CONTAINER [REPOSITORY[:TAG]]`.
Its items are literal words of the command and placeholders for arguments. `isArgument`
tells them apart by the way they are written, and `name` is the property name of a
placeholder.
-/

set_option autoImplicit false

namespace WrapperModel.Usage

open WrapperModel.Text WrapperModel.Naming

/-- An item of a usage template. A literal word of the command is one as well; `isArgument` tells
the two apart. -/
structure Parameter where
  /-- The item as it is written, with a spaced alternation closed up. -/
  raw : String
  /-- It stands for a list of values. -/
  isList : Bool
  /-- It stands for a list of pairs. -/
  isDictionary : Bool
  deriving Repr, DecidableEq, Inhabited

/-- A capital, an underscore or a hyphen: what placeholder words are made of. Digits and small
letters are not among them. -/
def isPlaceholderChar (c : Char) : Bool :=
  isUppercase c || c = '_' || c = '-'

/-- A segment that is made of placeholder characters and has a capital among them, so that a hyphen
alone does not look like one. -/
def looksLikePlaceholder (segment : List Char) : Bool :=
  segment.any isUppercase && segment.all isPlaceholderChar

/-- Marks that surround a placeholder and do not belong to its name. `name` strips them off at both
ends before it looks for segments. -/
def isBracketMark (c : Char) : Bool :=
  ['[', ']', '.', ':', '@', '/', '(', ')'].contains c

/-- Marks that separate the segments of a placeholder: a colon, a bar and an opening bracket. The
name comes from one segment. -/
def isSegmentMark (c : Char) : Bool :=
  [':', '|', '['].contains c

namespace Parameter

/-- The item is a placeholder: it repeats, closes with a bracket, offers alternatives, or has no
character but capitals, underscores and hyphens. All other items are literal words of the
command. -/
def isArgument (p : Parameter) : Bool :=
  p.isList || p.isDictionary || [']'].isSuffixOf p.raw.toList || p.raw.toList.contains '|' ||
    p.raw.toList.all isPlaceholderChar

/-- The segment that names a placeholder: the first that `looksLikePlaceholder`, else the first. A
text of nothing but marks has no segment, and the name is then made of no characters. -/
def namingSegment (cs : List Char) : List Char :=
  let segments := runsWithout isSegmentMark cs
  match segments.find? looksLikePlaceholder with
  | some segment => segment
  | none => segments.headD []

/-- The property name of a placeholder. A map joins both its sides, `KEY=VALUE` giving `KeyValue`;
anything else takes its `namingSegment`. -/
def name (p : Parameter) : String :=
  let bare := trimWhere isBracketMark p.raw
  if p.isDictionary then pascalCase (lowercase bare) '='
  else placeholderName (String.ofList (namingSegment bare.toList))

end Parameter

end WrapperModel.Usage
