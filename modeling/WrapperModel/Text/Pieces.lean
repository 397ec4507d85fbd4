/-!
# `WrapperModel.Text.Pieces`: cutting text at separators and joining it again

The library's `List.splitOnP` and `List.splitOn` cut at every separator and keep empty
pieces, so there is always one piece more than there are separators.

* `split` does so with a text.
* `runsWithout` keeps the pieces that hold something.
* `joinWith` puts a separator between neighbours.
* `startsWith` and `endsWith` look at the ends of a text.
-/

set_option autoImplicit false

namespace WrapperModel.Text

/-- The pieces that hold something: the maximal runs of characters that fail the test. Where
`List.splitOnP` has an empty piece between two neighbouring separators, nothing is here. -/
def runsWithout (p : Char → Bool) (cs : List Char) : List (List Char) :=
  (cs.splitOnP p).filter fun piece => !piece.isEmpty

/-- The texts in order with the separator between neighbours. No texts give the empty text, as the
empty text alone does. -/
def joinWith (separator : String) (texts : List String) : String :=
  String.intercalate separator texts

/-- The pieces of a text between the places where a character stands, empty ones included;
`joinWith_split` puts them together again. -/
def split (c : Char) (s : String) : List String :=
  (s.toList.splitOn c).map String.ofList

/-- The text begins with `start`. Every text begins with the empty one. -/
def startsWith (start s : String) : Bool :=
  start.toList.isPrefixOf s.toList

/-- The text ends with `ending`. Every text ends with the empty one. -/
def endsWith (ending s : String) : Bool :=
  ending.toList.isSuffixOf s.toList

end WrapperModel.Text
