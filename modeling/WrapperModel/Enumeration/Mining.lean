import WrapperModel.Text.Pieces
import WrapperModel.Text.WordCharacter

/-!
# `WrapperModel.Enumeration.Mining`: literal sets in descriptions

Descriptions of options often list the accepted values: quoted, with bars between them
and parentheses around, as in `Format ("json"|"table")`. `mine` finds the first such
list of two literals or more and gives its literals, each once. Nothing else counts: a
blank inside the list, a literal without quotes or a single literal make it no list.
-/

set_option autoImplicit false

namespace WrapperModel.Enumeration

open WrapperModel.Text

/-- Characters of a literal: word characters of any script, the plus sign and the hyphen. -/
def isLiteralChar (c : Char) : Bool :=
  isWordCharacter c || c = '+' || c = '-'

/-- The literal between two quotes. It holds at least one character, and only those of
`isLiteralChar`, so no quote and no bar. -/
def unquote? : List Char → Option (List Char)
  | '"' :: rest =>
    let literal := rest.dropLast
    if rest.getLast? = some '"' && !literal.isEmpty && literal.all isLiteralChar then
      some literal
    else none
  | _ => none

/-- The literals of a list that was opened just before `cs`. The list reaches to the first closing
parenthesis, which has to be there, and its bars cut it into two items at least, each of which is a
literal. -/
def literalList? (cs : List Char) : Option (List (List Char)) :=
  let body := cs.takeWhile (· ≠ ')')
  let items := body.splitOn '|'
  if body.length < cs.length && 2 ≤ items.length then items.mapM unquote? else none

/-- The literals of the list that begins first. Where an opening parenthesis begins no list, the
search goes on behind it, so a list may stand in an aside. -/
def firstLiteralList? : List Char → Option (List (List Char))
  | [] => none
  | c :: rest =>
    match if c = '(' then literalList? rest else none with
    | some literals => some literals
    | none => firstLiteralList? rest

/-- The literals that a description lists, each once and in the order in which they come first. It
is `none` where the description has no list, so an enumeration is never without values. -/
def mine (description : String) : Option (List String) :=
  (firstLiteralList? description.toList).map fun literals =>
    (literals.map String.ofList).eraseDups

end WrapperModel.Enumeration
