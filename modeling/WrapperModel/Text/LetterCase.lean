import WrapperModel.Text.CaseTables

/-!
# `WrapperModel.Text.LetterCase`: changing the case of text

* `upperChar` and `lowerChar` are the full mappings of one character, which may have
  several characters.
* `lowercase` maps a whole text. A capital sigma depends on its surroundings: at the
  end of a word it becomes the final small sigma.
* `lowerAscii` changes the 26 basic letters alone.
-/

set_option autoImplicit false

namespace WrapperModel.Text

/-- The upper-case form of a character, one or more characters. The expansions come first, since a
code that has one has no entry among the shifts. -/
def upperChar (c : Char) : List Char :=
  match upperExpansions.lookup c.toNat with
  | some codes => codes.map Char.ofNat
  | none =>
    match shifted? upperShifts c with
    | some image => [image]
    | none => [c]

/-- The lower-case form of a character on its own. The capital `i` with a dot is the only character
whose form has two characters. -/
def lowerChar (c : Char) : List Char :=
  if c = 'İ' then ['i', '\u0307']
  else
    match shifted? lowerShifts c with
    | some image => [image]
    | none => [c]

/-- Past the characters that have no say in case, a letter with a case follows. `lowerAfter` asks
this of what stands behind a sigma and, read backwards, of what stands before it. -/
def meetsCased (cs : List Char) : Bool :=
  match cs.dropWhile (onRuns caseIgnorableRuns) with
  | [] => false
  | c :: _ => onRuns casedRuns c

/-- The lower-case form of `cs` that stands after `before`, which is written backwards. A sigma is
final when a cased letter stands before it and none after it; all other characters are mapped by
`lowerChar` without looking around. -/
def lowerAfter (before : List Char) : List Char → List Char
  | [] => []
  | c :: rest =>
    (if c = 'Σ' then [if meetsCased before && !meetsCased rest then 'ς' else 'σ']
      else lowerChar c) ++ lowerAfter (c :: before) rest

/-- The text in lower case, `lowerAfter` with nothing in front. -/
def lowercase (s : String) : String :=
  String.ofList (lowerAfter [] s.toList)

/-- The text with its basic Latin capitals made small and all else kept. The endings of plurals are
asked for in texts of this form, while `placeholderName` makes its segment small by the full
`lowercase`. -/
def lowerAscii (s : String) : String :=
  String.ofList (s.toList.map Char.toLower)

end WrapperModel.Text
