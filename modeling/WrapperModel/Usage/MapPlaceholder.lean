/-!
# `WrapperModel.Usage.MapPlaceholder`: placeholders for pairs

A map placeholder is `KEY=VALUE` with both words in basic capitals. An opening bracket
may stand in front and `...]` behind, each with or without the other.
`mapPlaceholder?` reads one and gives its two words; `repetition` writes the bracketed
form that says that an item may be repeated.
-/

set_option autoImplicit false

namespace WrapperModel.Usage

/-- One of the 26 basic capitals. Maps are stricter than other placeholders, which take capitals of
all scripts (`isUppercase`). -/
def isBasicCapital (c : Char) : Bool :=
  'A' ≤ c && c ≤ 'Z'

/-- What closes a repetition: three dots and a bracket. The dots stand directly behind what is
repeated. -/
def ellipsis : List Char := ['.', '.', '.', ']']

/-- The characters behind an opening bracket, if one stands in front. Only one is dropped. -/
def dropBracket : List Char → List Char
  | '[' :: rest => rest
  | cs => cs

/-- The two words of a map placeholder; nothing may stand before or behind it but the bracket in
front and the `ellipsis` at the end, which need not come together. -/
def mapPlaceholder? (cs : List Char) : Option (List Char × List Char) :=
  let body := dropBracket cs
  let key := body.takeWhile isBasicCapital
  match body.dropWhile isBasicCapital with
  | '=' :: rest =>
    let value := rest.takeWhile isBasicCapital
    let tail := rest.dropWhile isBasicCapital
    if !key.isEmpty && !value.isEmpty && (tail.isEmpty || tail = ellipsis) then
      some (key, value)
    else none
  | _ => none

/-- The form that says that `cs` may be repeated: `[cs...]`. -/
def repetition (cs : List Char) : List Char :=
  '[' :: cs ++ ellipsis

/-- The item is written as a repetition itself, with a bracket in front and the `ellipsis` at the
end. It may be so short that nothing is repeated. -/
def isRepetition (cs : List Char) : Bool :=
  ['['].isPrefixOf cs && ellipsis.isSuffixOf cs

end WrapperModel.Usage
