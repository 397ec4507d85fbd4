/-!
# `WrapperModel.Text.Replace`: replacing a piece of text

`replaceAll` puts another text in the place of every occurrence of a pattern, found from
left to right. What is put in is not searched again.
-/

set_option autoImplicit false

namespace WrapperModel.Text

/-- The characters with every occurrence of the pattern `first :: more` replaced, from left to
right. Behind an occurrence the search goes on at its end, so occurrences do not overlap. -/
def replaceChars (first : Char) (more replacement : List Char) : List Char → List Char
  | [] => []
  | c :: rest =>
    if c = first && more.isPrefixOf rest then
      replacement ++ replaceChars first more replacement (rest.drop more.length)
    else c :: replaceChars first more replacement rest
  termination_by cs => cs.length
  decreasing_by
    · simp only [List.length_cons, List.length_drop]; omega
    · simp

/-- The text with every occurrence of the pattern replaced; an empty pattern occurs nowhere. -/
def replaceAll (pattern replacement s : String) : String :=
  match pattern.toList with
  | [] => s
  | first :: more => String.ofList (replaceChars first more replacement.toList s.toList)

end WrapperModel.Text
