/-!
# `WrapperModel.Text.Bytes`: texts as bytes

The machine knows names of files and what stands in files as bytes alone. A text has
`bytes`, and `text?` finds the text again. Not all bytes are those of a text.
-/

set_option autoImplicit false

namespace WrapperModel.Text

/-- The bytes of a text in the encoding UTF-8, as a list, so that the lemmas about lists apply to
names and paths. -/
def bytes (s : String) : List UInt8 :=
  s.toUTF8.data.toList

/-- The text that has these bytes, if there is one. Bytes that are not well formed in UTF-8 are
those of no text; `text?_eq_some_iff` says that there is no other reason. -/
def text? (bs : List UInt8) : Option String :=
  String.fromUTF8? ⟨bs.toArray⟩

/-- `text?` gives a text for its `bytes` and for no others. So two texts never have the same
bytes, and `text?` gives nothing exactly for bytes that are not well formed. -/
theorem text?_eq_some_iff {bs : List UInt8} {s : String} : text? bs = some s ↔ bs = bytes s := by
  constructor
  · intro h
    -- The library gives a text only for bytes that are proved to be one, and keeps them.
    unfold text? String.fromUTF8? at h
    split at h
    · cases h
      show bs = bs.toArray.toList
      rw [List.toList_toArray]
    · cases h
  · rintro rfl
    rw [text?, bytes, Array.toArray_toList]
    exact dif_pos s.isValidUTF8

end WrapperModel.Text
