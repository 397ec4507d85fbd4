import Mathlib.Algebra.GroupWithZero.Nat
import Mathlib.Algebra.Order.BigOperators.Group.List
import WrapperModel.Text.Bytes

/-!
# `WrapperModel.Proofs.Text.Bytes`: texts and their bytes

The `bytes` of a text are those of its characters one after the other. So the bytes of two
texts make up those of both together, and a text has no fewer bytes than characters.

Bytes are cut into bytes of texts only between characters. A byte below 128 is a character of
its own, so where such a byte stands in the bytes of a text, what stands in front of it is the
bytes of a text too.

* `bytes_append`: the bytes of two texts together.
* `isText_of_append`: what stands in front of an ASCII byte in a text is a text.
* `length_le_utf8ByteSize`: a text has at least as many bytes as characters.
-/

set_option autoImplicit false

namespace WrapperModel.Text

/-- The `bytes` of two texts together are those of the one and then those of the other, so a path
can be put together from texts. -/
theorem bytes_append (s t : String) : bytes (s ++ t) = bytes s ++ bytes t := by
  simp [bytes, String.toByteArray_append]

/-- Texts with the same `bytes` are the same, since `text?` finds each of them again. -/
theorem bytes_inj {s t : String} : bytes s = bytes t ↔ s = t := by
  refine ⟨fun h => ?_, congrArg bytes⟩
  have hs : text? (bytes s) = some s := text?_eq_some_iff.2 rfl
  exact Option.some.inj (hs.symm.trans (text?_eq_some_iff.2 h))

/-- A text has as many `bytes` as the library counts with `String.utf8ByteSize`. -/
theorem length_bytes (s : String) : (bytes s).length = s.utf8ByteSize := by
  rw [bytes, Array.length_toList, ByteArray.size_data, String.toUTF8_eq_toByteArray,
    String.size_toByteArray]

/-! ### Bytes of texts -/

/-- The bytes are those of a text. Names of files need not be, and what is promised of them depends
on it. -/
def IsText (bs : List UInt8) : Prop :=
  ∃ s, bs = bytes s

/-- `text?` decides which bytes are those of a text, which makes `IsText` decidable. -/
theorem isSome_text?_iff {bs : List UInt8} : (text? bs).isSome = true ↔ IsText bs := by
  simp only [Option.isSome_iff_exists, text?_eq_some_iff, IsText]

instance (bs : List UInt8) : Decidable (IsText bs) :=
  decidable_of_iff _ isSome_text?_iff

/-- `text?` gives nothing for bytes that are those of no text, and only for these. -/
theorem text?_eq_none_iff {bs : List UInt8} : text? bs = none ↔ ¬IsText bs := by
  rw [← isSome_text?_iff, Bool.not_eq_true, Option.isSome_eq_false_iff, Option.isNone_iff_eq_none]

/-- What stands in a text in front of a byte that begins a character is a text itself. Other
bytes stand inside of a character, and what is in front of them ends with half of it. -/
theorem isText_of_append {bs behind : List UInt8} {b : UInt8} (hb : b.IsUTF8FirstByte)
    (h : IsText (bs ++ b :: behind)) : IsText bs := by
  obtain ⟨s, hs⟩ := h
  have hdata : s.toByteArray.data.toList = bs ++ b :: behind := hs.symm
  have hsize : bs.length < s.toByteArray.size := by
    rw [← ByteArray.size_data, ← Array.length_toList, hdata, List.length_append, List.length_cons]
    omega
  -- The place of the byte is one at which the text can be cut, and the cut gives two texts.
  have hbyte : s.toByteArray[bs.length] = b := by
    rw [ByteArray.getElem_eq_getElem_data, ← Array.getElem_toList]
    simp [hdata]
  have hcut : String.Pos.Raw.IsValid s ⟨bs.length⟩ := by
    rw [String.Pos.Raw.isValid_iff_isUTF8FirstByte]
    refine .inr ⟨?_, ?_⟩
    · rw [String.Pos.Raw.lt_iff]
      simpa [String.size_toByteArray] using hsize
    · show s.toByteArray[bs.length].IsUTF8FirstByte
      rw [hbyte]
      exact hb
  -- Both cuts are at the same place, so what is in front of them is the same.
  obtain ⟨front, back, rfl, hplace⟩ := String.Pos.Raw.isValid_iff_exists_append.1 hcut
  have hlength : bs.length = (bytes front).length := by
    rw [length_bytes]
    exact congrArg String.Pos.Raw.byteIdx hplace
  rw [bytes_append] at hs
  exact ⟨front, List.append_inj_left hs hlength⟩

/-! ### Sizes -/

/-- The `bytes` of a text are those of its characters, one after the other. This is the form in
which texts that are made of characters can be computed with. -/
theorem bytes_eq_flatMap (s : String) : bytes s = s.toList.flatMap String.utf8EncodeChar := by
  rw [bytes, String.toUTF8_eq_toByteArray, ← String.utf8Encode_toList]
  exact List.toList_data_toByteArray

/-- A text takes as many bytes as its characters take together, each by `Char.utf8Size`. -/
theorem utf8ByteSize_eq_sum (s : String) :
    s.utf8ByteSize = (s.toList.map Char.utf8Size).sum := by
  rw [← length_bytes, bytes_eq_flatMap, List.length_flatMap]
  simp only [String.length_utf8EncodeChar]

/-- A text has at least as many bytes as characters, since no character takes none. A column that
has room for the bytes has room for the characters. -/
theorem length_le_utf8ByteSize (s : String) : s.toList.length ≤ s.utf8ByteSize := by
  rw [utf8ByteSize_eq_sum, ← List.length_map Char.utf8Size]
  refine List.length_le_sum_of_one_le _ fun size hsize => ?_
  obtain ⟨c, -, rfl⟩ := List.mem_map.1 hsize
  exact c.utf8Size_pos

/-- A text of one character over and over takes the bytes of that character each time. So there are
texts of any size in bytes, which reach every limit that is set in bytes. -/
theorem utf8ByteSize_replicate (count : Nat) (c : Char) :
    (String.ofList (List.replicate count c)).utf8ByteSize = count * c.utf8Size := by
  rw [utf8ByteSize_eq_sum, String.toList_ofList, List.map_replicate, List.sum_replicate_nat]

end WrapperModel.Text
