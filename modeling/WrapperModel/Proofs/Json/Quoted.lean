import WrapperModel.Json.Quoted

/-!
# `WrapperModel.Proofs.Json.Quoted`: a quoted text reads back

`quote` escapes character by character, so reading undoes it character by character.
`writtenPiece` is what the reader makes of one written character: the character itself, or
for a control character without a letter the unit of its number.

* `scanQuoted_escapeChar`: one written character is read as its piece.
* `textOfPieces_writtenPiece`: the pieces of a text denote the text.
* `quoted?_quote`: what follows the opening quote of a written text reads back as the text,
  whatever stands behind.
-/

set_option autoImplicit false

namespace WrapperModel.Json

/-! ### Escapes by number -/

/-- A control character that is escaped by its number: it is below the space and has no letter of
its own in `escapeChar`. -/
def isNumbered (c : Char) : Bool :=
  decide (c.toNat < 32) && c != '\n' && c != '\r' && c != '\t' && c != '\x08' && c != '\x0c'

/-- What the reader makes of a written character: the character itself, or the unit of its number.
`textOfPieces` makes the character of either. -/
def writtenPiece (c : Char) : Piece :=
  if isNumbered c then .unit c.toNat else .char c

/-- A digit of `hexDigit` is read by `hexValue?` as the number that it was written for. -/
theorem hexValue?_hexDigit : ∀ n < 16, hexValue? (hexDigit n) = some n := by
  decide

/-- The four digits of an escape are read as the number of the control character. Such a number has
no more than two digits that matter, so two zeros stand in front. -/
theorem unit?_hexDigits {n : Nat} (h : n < 32) :
    unit? '0' '0' (hexDigit (n / 16)) (hexDigit (n % 16)) = some n := by
  have hzero : hexValue? '0' = some 0 := by decide
  have hhigh := hexValue?_hexDigit (n / 16) (by omega)
  have hlow := hexValue?_hexDigit (n % 16) (by omega)
  have hvalue : ((0 * 16 + 0) * 16 + n / 16) * 16 + n % 16 = n := by omega
  simp only [unit?, hzero, hhigh, hlow]
  exact congrArg some hvalue

/-- One character that `escapeChar` has written is read as its `writtenPiece`, whatever stands
behind it. The cases are those of `escapeChar`, in their order. -/
theorem scanQuoted_escapeChar (done : List Piece) (c : Char) (rest : List Char) :
    scanQuoted done (escapeChar c ++ rest) = scanQuoted (writtenPiece c :: done) rest := by
  unfold escapeChar
  split
  · rename_i hc
    subst hc
    rfl
  · split
    · rename_i hc
      subst hc
      rfl
    · -- The five control characters that have a letter, one after the other.
      iterate 5
        split
        · rename_i hc
          subst hc
          rfl
      rename_i hquote hbackslash hn hr ht hb hf
      split
      · rename_i hcontrol
        have hpiece : writtenPiece c = .unit c.toNat := by
          simp [writtenPiece, isNumbered, hcontrol, hn, hr, ht, hb, hf]
        rw [hpiece]
        simp only [List.cons_append, List.nil_append, scanQuoted, unit?_hexDigits hcontrol]
      · rename_i hcontrol
        have hpiece : writtenPiece c = .char c := by simp [writtenPiece, isNumbered, hcontrol]
        rw [hpiece, List.singleton_append]
        simp [scanQuoted, hbackslash, hcontrol]

/-- A written text is read up to its closing quote. No character of the text ends it early, for a
quote within it has a backslash in front. -/
theorem scanQuoted_flatMap_escapeChar (done : List Piece) (cs rest : List Char) :
    scanQuoted done (cs.flatMap escapeChar ++ '"' :: rest) =
      some (done.reverse ++ cs.map writtenPiece, rest) := by
  -- on the text, for any `done`: each character adds its piece there
  induction cs generalizing done with
  | nil => simp [scanQuoted]
  | cons c cs ih =>
    rw [List.flatMap_cons, List.append_assoc, scanQuoted_escapeChar, ih]
    simp

/-! ### The text of the pieces -/

/-- A numbered control character is its own unit, which is no half of a character, so the unit is
read like the character. -/
theorem textOfPieces_numbered {c : Char} (hc : isNumbered c = true) (done : List Char)
    (rest : List Piece) :
    textOfPieces done (.unit c.toNat :: rest) = textOfPieces (c :: done) rest := by
  have hlt : c.toNat < 32 := by
    simp only [isNumbered, Bool.and_eq_true, decide_eq_true_eq] at hc
    omega
  -- A control character is far below the halves of a pair, so it stands for itself.
  have hhigh : isHighHalf c.toNat = false := by simp [isHighHalf]; omega
  have hlow : isLowHalf c.toNat = false := by simp [isLowHalf]; omega
  cases rest with
  | nil => simp [textOfPieces, hhigh, hlow]
  | cons piece more => cases piece <;> simp [textOfPieces, hhigh, hlow]

/-- The pieces of a written text denote the text, behind what is `done`. -/
theorem textOfPieces_writtenPiece (done cs : List Char) :
    textOfPieces done (cs.map writtenPiece) = some (done.reverse ++ cs) := by
  induction cs generalizing done with
  | nil => simp [textOfPieces]
  | cons c cs ih =>
    rw [List.map_cons, writtenPiece]
    -- A numbered character comes as a unit, any other one as it is.
    split
    · rename_i hc
      rw [textOfPieces_numbered hc, ih]
      simp
    · rw [textOfPieces, ih]
      simp

/-- What follows the opening quote of a written text reads back as the text, whatever stands behind
the closing one. -/
theorem quoted?_quote (cs rest : List Char) :
    quoted? (cs.flatMap escapeChar ++ '"' :: rest) = some (some (String.ofList cs), rest) := by
  rw [quoted?, scanQuoted_flatMap_escapeChar]
  simp [textOfPieces_writtenPiece]

end WrapperModel.Json
