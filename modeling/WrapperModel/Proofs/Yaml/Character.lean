import WrapperModel.Yaml.Character

/-!
# `WrapperModel.Proofs.Yaml.Character`: printable and accepted characters

Of the printable characters only the space is a blank, and all of them are accepted by the
reader. Beyond them it accepts a tab, a byte order mark and two more breaks, which it takes for
line feeds; the others stay as they are (`isKept`).
-/

set_option autoImplicit false

namespace WrapperModel.Yaml

/-- A printable character is none that is not printable (`isPrintable`). It tells a printable
character from a given one, such as the tab, by evaluation. -/
theorem ne_of_isPrintable {c d : Char} (hc : isPrintable c = true) (hd : isPrintable d = false) :
    c ≠ d := by
  rintro rfl
  rw [hc] at hd
  exact Bool.noConfusion hd

/-- A printable character that is no space is no blank (`isBlank`), since the tab is not
printable. -/
theorem isBlank_of_isPrintable {c : Char} (hc : isPrintable c = true) (hspace : c ≠ ' ') :
    isBlank c = false := by
  have htab : c ≠ '\t' := ne_of_isPrintable hc (by decide)
  simp [isBlank, hspace, htab]

/-- The number of a character is a code point, and none of the halves. So every character can be
written by its number and read back by `coded?`. -/
theorem toNat_le_and_not_half (c : Char) :
    c.toNat ≤ 0x10FFFF ∧ (c.toNat < 0xD800 ∨ 0xDFFF < c.toNat) := by
  have hchar := c.valid
  simp only [UInt32.isValidChar, Nat.isValidChar] at hchar
  have hnat : c.toNat = c.val.toNat := rfl
  omega

/-- Every printable character is accepted, so `tokens` refuses no document that was written for its
characters. -/
theorem isAccepted_of_isPrintable {c : Char} (hc : isPrintable c = true) :
    isAccepted c = true := by
  have hvalid := toNat_le_and_not_half c
  simp only [isPrintable, isAccepted, Bool.or_eq_true, Bool.and_eq_true, decide_eq_true_eq,
    bne_iff_ne, ne_eq] at hc ⊢
  rcases hc with (rfl | ⟨hlow, hhigh⟩) | ⟨⟨⟨hlow, -⟩, hfffe⟩, hffff⟩
  · simp
  · simp [hlow, hhigh]
  · -- Beyond the basic plane all is accepted; of its end the last two are not printable.
    by_cases hbasic : c.toNat ≤ 0xFFFD
    · simp [hlow, hbasic]
    · have hbeyond : 0x10000 ≤ c.toNat := by omega
      simp [hbeyond]

/-- An accepted character that is neither a blank nor a break goes on with a word
(`isBlankOrBreak`). The null character would end it, but is not accepted. -/
theorem isBlankOrBreak_of_isAccepted {c : Char} (hc : isAccepted c = true)
    (hblank : isBlank c = false) (hbreak : isBreak c = false) : isBlankOrBreak c = false := by
  have hnull : c ≠ '\x00' := by
    rintro rfl
    exact absurd hc (by decide)
  simp [isBlankOrBreak, hblank, hbreak, hnull]

/-- The character is accepted, and stays as it is where `unifyBreaks` rewrites breaks. A text of
such characters comes to the lexer as it was written. -/
def isKept (c : Char) : Bool :=
  isAccepted c && c != '\r' && c != nextLine

/-- Every printable character is kept (`isKept`): neither of the breaks that `unifyBreaks` rewrites
is printable. -/
theorem isKept_of_isPrintable {c : Char} (hc : isPrintable c = true) : isKept c = true := by
  have hreturn : c ≠ '\r' := ne_of_isPrintable hc (by decide)
  have hnext : c ≠ nextLine := ne_of_isPrintable hc (by decide)
  simp [isKept, isAccepted_of_isPrintable hc, hreturn, hnext]

/-- An accepted character that is no break is kept. Unlike `isKept_of_isPrintable` it covers the tab
and the byte order mark, which a word may hold. -/
theorem isKept_of_isAccepted {c : Char} (hc : isAccepted c = true) (hbreak : isBreak c = false) :
    isKept c = true := by
  simp only [isBreak, Bool.or_eq_false_iff, decide_eq_false_iff_not] at hbreak
  simp [isKept, hc, hbreak]

end WrapperModel.Yaml
