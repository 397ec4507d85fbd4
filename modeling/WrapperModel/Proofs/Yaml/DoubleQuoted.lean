import WrapperModel.Proofs.Yaml.Plain
import WrapperModel.Yaml.Printer

/-!
# `WrapperModel.Proofs.Yaml.DoubleQuoted`: a text between double quotes reads back

Every character is written for itself, by a letter behind a backslash, or by its number.
The reader undoes each of the three, and keeps the spaces among the characters in a gap.

* `coded?_hexDigits`: the digits of a number denote its character.
* `doubleQuoted_letter`, `doubleQuoted_coded2` and the like: a single escape is read back.
* `doubleQuoted_escapeChar`: one written character is read back.
* `doubleQuoted_body`: a whole text is read up to its closing quote.
-/

set_option autoImplicit false

namespace WrapperModel.Yaml

/-! ### Characters by number -/

/-- `hexValue?` reads a digit as the number that it was written for. -/
theorem hexValue?_hexDigit : ∀ n < 16, hexValue? (hexDigit n) = some n := by
  decide

/-- Digits in front of further ones denote what they count for in the whole number. The `value` in
front is general, because every digit read becomes part of it. -/
theorem foldlM_hexDigits (count value n : Nat) :
    (hexDigits count n).foldlM (fun value c => (hexValue? c).map (value * 16 + ·)) value =
      some (value * Nat.pow 16 count + n % Nat.pow 16 count) := by
  -- The first digit counts sixteen times what the other digits can.
  induction count generalizing value with
  | zero => simp [hexDigits, Nat.mod_one]
  | succ count ih =>
    have hdigit := hexValue?_hexDigit (n / Nat.pow 16 count % 16) (Nat.mod_lt _ (by decide))
    have hpow : Nat.pow 16 (count + 1) = Nat.pow 16 count * 16 := rfl
    rw [hexDigits, List.foldlM_cons, hdigit]
    simp only [Option.map_some, Option.bind_eq_bind, Option.bind_some, ih]
    rw [hpow, Nat.mod_mul, Nat.add_mul, Nat.mul_comm (n / Nat.pow 16 count % 16), Nat.mul_assoc,
      Nat.mul_comm 16, Nat.add_assoc, Nat.add_comm (n % Nat.pow 16 count)]

/-- The digits of a character's number denote the character (`coded?`), provided that there are
enough of them. -/
theorem coded?_hexDigits {count : Nat} {c : Char} (h : c.toNat < Nat.pow 16 count) :
    coded? (hexDigits count c.toNat) = some c := by
  have hcode := foldlM_hexDigits count 0 c.toNat
  rw [Nat.zero_mul, Nat.zero_add, Nat.mod_eq_of_lt h] at hcode
  have hcond : (decide (c.toNat ≤ 0x10FFFF) &&
      !(decide (0xD800 ≤ c.toNat) && decide (c.toNat ≤ 0xDFFF))) = true := by
    -- The halves are refused, and no character is one of them.
    simpa using toNat_le_and_not_half c
  have hchar : Char.ofNat c.toNat = c := Char.ofNat_toNat c
  rw [coded?, hcode]
  simp only [Option.bind_eq_bind, Option.bind_some, hcond, if_true, hchar]

/-! ### One character -/

/-- What is looked up in a table stands in it. So a property of all rows of `escapeLetter?` holds of
the one that is found. -/
theorem mem_of_lookup_eq_some {α β : Type} [BEq α] [LawfulBEq α] {key : α} {value : β}
    {table : List (α × β)} (h : table.lookup key = some value) : (key, value) ∈ table := by
  obtain ⟨before, after, htable, -⟩ := List.lookup_eq_some_iff.1 h
  rw [htable]
  exact List.mem_append_right before List.mem_cons_self

/-- A character with a letter (`escapeLetter?`) is read back from its letter. The table has fifteen
letters, and each of them is checked. -/
theorem doubleQuoted_letter {c letter : Char} (h : escapeLetter? c = some letter)
    (text : List Char) (gap : Gap) (line column : Nat) (rest : List Char) :
    doubleQuoted text gap line column ('\\' :: letter :: rest) =
      doubleQuoted (c :: (gap.text.reverse ++ text)) {} line (column + 2) rest := by
  have hmem := mem_of_lookup_eq_some h
  simp only [List.mem_cons, Prod.mk.injEq, List.not_mem_nil, or_false] at hmem
  -- by the letter, since the reader has a case for each of them
  rcases hmem with ⟨rfl, rfl⟩ | ⟨rfl, rfl⟩ | ⟨rfl, rfl⟩ | ⟨rfl, rfl⟩ | ⟨rfl, rfl⟩ | ⟨rfl, rfl⟩ |
    ⟨rfl, rfl⟩ | ⟨rfl, rfl⟩ | ⟨rfl, rfl⟩ | ⟨rfl, rfl⟩ | ⟨rfl, rfl⟩ | ⟨rfl, rfl⟩ | ⟨rfl, rfl⟩ |
    ⟨rfl, rfl⟩ | ⟨rfl, rfl⟩
  all_goals rfl

/-- A character is read back from two digits, if they suffice for its number. `escapeChar` writes
two digits under the same condition. -/
theorem doubleQuoted_coded2 (text : List Char) (gap : Gap) (line column : Nat) {c : Char}
    (rest : List Char) (h : c.toNat < 0x100) :
    doubleQuoted text gap line column ('\\' :: 'x' :: hexDigits 2 c.toNat ++ rest) =
      doubleQuoted (c :: (gap.text.reverse ++ text)) {} line (column + 4) rest := by
  have hcode : coded? (hexDigits 2 c.toNat) = some c := coded?_hexDigits h
  simp only [hexDigits] at hcode
  simp only [hexDigits, List.cons_append, List.nil_append, doubleQuoted, hcode]

/-- A character is read back from four digits, if they suffice for its number. It is
`doubleQuoted_coded2` with another letter and count. -/
theorem doubleQuoted_coded4 (text : List Char) (gap : Gap) (line column : Nat) {c : Char}
    (rest : List Char) (h : c.toNat < 0x10000) :
    doubleQuoted text gap line column ('\\' :: 'u' :: hexDigits 4 c.toNat ++ rest) =
      doubleQuoted (c :: (gap.text.reverse ++ text)) {} line (column + 6) rest := by
  have hcode : coded? (hexDigits 4 c.toNat) = some c := coded?_hexDigits h
  simp only [hexDigits] at hcode
  simp only [hexDigits, List.cons_append, List.nil_append, doubleQuoted, hcode]

/-- Every character is read back from eight digits, since they suffice for all code points. -/
theorem doubleQuoted_coded8 (text : List Char) (gap : Gap) (line column : Nat) (c : Char)
    (rest : List Char) :
    doubleQuoted text gap line column ('\\' :: 'U' :: hexDigits 8 c.toNat ++ rest) =
      doubleQuoted (c :: (gap.text.reverse ++ text)) {} line (column + 10) rest := by
  have hlimit : c.toNat < 0x100000000 :=
    Nat.lt_of_le_of_lt (toNat_le_and_not_half c).1 (by decide)
  have hcode : coded? (hexDigits 8 c.toNat) = some c := coded?_hexDigits hlimit
  simp only [hexDigits] at hcode
  simp only [hexDigits, List.cons_append, List.nil_append, doubleQuoted, hcode]

/-- A character that stands for itself ends the gap and goes to the text. It may not stand in the
first column, where it could be part of a mark of the document (`atDocumentMarker`). -/
theorem doubleQuoted_char (text : List Char) (gap : Gap) (line column : Nat) {c : Char}
    (rest : List Char) (hspace : c ≠ ' ') (hprintable : isPrintable c = true)
    (hbreak : isBreak c = false) (hquote : c ≠ '"') (hbackslash : c ≠ '\\')
    (hcolumn : column ≠ 0) :
    doubleQuoted text gap line column (c :: rest) =
      doubleQuoted (c :: (gap.text.reverse ++ text)) {} line (column + 1) rest := by
  have hblank := isBlank_of_isPrintable hprintable hspace
  have hmarker := atDocumentMarker_eq_false hcolumn (c :: rest)
  rw [doubleQuoted]
  · simp [hblank, hbreak, hmarker, hquote, hbackslash]
  all_goals
    intros
    exact hbackslash ‹_›

/-- A character as `escapeChar` writes it is read back: a space goes into the gap, any other
character behind the text and the gap. Either way the text and the gap together gain the
character. -/
theorem doubleQuoted_escapeChar (text blanks : List Char) (line column : Nat) (c : Char)
    (rest : List Char) (hcolumn : column ≠ 0) :
    ∃ text' blanks' column', column' ≠ 0 ∧
      text'.reverse ++ blanks'.reverse = text.reverse ++ blanks.reverse ++ [c] ∧
      doubleQuoted text { blanks } line column (escapeChar c ++ rest) =
        doubleQuoted text' { blanks := blanks' } line column' rest := by
  rw [escapeChar]
  split
  · rename_i hself
    simp only [Bool.and_eq_true, Bool.not_eq_true', bne_iff_ne, ne_eq] at hself
    obtain ⟨⟨⟨hprintable, hbreak⟩, hquote⟩, hbackslash⟩ := hself
    by_cases hspace : c = ' '
    · subst hspace
      exact ⟨text, ' ' :: blanks, column + 1, by omega, by simp, rfl⟩
    · refine ⟨c :: (blanks ++ text), [], column + 1, by omega, by simp, ?_⟩
      have hchar := doubleQuoted_char text { blanks } line column rest hspace hprintable hbreak
        hquote hbackslash hcolumn
      simpa [Gap.text] using hchar
  · rename_i hself
    -- The character goes behind what was put aside, whichever escape is taken.
    refine ⟨c :: (blanks ++ text), [], ?_⟩
    split
    · rename_i letter hletter
      refine ⟨column + 2, by omega, by simp, ?_⟩
      have hread := doubleQuoted_letter hletter text { blanks } line column rest
      simpa [Gap.text] using hread
    · split
      · rename_i hcode
        refine ⟨column + 4, by omega, by simp, ?_⟩
        rw [doubleQuoted_coded2 _ _ _ _ _ (by omega)]
        simp [Gap.text]
      · split
        · rename_i hcode
          refine ⟨column + 6, by omega, by simp, ?_⟩
          rw [doubleQuoted_coded4 _ _ _ _ _ (by omega)]
          simp [Gap.text]
        · refine ⟨column + 10, by omega, by simp, ?_⟩
          rw [doubleQuoted_coded8]
          simp [Gap.text]

/-! ### The whole text -/

/-- The characters of a text are read behind what was read before. The spaces among `blanks` wait
for the character that ends them. -/
theorem doubleQuoted_append (cs text blanks : List Char) (line column : Nat) (more : List Char)
    (hcolumn : column ≠ 0) :
    ∃ column', doubleQuoted text { blanks } line column (cs.flatMap escapeChar ++ '"' :: more) =
      .ok (text.reverse ++ blanks.reverse ++ cs, ⟨more, line, column'⟩) := by
  -- Blanks wait in the gap until a character follows, so both are generalized.
  induction cs generalizing text blanks column with
  | nil =>
    have hmarker := atDocumentMarker_cons (c := '"') (by decide) (by decide) column more
    have hblank : isBlank '"' = false := by decide
    have hbreak : isBreak '"' = false := by decide
    refine ⟨column + 1, ?_⟩
    simp [doubleQuoted, hmarker, hblank, hbreak, Gap.text]
  | cons c cs ih =>
    obtain ⟨text', blanks', next, hnext, htext, hread⟩ := doubleQuoted_escapeChar text blanks line
      column c (cs.flatMap escapeChar ++ '"' :: more) hcolumn
    obtain ⟨column', hrest⟩ := ih text' blanks' next hnext
    refine ⟨column', ?_⟩
    rw [List.flatMap_cons, List.append_assoc, hread, hrest, htext]
    simp

/-- What the writer makes of a text is read from behind its opening quote. There is no condition on
the text: every one can be written like this, which is why `styleOf` can fall back on it. -/
theorem doubleQuoted_body (cs : List Char) (line column : Nat) (more : List Char)
    (hcolumn : column ≠ 0) :
    ∃ column', doubleQuoted [] {} line column (cs.flatMap escapeChar ++ '"' :: more) =
      .ok (cs, ⟨more, line, column'⟩) :=
  doubleQuoted_append cs [] [] line column more hcolumn

end WrapperModel.Yaml
