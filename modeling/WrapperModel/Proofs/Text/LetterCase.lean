import WrapperModel.Text.Blank
import WrapperModel.Text.LetterCase

/-!
# `WrapperModel.Proofs.Text.LetterCase`: what upper-case and lower-case forms are made of

`upperChar` reads two tables. `upperChar_cases` says once what can come of it: the
character itself, the codes of an expansion, or one code of a shifted run. Every fact about
upper-case forms is read off these three cases and a check of the tables. `lowerChar_cases` says
the same of lower case.

* `isBlank_ofNat` turns white space into a question about code points.
* `not_isBlank_of_mem_upperChar`: the upper-case form of a character that is no white space
  holds no white space.
* `upperChar_ne_nil`: no upper-case form is empty.
* `eq_of_mem_upperChar`: a mark that the tables do not lead to stands in no upper-case form but
  its own.
* `lowerAfter_ne_nil`: the lower-case form of a text is not empty if the text is not.
* `IsCaseless.mem_of_mem_lower`: a mark without case stands in a text that is made small only if
  it stood in the text before.
* `upperChar_of_basic`, `lowerAfter_of_basic`: among the basic characters the tables move the 26
  letters alone.
* `toLower_eq_iff`: what a character that rules of naming look for was before it was made small.
-/

set_option autoImplicit false

namespace WrapperModel.Text

/-- A code lies on a run between its ends, at a distance of whole steps from the first. It is
`CodeRun.contains` as a statement. -/
theorem CodeRun.contains_iff (run : CodeRun) (code : Nat) :
    run.contains code = true ↔
      run.first ≤ code ∧ code ≤ run.last ∧ (code - run.first) % run.step = 0 := by
  simp [CodeRun.contains, and_assoc]

/-- A code on the run of a shift lies between its ends. The bounds are all that the later lemmas
need of a shift; where its steps fall does not matter. -/
theorem CodeShift.bounds_of_contains (shift : CodeShift) {code : Nat}
    (h : shift.source.contains code = true) : shift.first ≤ code ∧ code ≤ shift.last := by
  obtain ⟨hfirst, hlast, -⟩ := (shift.source.contains_iff code).1 h
  exact ⟨hfirst, hlast⟩

/-- A character is moved by a shift on whose run it lies, to the place that `shifted?` reckons from
`image`. -/
theorem exists_of_shifted? {shifts : List CodeShift} {c image : Char}
    (h : shifted? shifts c = some image) :
    ∃ shift ∈ shifts, shift.source.contains c.toNat = true ∧
      image = Char.ofNat (shift.image + (c.toNat - shift.first)) := by
  obtain ⟨shift, hfind, rfl⟩ := Option.map_eq_some_iff.1 h
  exact ⟨shift, List.mem_of_find?_eq_some hfind, by simpa using List.find?_some hfind, rfl⟩

/-- The upper-case form of a character is the character, the codes that the table of
expansions gives for it, or the code to which a shift moves it. -/
theorem upperChar_cases (c : Char) :
    upperChar c = [c] ∨
    (∃ codes, (c.toNat, codes) ∈ upperExpansions ∧ upperChar c = codes.map Char.ofNat) ∨
    (∃ shift ∈ upperShifts, shift.source.contains c.toNat = true ∧
      upperChar c = [Char.ofNat (shift.image + (c.toNat - shift.first))]) := by
  unfold upperChar
  -- The table of expansions comes first, then the shifts; a character in neither stays.
  split
  · rename_i codes hcodes
    obtain ⟨before, after, hsplit, -⟩ := List.lookup_eq_some_iff.1 hcodes
    exact .inr (.inl ⟨codes, by simp [hsplit], rfl⟩)
  · split
    · rename_i image himage
      obtain ⟨shift, hshift, hsource, rfl⟩ := exists_of_shifted? himage
      exact .inr (.inr ⟨shift, hshift, hsource, rfl⟩)
    · exact .inl rfl

/-! ### White space -/

/-- A code is white space only if it lies on one of the runs: a number that is no code point
stands for the null character, which is none. -/
theorem isBlank_ofNat {code : Nat} (h : isBlank (Char.ofNat code) = true) :
    ∃ run ∈ blankRuns, run.contains code = true := by
  simp only [isBlank, onRuns, List.any_eq_true] at h
  obtain ⟨run, hrun, hcontains⟩ := h
  refine ⟨run, hrun, ?_⟩
  by_cases hvalid : code.isValidChar
  · rw [Char.ofNat, dif_pos hvalid] at hcontains
    exact hcontains
  · -- The null character lies on no run of white space.
    rw [Char.ofNat, dif_neg hvalid] at hcontains
    have hnull : ∀ run ∈ blankRuns, run.contains 0 = false := by decide
    exact absurd hcontains (by rw [show Char.toNat _ = 0 from rfl, hnull run hrun]; decide)

/-- No expansion of `upperExpansions` holds white space. A check of the table, entry by entry. -/
theorem upperExpansions_not_blank :
    ∀ entry ∈ upperExpansions, ∀ code ∈ entry.2, ∀ run ∈ blankRuns,
      run.contains code = false := by
  decide +kernel

/-- No shift moves a code to the stretch of a run of white space. Stretches are compared by their
ends, so that the check does not go through the code points. -/
theorem upperShifts_not_blank :
    ∀ shift ∈ upperShifts, ∀ run ∈ blankRuns,
      run.last < shift.image ∨ shift.image + (shift.last - shift.first) < run.first := by
  decide +kernel

/-- The upper-case form of a character that is no white space holds no white space. With this the
words of a name stay words when they are capitalised. -/
theorem not_isBlank_of_mem_upperChar {c d : Char} (hc : isBlank c = false)
    (hd : d ∈ upperChar c) : isBlank d = false := by
  rw [Bool.eq_false_iff]
  intro hblank
  rcases upperChar_cases c with h | ⟨codes, hcodes, h⟩ | ⟨shift, hshift, hsource, h⟩
  · rw [h, List.mem_singleton] at hd
    subst hd
    exact Bool.false_ne_true (hc.symm.trans hblank)
  · rw [h, List.mem_map] at hd
    obtain ⟨code, hcode, rfl⟩ := hd
    -- No expansion holds white space, which the tables show.
    obtain ⟨run, hrun, hcontains⟩ := isBlank_ofNat hblank
    have := upperExpansions_not_blank _ hcodes code hcode run hrun
    exact Bool.false_ne_true (this.symm.trans hcontains)
  · -- the code of `d` would lie on a run of white space and on the stretch of the shift
    rw [h, List.mem_singleton] at hd
    subst hd
    obtain ⟨run, hrun, hcontains⟩ := isBlank_ofNat hblank
    have hapart := upperShifts_not_blank shift hshift run hrun
    obtain ⟨hfirst, hlast, -⟩ := (run.contains_iff _).1 hcontains
    obtain ⟨hfrom, hto⟩ := shift.bounds_of_contains hsource
    omega

/-- No expansion of `upperExpansions` is empty, by a check of the table. -/
theorem upperExpansions_ne_nil : ∀ entry ∈ upperExpansions, entry.2 ≠ [] := by
  decide +kernel

/-- No `upperChar` is empty, so that a name does not vanish when it is capitalised. -/
theorem upperChar_ne_nil (c : Char) : upperChar c ≠ [] := by
  rcases upperChar_cases c with h | ⟨codes, hcodes, h⟩ | ⟨shift, hshift, hsource, h⟩
  · simp [h]
  · simpa [h] using upperExpansions_ne_nil _ hcodes
  · simp [h]

/-! ### Marks -/

/-- The code stands in an expansion of `upperExpansions`, or on a stretch to which a shift of
`upperShifts` moves codes. Steps are not looked at, so the answer may be yes for a code to which
none is moved; the lemmas use only the answer no. -/
def isUpperImage (code : Nat) : Bool :=
  (upperExpansions.any fun entry => entry.2.contains code) ||
    upperShifts.any fun shift =>
      decide (shift.image ≤ code) && decide (code ≤ shift.image + (shift.last - shift.first))

/-- A number stands for the character of that code, or for the null character where there is no such
code. Leaving the null character out, the number is that of the character. -/
theorem toNat_ofNat_of_ne {code : Nat} (h : Char.ofNat code ≠ '\x00') :
    (Char.ofNat code).toNat = code := by
  by_cases hvalid : code.isValidChar
  · rw [Char.ofNat, dif_pos hvalid]
    rfl
  · rw [Char.ofNat, dif_neg hvalid] at h
    exact absurd rfl h

/-- A shift moves a code to the stretch that begins at its image and is as long as its run. The null
character is left out because `Char.ofNat` gives it for numbers that are no codes. -/
theorem CodeShift.bounds_of_image (shift : CodeShift) {c d : Char}
    (hsource : shift.source.contains c.toNat = true)
    (hd : d = Char.ofNat (shift.image + (c.toNat - shift.first))) (hnull : d ≠ '\x00') :
    shift.image ≤ d.toNat ∧ d.toNat ≤ shift.image + (shift.last - shift.first) := by
  subst hd
  obtain ⟨hfrom, hto⟩ := shift.bounds_of_contains hsource
  rw [toNat_ofNat_of_ne hnull]
  omega

/-- A character to whose code the tables do not lead (`isUpperImage`) stands in no upper-case form
but its own. -/
theorem eq_of_mem_upperChar {c d : Char} (hnull : d ≠ '\x00')
    (himage : isUpperImage d.toNat = false) (hd : d ∈ upperChar c) : d = c := by
  rw [isUpperImage, Bool.or_eq_false_iff, List.any_eq_false, List.any_eq_false] at himage
  obtain ⟨hexpansions, hshifts⟩ := himage
  -- the two cases in which a table is read would put the code of `d` among the images
  rcases upperChar_cases c with h | ⟨codes, hcodes, h⟩ | ⟨shift, hshift, hsource, h⟩
  · rw [h] at hd
    exact List.mem_singleton.1 hd
  · rw [h, List.mem_map] at hd
    obtain ⟨code, hcode, rfl⟩ := hd
    refine absurd ?_ (hexpansions _ hcodes)
    rw [toNat_ofNat_of_ne hnull]
    exact List.contains_iff_mem.2 hcode
  · rw [h, List.mem_singleton] at hd
    obtain ⟨hfrom, hto⟩ := shift.bounds_of_image hsource hd hnull
    exact absurd (by simp [hfrom, hto]) (hshifts shift hshift)

/-! ### Lower case -/

/-- The lower-case form of a character is the character, the code to which a shift moves it, or
the small `i` with a dot above. -/
theorem lowerChar_cases (c : Char) :
    lowerChar c = [c] ∨ lowerChar c = ['i', '\u0307'] ∨
    (∃ shift ∈ lowerShifts, shift.source.contains c.toNat = true ∧
      lowerChar c = [Char.ofNat (shift.image + (c.toNat - shift.first))]) := by
  unfold lowerChar
  split
  · exact .inr (.inl rfl)
  · split
    · rename_i image himage
      obtain ⟨shift, hshift, hsource, rfl⟩ := exists_of_shifted? himage
      exact .inr (.inr ⟨shift, hshift, hsource, rfl⟩)
    · exact .inl rfl

/-- The lower-case form of a text is not empty if the text is not, whatever stands `before` it. -/
theorem lowerAfter_ne_nil {before cs : List Char} (h : cs ≠ []) : lowerAfter before cs ≠ [] := by
  obtain ⟨c, rest, rfl⟩ := List.exists_cons_of_ne_nil h
  rw [lowerAfter]
  refine List.append_ne_nil_of_left_ne_nil ?_ _
  split
  · exact List.cons_ne_nil _ _
  · rcases lowerChar_cases c with h | h | ⟨shift, -, -, h⟩ <;> rw [h] <;>
      exact List.cons_ne_nil _ _

/-- The code stands in a lower-case form that is not the character itself: in that of the dotted
capital, in one of the two small sigmas, or on a stretch to which `lowerShifts` moves codes. -/
def isLowerImage (code : Nat) : Bool :=
  ['i', '\u0307', 'ς', 'σ'].any (fun c => c.toNat = code) ||
    lowerShifts.any fun shift =>
      decide (shift.image ≤ code) && decide (code ≤ shift.image + (shift.last - shift.first))

/-- A mark to which no change of case leads, and from which none leads away. It is a question about
single codes that the tables answer, and all that later proofs ask of the marks between words. -/
structure IsCaseless (mark : Char) : Prop where
  ne_null : mark ≠ '\x00'
  not_image : isUpperImage mark.toNat = false ∧ isLowerImage mark.toNat = false
  upper_self : upperChar mark = [mark]

/-- The marks that the words of names are cut at have no case. One check of the tables for the five
of them. -/
theorem isCaseless_of_mem {mark : Char} (h : mark ∈ [':', '|', '[', '-', '_']) :
    IsCaseless mark := by
  -- That no letter becomes one of the marks is looked up in the tables.
  have hmarks : [':', '|', '[', '-', '_'].all (fun mark => mark != '\x00' &&
      (!isUpperImage mark.toNat && !isLowerImage mark.toNat) &&
        upperChar mark == [mark]) = true := by
    decide +kernel
  have hmark := List.all_eq_true.1 hmarks mark h
  simp only [Bool.and_eq_true, Bool.not_eq_true', bne_iff_ne, beq_iff_eq] at hmark
  obtain ⟨⟨hnull, himage⟩, hself⟩ := hmark
  exact ⟨hnull, himage, hself⟩

/-- A mark without case stands in no upper-case form (`upperChar`) but its own. -/
theorem IsCaseless.eq_of_mem_upper {mark c : Char} (h : IsCaseless mark)
    (hmem : mark ∈ upperChar c) : mark = c :=
  eq_of_mem_upperChar h.ne_null h.not_image.1 hmem

/-- A mark without case is none of the characters that only some lower-case forms hold, by the first
half of `isLowerImage`. -/
theorem IsCaseless.not_mem_special {mark : Char} (h : IsCaseless mark) :
    mark ∉ ['i', '\u0307', 'ς', 'σ'] := by
  have himage := h.not_image.2
  rw [isLowerImage, Bool.or_eq_false_iff, List.any_eq_false] at himage
  exact fun hmem => himage.1 mark hmem (decide_eq_true rfl)

/-- A mark without case stands in no lower-case form (`lowerChar`) but its own. -/
theorem IsCaseless.eq_of_mem_lower {mark c : Char} (h : IsCaseless mark)
    (hmem : mark ∈ lowerChar c) : mark = c := by
  have himage := h.not_image.2
  rw [isLowerImage, Bool.or_eq_false_iff] at himage
  rcases lowerChar_cases c with hself | hdotted | ⟨shift, hshift, hsource, hmoved⟩
  · rw [hself] at hmem
    exact List.mem_singleton.1 hmem
  · rw [hdotted] at hmem
    exact absurd (List.mem_append_left ['ς', 'σ'] hmem) h.not_mem_special
  · rw [hmoved, List.mem_singleton] at hmem
    -- The mark would lie on the image of a shift.
    obtain ⟨hfrom, hto⟩ := shift.bounds_of_image hsource hmem h.ne_null
    exact absurd (by simp [hfrom, hto]) (List.any_eq_false.1 himage.2 shift hshift)

/-- A mark without case that stands in the lower-case form of a text stands in the text. So
separators are found in a placeholder after it was made small exactly where they were written. -/
theorem IsCaseless.mem_of_mem_lower {mark : Char} (h : IsCaseless mark) {before cs : List Char}
    (hmem : mark ∈ lowerAfter before cs) : mark ∈ cs := by
  -- along the text: each character contributes its own form, and `before` only chooses a sigma
  fun_induction lowerAfter before cs with
  | case1 => exact hmem
  | case2 before c rest ih =>
    rcases List.mem_append.1 hmem with hc | hrest
    · refine List.mem_cons.2 (.inl ?_)
      split at hc
      · -- A sigma becomes one of its two small forms.
        split at hc <;> exact absurd (by simp [List.mem_singleton.1 hc]) h.not_mem_special
      · exact h.eq_of_mem_lower hc
    · exact List.mem_cons_of_mem c (ih hrest)

/-! ### Basic characters -/

/-- What holds of all codes below a bound holds of the characters that have them. It turns a
statement about characters into one that a table of codes decides. -/
@[elab_as_elim]
theorem of_forall_codes {bound : Nat} {P : Char → Prop} (c : Char) (hc : c.toNat < bound)
    (h : ∀ code < bound, P (Char.ofNat code)) : P c := by
  have hcode := h c.toNat hc
  rwa [Char.ofNat_toNat] at hcode

/-- What is checked for a list of characters holds of each of them. The tables are checked as
lists. -/
theorem forall_mem_of_all {P : Char → Prop} [DecidablePred P] {cs : List Char}
    (h : (cs.all fun c => decide (P c)) = true) : ∀ c ∈ cs, P c :=
  fun c hc => of_decide_eq_true (List.all_eq_true.1 h c hc)

/-- A shift of letters and shifts that begin past the basic characters move a basic character as the
shift of letters does. Both tables are of this shape, so the proofs about basic characters look at
one shift. -/
theorem shifted?_of_basic {shifts : List CodeShift} {letters : CodeShift} {c : Char}
    (hfirst : shifts.head? = some letters)
    (hlater : ∀ shift ∈ shifts.tail, 128 ≤ shift.first) (hc : c.toNat < 128) :
    shifted? shifts c = shifted? [letters] c := by
  obtain ⟨later, rfl⟩ := List.head?_eq_some_iff.1 hfirst
  have hnone : later.find? (fun shift => shift.source.contains c.toNat) = none := by
    refine List.find?_eq_none.2 fun shift hshift hcontains => ?_
    have hstart := hlater shift hshift
    have hbegins := (shift.bounds_of_contains hcontains).1
    omega
  rw [shifted?, shifted?, List.find?_cons, List.find?_cons, hnone, List.find?_nil]

/-- The upper-case form of a basic character is one character, the one `Char.toUpper` gives. The
library changes basic letters alone. -/
theorem upperChar_of_basic {c : Char} (h : c.toNat < 128) : upperChar c = [c.toUpper] := by
  -- Of the tables only the first shift concerns basic characters.
  have hexpansions : ∀ entry ∈ upperExpansions, 128 ≤ entry.1 := by decide +kernel
  have hshifts : ∀ shift ∈ upperShifts.tail, 128 ≤ shift.first := by decide +kernel
  have hnone : upperExpansions.lookup c.toNat = none :=
    List.lookup_eq_none_iff.2 fun entry hentry =>
      bne_iff_ne.2 (Nat.ne_of_lt (Nat.lt_of_lt_of_le h (hexpansions entry hentry)))
  rw [upperChar, hnone, shifted?_of_basic rfl hshifts h]
  refine of_forall_codes c h ?_
  decide +kernel

/-- A basic character in upper case is its own upper-case form, so capitalising twice is
capitalising once. -/
theorem upperChar_toUpper_of_basic {c : Char} (h : c.toNat < 128) :
    upperChar c.toUpper = [c.toUpper] := by
  have hupper : c.toUpper.toNat < 128 ∧ c.toUpper.toUpper = c.toUpper := by
    refine of_forall_codes c h ?_
    decide +kernel
  rw [upperChar_of_basic hupper.1, hupper.2]

/-- The lower-case form of a basic character is one character, the one `Char.toLower` gives. The
library changes basic letters alone. -/
theorem lowerChar_of_basic {c : Char} (h : c.toNat < 128) : lowerChar c = [c.toLower] := by
  have hshifts : ∀ shift ∈ lowerShifts.tail, 128 ≤ shift.first := by decide +kernel
  have hdotted : c ≠ 'İ' := by
    rintro rfl
    exact absurd h (by decide)
  rw [lowerChar, if_neg hdotted, shifted?_of_basic rfl hshifts h]
  refine of_forall_codes c h ?_
  decide +kernel

/-- A text of basic characters is made small one by one: a sigma, which looks around, is none of
them. What stands `before` does not matter then. -/
theorem lowerAfter_of_basic (before : List Char) {cs : List Char}
    (h : ∀ c ∈ cs, c.toNat < 128) : lowerAfter before cs = cs.map Char.toLower := by
  induction cs generalizing before with
  | nil => rfl
  | cons c rest ih =>
    obtain ⟨hc, hrest⟩ := List.forall_mem_cons.1 h
    -- The one letter that depends on its place is not a basic character.
    have hsigma : c ≠ 'Σ' := by
      rintro rfl
      exact absurd hc (by decide)
    rw [lowerAfter, if_neg hsigma, lowerChar_of_basic hc, ih (c :: before) hrest]
    rfl

/-- `Char.toLower` leaves a character beyond the basic ones as it is. -/
theorem toLower_eq_self {c : Char} (h : 128 ≤ c.toNat) : c.toLower = c := by
  have hcode : c.toNat = c.val.toNat := rfl
  unfold Char.toLower
  split
  · rename_i hcapital
    have hlast : c.val.toNat ≤ 90 := UInt32.le_iff_toNat_le.1 hcapital.2
    omega
  · rfl

/-- A basic character in lower case is a basic character with the same capital, so a capital may be
put on before or after. -/
theorem toLower_of_basic {c : Char} (h : c.toNat < 128) :
    c.toLower.toNat < 128 ∧ c.toLower.toUpper = c.toUpper := by
  refine of_forall_codes c h ?_
  decide +kernel

/-- The characters that some rules of naming look for in texts that were made small: the vowels, `s`
and `y` for plurals, and the two marks that separate words. -/
def soughtChars : List Char :=
  ['a', 'e', 'i', 'o', 'u', 's', 'y', '-', '_']

/-- What becomes one of the `soughtChars` in lower case is this character or, for a letter, its
capital. No character beyond the basic ones is made small, so a check of 128 codes is enough. -/
theorem toLower_eq_iff {c sought : Char} (h : sought ∈ soughtChars) :
    c.toLower = sought ↔ c = sought ∨ c = sought.toUpper := by
  by_cases hc : c.toNat < 128
  · have hcodes : ∀ code < 128, (soughtChars.all fun sought => (Char.ofNat code).toLower = sought ↔
        Char.ofNat code = sought ∨ Char.ofNat code = sought.toUpper) = true := by
      decide +kernel
    exact of_forall_codes c hc (fun code hcode => forall_mem_of_all (hcodes code hcode)) sought h
  · -- A character that is not basic stays, and none that is sought is like it.
    have hbasic : ∀ sought ∈ soughtChars, sought.toUpper.toNat < 128 :=
      forall_mem_of_all (by decide)
    rw [toLower_eq_self (Nat.le_of_not_lt hc)]
    refine (or_iff_left ?_).symm
    rintro rfl
    exact hc (hbasic sought h)

end WrapperModel.Text
