import WrapperModel.Proofs.Yaml.Plain
import WrapperModel.Yaml.Printer

/-!
# `WrapperModel.Proofs.Yaml.SingleQuoted`: a text between single quotes reads back

The writer doubles quotes and indents what follows a separator of lines. The reader keeps
blanks and breaks in a gap until a character follows, so the text that was read is what it
has put aside together with the gap; the spaces of the indentation do not count behind a
break, and those of the text never stand there.

* `takesChar_break`, `takesChar_space`, `takesChar_other`: one character of the text.
* `singleQuoted_body`: what the writer makes of a text, with its closing quote, is read as
  the text.
-/

set_option autoImplicit false

namespace WrapperModel.Yaml

/-! ### The steps of the reader -/

/-- Behind a break the spaces of the indentation are passed, because a blank there leaves the gap as
it is (`Gap.addBlank`). -/
theorem singleQuoted_indentation (text : List Char) {gap : Gap} (line column n : Nat)
    (rest : List Char) (hgap : gap.hasBreak = true) :
    singleQuoted text gap line column (spaces n ++ rest) =
      singleQuoted text gap line (column + n) rest := by
  induction n generalizing column with
  | zero => rfl
  | succ n ih =>
    have hstep : singleQuoted text gap line column (spaces (n + 1) ++ rest) =
        singleQuoted text (gap.addBlank ' ') line (column + 1) (spaces n ++ rest) := rfl
    -- Behind a break a blank leaves the gap as it is.
    have hadd : gap.addBlank ' ' = gap := by simp [Gap.addBlank, hgap]
    rw [hstep, hadd, ih]
    congr 1
    omega

/-- A quote that is not doubled ends the text, with the gap in front of it as part of the text. What
follows must be no quote (`hmore`). -/
theorem singleQuoted_close (text : List Char) (gap : Gap) (line column : Nat) {more : List Char}
    (hmore : more.head? ≠ some '\'') :
    singleQuoted text gap line column ('\'' :: more) =
      .ok (text.reverse ++ gap.text, ⟨more, line, column + 1⟩) := by
  have hmarker := atDocumentMarker_cons (c := '\'') (by decide) (by decide) column more
  have hblank : isBlank '\'' = false := by decide
  have hbreak : isBreak '\'' = false := by decide
  rw [singleQuoted]
  · simp [hmarker, hblank, hbreak]
  · intro rest _ heq
    exact hmore (by rw [heq]; rfl)

/-- A break goes into the gap, and what follows stands at the beginning of a line, where it could be
a mark of the document. -/
theorem singleQuoted_break (text : List Char) (gap : Gap) (line column : Nat) {c : Char}
    (rest : List Char) (hc : isBreak c = true) (hprintable : isPrintable c = true) :
    singleQuoted text gap line column (c :: rest) =
      singleQuoted text (gap.addBreak c) (line + 1) 0 rest := by
  have hspace : c ≠ ' ' := by
    rintro rfl
    exact absurd hc (by decide)
  have hquote : c ≠ '\'' := by
    rintro rfl
    exact absurd hc (by decide)
  have hblank := isBlank_of_isPrintable hprintable hspace
  -- A break is neither a quote nor a blank, so its own case of the reader applies.
  rw [singleQuoted]
  · simp [hblank, hc]
  · intro _ heq _
    exact hquote heq

/-- Any other character ends the gap and goes to the text, a quote where it is doubled. The column
has to be past the first, where three dots or dashes would be a mark of the document
(`atDocumentMarker`). -/
theorem singleQuoted_char (text : List Char) (gap : Gap) (line column : Nat) {c : Char}
    (hspace : c ≠ ' ') (hbreak : isBreak c = false) (hprintable : isPrintable c = true)
    (hcolumn : column ≠ 0) :
    ∃ column', column' ≠ 0 ∧ ∀ rest,
      singleQuoted text gap line column ((if c = '\'' then ['\'', '\''] else [c]) ++ rest) =
        singleQuoted (c :: (gap.text.reverse ++ text)) {} line column' rest := by
  -- A quote is written twice and takes two columns.
  by_cases hquote : c = '\''
  · subst hquote
    exact ⟨column + 2, by omega, fun _ => rfl⟩
  · refine ⟨column + 1, by omega, fun rest => ?_⟩
    have hblank := isBlank_of_isPrintable hprintable hspace
    have hmarker := atDocumentMarker_eq_false hcolumn (c :: rest)
    rw [if_neg hquote, List.singleton_append, singleQuoted]
    · simp [hblank, hbreak, hmarker, hquote]
    · intro _ heq _
      exact hquote heq

/-! ### The whole text -/

/-- Where `adjacent` finds no pair, a first character of the one kind has none of the other behind
it, and no pair is found in the rest either. -/
theorem adjacent_cons_eq_false {p q : Char → Bool} {c : Char} {rest : List Char}
    (h : adjacent p q (c :: rest) = false) :
    (p c = true → ∀ d ∈ rest.head?, q d = false) ∧ adjacent p q rest = false := by
  -- What is found further behind would be found here as well.
  cases rest with
  | nil => exact ⟨fun _ d hd => by simp at hd, rfl⟩
  | cons d rest =>
    rw [adjacent, Bool.or_eq_false_iff] at h
    refine ⟨fun hp e he => ?_, h.2⟩
    rw [List.head?_cons, Option.mem_some_iff] at he
    rw [← he]
    simpa [hp] using h.1

/-- What the reader has put aside may stand in front of the rest of a text: its breaks are
separators, blanks stand in front of no break, and breaks in front of no space. It is the invariant
of `singleQuoted_append`. -/
structure FitsGap (gap : Gap) (column : Nat) (cs : List Char) : Prop where
  column_ne : gap.hasBreak = false → column ≠ 0
  first_ne : gap.first ≠ some ['\n']
  blanks : gap.hasBreak = false → gap.blanks ≠ [] → ∀ c ∈ cs.head?, isBreak c = false
  breaks : gap.hasBreak = true → ∀ c ∈ cs.head?, c ≠ ' '

/-- The empty gap may stand in front of any text, past the beginning of a line (`FitsGap`). -/
theorem fitsGap_empty {column : Nat} (hcolumn : column ≠ 0) (cs : List Char) :
    FitsGap {} column cs where
  column_ne _ := hcolumn
  first_ne := by simp
  blanks _ hne := absurd rfl hne
  breaks hhas := absurd hhas (by simp [Gap.hasBreak])

/-- A gap with one more separator stands for the separator behind what it stood for (`Gap.text`). A
line feed would not: it would become a space. -/
theorem text_addBreak {gap : Gap} {c : Char} (hfirst : gap.first ≠ some ['\n'])
    (hblanks : gap.hasBreak = false → gap.blanks = []) (hc : c ≠ '\n') :
    (gap.addBreak c).text = gap.text ++ [c] ∧ (gap.addBreak c).first ≠ some ['\n'] ∧
      (gap.addBreak c).hasBreak = true := by
  obtain ⟨blanks, first, more⟩ := gap
  -- A first separator is kept as it is, since only a line feed would become a space.
  cases first with
  | none =>
    have hnone : blanks = [] := hblanks rfl
    simp [Gap.addBreak, Gap.hasBreak, Gap.text, hnone, hc]
  | some first =>
    have hne : first ≠ ['\n'] := fun heq => hfirst (by rw [heq])
    simp [Gap.addBreak, Gap.hasBreak, Gap.text, hne]

/-- The rest of a text that may be written between single quotes (`singleQuotedAllowed`), on one
line but for separators. The two last fields say that no space touches a separator. -/
structure IsQuotable (cs : List Char) : Prop where
  printable : ∀ c ∈ cs, isPrintable c = true
  unfed : '\n' ∉ cs
  spaceBreak : hasSpaceBreak cs = false
  breakSpace : hasBreakSpace cs = false

/-- What follows the first character is quotable too, so `singleQuoted_append` can go through the
text. -/
theorem IsQuotable.tail {c : Char} {cs : List Char} (h : IsQuotable (c :: cs)) : IsQuotable cs where
  printable d hd := h.printable d (List.mem_cons_of_mem c hd)
  unfed hmem := h.unfed (List.mem_cons_of_mem c hmem)
  spaceBreak := (adjacent_cons_eq_false h.spaceBreak).2
  breakSpace := (adjacent_cons_eq_false h.breakSpace).2

/-- The reader takes the first character of the rest of a text: what was read, together with what is
put aside, gains that character. It is one step of `singleQuoted_append`. -/
def TakesChar (indent : Nat) (text : List Char) (gap : Gap) (line column : Nat) (c : Char)
    (cs : List Char) : Prop :=
  ∃ text' gap' line' column', line ≤ line' ∧ FitsGap gap' column' cs ∧
    text'.reverse ++ gap'.text = text.reverse ++ gap.text ++ [c] ∧ ∀ more,
      singleQuoted text gap line column (singleQuotedBody indent gap.hasBreak (c :: cs) ++ more) =
        singleQuoted text' gap' line' column' (singleQuotedBody indent gap'.hasBreak cs ++ more)

section TakesChar

variable {indent : Nat} {text : List Char} {gap : Gap} {line column : Nat} {c : Char}
  {cs : List Char}

/-- A separator goes into the gap, and no space follows it (`IsQuotable`). It is no line feed, so
the gap keeps it as it is. -/
theorem takesChar_break (h : IsQuotable (c :: cs)) (hgap : FitsGap gap column (c :: cs))
    (hc : isBreak c = true) : TakesChar indent text gap line column c cs := by
  have hprintable := h.printable c List.mem_cons_self
  have hne : c ≠ '\n' := fun heq => h.unfed (heq ▸ List.mem_cons_self)
  -- Blanks in front of a separator would be lost, but the text has none there.
  have hblanks : gap.hasBreak = false → gap.blanks = [] := by
    refine fun hnone => Decidable.byContradiction fun hsome => ?_
    exact absurd (hgap.blanks hnone hsome c rfl) (by simp [hc])
  obtain ⟨htext, hfirst, hhas⟩ := text_addBreak hgap.first_ne hblanks hne
  have hfits : FitsGap (gap.addBreak c) 0 cs := by
    refine ⟨by simp [hhas], hfirst, by simp [hhas], fun _ d hd => ?_⟩
    simpa using (adjacent_cons_eq_false h.breakSpace).1 hc d hd
  refine ⟨text, gap.addBreak c, line + 1, 0, Nat.le_succ line, hfits, ?_, fun more => ?_⟩
  · rw [htext, List.append_assoc]
  · rw [singleQuotedBody, if_pos hc, if_neg (by simp [hne]), List.append_assoc,
      List.singleton_append, singleQuoted_break text gap line column _ hc hprintable, hhas]

/-- A space is put aside as a blank, and no separator follows it (`IsQuotable`). -/
theorem takesChar_space (h : IsQuotable (' ' :: cs)) (hgap : FitsGap gap column (' ' :: cs)) :
    TakesChar indent text gap line column ' ' cs := by
  -- Behind a break a space would be taken for indentation.
  have hhas : gap.hasBreak = false :=
    Bool.eq_false_iff.2 fun hhas => hgap.breaks hhas ' ' rfl rfl
  have hfirst : gap.first = none := by simpa [Gap.hasBreak] using hhas
  have hhas' : Gap.hasBreak { gap with blanks := ' ' :: gap.blanks } = false := hhas
  have hadd : gap.addBlank ' ' = { gap with blanks := ' ' :: gap.blanks } := by
    simp [Gap.addBlank, hhas]
  -- The space is put aside with those in front of it, and no break may follow it.
  have hfits : FitsGap { gap with blanks := ' ' :: gap.blanks } (column + 1) cs := by
    refine ⟨fun _ => Nat.succ_ne_zero column, hgap.first_ne, fun _ _ => ?_, fun hbreak => ?_⟩
    · exact (adjacent_cons_eq_false h.spaceBreak).1 (by simp)
    · rw [hhas'] at hbreak
      exact Bool.noConfusion hbreak
  refine ⟨text, { gap with blanks := ' ' :: gap.blanks }, line, column + 1, Nat.le_refl line, hfits,
    by simp [Gap.text, hfirst], fun more => ?_⟩
  have hbreak : isBreak ' ' = false := by decide
  have hstep : ∀ rest, singleQuoted text gap line column (' ' :: rest) =
      singleQuoted text (gap.addBlank ' ') line (column + 1) rest := fun _ => rfl
  rw [singleQuotedBody, hbreak, if_neg Bool.false_ne_true, if_pos rfl, List.cons_append, hstep,
    hadd, hhas, hhas']

/-- Any other character ends the gap. Behind a break it stands behind the indentation, which has to
be there (`hindent`) so that the character is not in the first column. -/
theorem takesChar_other (hindent : indent ≠ 0) (h : IsQuotable (c :: cs))
    (hgap : FitsGap gap column (c :: cs)) (hbreak : isBreak c = false) (hspace : c ≠ ' ') :
    TakesChar indent text gap line column c cs := by
  -- Whether or not there is indentation, the character stands past the beginning of the line.
  obtain ⟨start, hstart, hindentation⟩ : ∃ start, start ≠ 0 ∧ ∀ rest,
      singleQuoted text gap line column
          ((if gap.hasBreak = true then spaces indent else []) ++ rest) =
        singleQuoted text gap line start rest := by
    by_cases hhas : gap.hasBreak = true
    · refine ⟨column + indent, by omega, fun rest => ?_⟩
      rw [if_pos hhas, singleQuoted_indentation text line column indent rest hhas]
    · refine ⟨column, hgap.column_ne (by simpa using hhas), fun rest => ?_⟩
      rw [if_neg hhas, List.nil_append]
  obtain ⟨next, hnext, hchar⟩ := singleQuoted_char text gap line start hspace hbreak
    (h.printable c List.mem_cons_self) hstart
  refine ⟨c :: (gap.text.reverse ++ text), {}, line, next, Nat.le_refl line,
    fitsGap_empty hnext cs, by simp [Gap.text], fun more => ?_⟩
  have hnone : ({} : Gap).hasBreak = false := rfl
  rw [singleQuotedBody, hbreak, if_neg Bool.false_ne_true, if_neg hspace, List.append_assoc,
    List.append_assoc, hindentation, hchar, hnone]

end TakesChar

/-- What the writer makes of a text, with its closing quote, is read as the text behind what was
read before. What is put aside has to fit the rest of the text (`FitsGap`). -/
theorem singleQuoted_append {indent : Nat} (hindent : indent ≠ 0) {more : List Char}
    (hmore : more.head? ≠ some '\'') (cs text : List Char) (gap : Gap) (line column : Nat)
    (h : IsQuotable cs) (hgap : FitsGap gap column cs) :
    ∃ line' column', line ≤ line' ∧
      singleQuoted text gap line column (singleQuotedBody indent gap.hasBreak cs ++ more) =
        .ok (text.reverse ++ gap.text ++ cs, ⟨more, line', column'⟩) := by
  -- The invariant is that what is put aside may stand in front of the rest.
  induction cs generalizing text gap line column with
  | nil =>
    rw [singleQuotedBody, List.append_nil]
    -- At the end of the text only the closing quote is left, which may stand behind indentation.
    by_cases hhas : gap.hasBreak = true
    · refine ⟨line, column + indent + 1, Nat.le_refl line, ?_⟩
      rw [if_pos hhas, List.append_assoc, singleQuoted_indentation text line column indent _ hhas,
        List.singleton_append, singleQuoted_close text gap line _ hmore]
    · refine ⟨line, column + 1, Nat.le_refl line, ?_⟩
      rw [if_neg hhas, List.nil_append, List.singleton_append,
        singleQuoted_close text gap line _ hmore]
  | cons c cs ih =>
    have hchar : TakesChar indent text gap line column c cs := by
      by_cases hbreak : isBreak c = true
      · exact takesChar_break h hgap hbreak
      · by_cases hspace : c = ' '
        · subst hspace
          exact takesChar_space h hgap
        · exact takesChar_other hindent h hgap (Bool.eq_false_iff.2 hbreak) hspace
    obtain ⟨text', gap', line', column', hle, hgap', htext, hstep⟩ := hchar
    obtain ⟨line'', column'', hle', hread⟩ := ih text' gap' line' column' h.tail hgap'
    refine ⟨line'', column'', Nat.le_trans hle hle', ?_⟩
    rw [hstep, hread, htext, List.append_assoc, List.singleton_append]

/-- A text that may be written between single quotes, on one line but for separators, is read from
behind its opening quote. A line feed is excluded because `styleOf` writes such a text as a
block. -/
theorem singleQuoted_body {indent : Nat} (hindent : indent ≠ 0) {cs more : List Char}
    (line column : Nat) (hallowed : singleQuotedAllowed cs = true) (hline : '\n' ∉ cs)
    (hcolumn : column ≠ 0) (hmore : more.head? ≠ some '\'') :
    ∃ line' column', line ≤ line' ∧
      singleQuoted [] {} line column (singleQuotedBody indent false cs ++ more) =
        .ok (cs, ⟨more, line', column'⟩) := by
  simp only [singleQuotedAllowed, allPrintable, Bool.and_eq_true, Bool.not_eq_true',
    List.all_eq_true] at hallowed
  obtain ⟨⟨hprintable, hspaceBreak⟩, hbreakSpace⟩ := hallowed
  exact singleQuoted_append hindent hmore cs [] {} line column
    ⟨hprintable, hline, hspaceBreak, hbreakSpace⟩ (fitsGap_empty hcolumn cs)

end WrapperModel.Yaml
