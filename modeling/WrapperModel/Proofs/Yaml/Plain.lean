import WrapperModel.Proofs.Yaml.Character
import WrapperModel.Yaml.Style
import WrapperModel.Yaml.Token.Scalar

/-!
# `WrapperModel.Proofs.Yaml.Plain`: a text without quotes reads back

The reader goes from word to word. `IsPlain` says of the rest of a text, from the beginning
of a word on, that nothing in it ends the text; a word and the blanks behind it can be taken
away, so one word after the other is read. `IsPlainLine` says it of a whole text. The writer
asks for more (`plainAllowed`): no tabs, no byte order mark, no mark of a document in front.

* `wordLength_append`: a word ends at a blank, or where the text ends.
* `gapFrom_blanks`, `gapFrom_newLine`: the blanks between words, and the break behind the
  last one.
* `plainScalar_append`: a text that may be written plainly is read as it is.
-/

set_option autoImplicit false

namespace WrapperModel.Yaml

/-! ### Words -/

/-- The rest of a plain text, from the beginning of a word on. It is stable under taking the first
word and the blanks behind it away (`IsPlain.exists_word`), which is what `plainFrom` does. -/
structure IsPlain (cs : List Char) : Prop where
  ne_nil : cs ≠ []
  accepted : ∀ c ∈ cs, isAccepted c = true
  unbroken : ∀ c ∈ cs, isBreak c = false
  head : ∀ c ∈ cs.head?, isBlank c = false
  last : ∀ c ∈ cs.getLast?, isBlank c = false
  inner : hasInnerIndicator true cs = false

/-- A text that may stand on one line without quotes: it is plain and does not begin like something
else. Only at the beginning of a scalar the lexer looks for other marks, so this is not part of
`IsPlain`. -/
structure IsPlainLine (cs : List Char) : Prop extends IsPlain cs where
  first : beginsLikeIndicator cs = false

/-- What may be written plainly (`plainAllowed`) is a plain text on one line, unless it is empty.
The empty text may be plain too, but then it stands for nothing. -/
theorem isPlainLine_of_plainAllowed {cs : List Char} (hne : cs ≠ [])
    (h : plainAllowed cs = true) : IsPlainLine cs := by
  simp only [plainAllowed, hasIndicator, allPrintable, Bool.and_eq_true, Bool.not_eq_true',
    Bool.or_eq_false_iff, List.all_eq_true, List.any_eq_false] at h
  obtain ⟨⟨⟨⟨hprintable, hbreak⟩, hhead⟩, hlast⟩, ⟨-, hfirst⟩, hinner⟩ := h
  -- Of the printable characters the space is the only blank.
  have hblank : ∀ c ∈ cs, isSpaceOrBreak c = false → isBlank c = false := by
    intro c hc hspace
    refine isBlank_of_isPrintable (hprintable c hc) ?_
    rintro rfl
    exact absurd hspace (by decide)
  refine ⟨⟨hne, fun c hc => isAccepted_of_isPrintable (hprintable c hc),
    fun c hc => by simpa using hbreak c hc, fun c hc => ?_, fun c hc => ?_, hinner⟩, hfirst⟩
  · exact hblank c (List.mem_of_mem_head? hc) (by simpa [Option.mem_def.1 hc] using hhead)
  · exact hblank c (List.mem_of_getLast? hc) (by simpa [Option.mem_def.1 hc] using hlast)

/-- Behind a blank the rest of a text has no mark that would end it either. The flag for the rest is
`true`, since a blank stands in front of it. -/
theorem hasInnerIndicator_of_append {afterBlank : Bool} {blank : Char} (word rest : List Char)
    (hblank : isBlank blank = true)
    (h : hasInnerIndicator afterBlank (word ++ blank :: rest) = false) :
    hasInnerIndicator true rest = false := by
  -- on what stands in front of the blank; the flag changes from character to character
  induction word generalizing afterBlank with
  | nil =>
    rw [List.nil_append, hasInnerIndicator] at h
    simp only [Bool.or_eq_false_iff] at h
    simpa [isBlankOrBreak, hblank] using h.2
  | cons c word ih =>
    rw [List.cons_append, hasInnerIndicator] at h
    simp only [Bool.or_eq_false_iff] at h
    exact ih h.2

/-- Blanks in front leave no mark in the rest of a text either. So `hasInnerIndicator` can be asked
of the text behind them as well. -/
theorem hasInnerIndicator_of_blanks {blanks rest : List Char}
    (hblanks : ∀ c ∈ blanks, isBlank c = true)
    (h : hasInnerIndicator true (blanks ++ rest) = false) :
    hasInnerIndicator true rest = false := by
  induction blanks with
  | nil => exact h
  | cons c blanks ih =>
    obtain ⟨hc, hrest⟩ := List.forall_mem_cons.1 hblanks
    exact ih hrest (hasInnerIndicator_of_append [] _ hc h)

/-- A text is a word without blanks, blanks, and a rest that begins with no blank. Without blanks
there is no rest. Each of the three may be empty here; for a plain text `IsPlain.exists_word` says
more. -/
theorem exists_word_append (cs : List Char) :
    ∃ word blanks rest, cs = word ++ (blanks ++ rest) ∧ (∀ c ∈ word, isBlank c = false) ∧
      (∀ c ∈ blanks, isBlank c = true) ∧ (∀ c ∈ rest.head?, isBlank c = false) ∧
      (blanks = [] → rest = []) := by
  induction cs with
  | nil => exact ⟨[], [], [], rfl, by simp, by simp, by simp, fun _ => rfl⟩
  | cons c cs ih =>
    obtain ⟨word, blanks, rest, rfl, hword, hblanks, hrest, hnone⟩ := ih
    -- A blank in front begins an empty word, any other character lengthens the first one.
    by_cases hc : isBlank c = true
    · cases word with
      | nil =>
        exact ⟨[], c :: blanks, rest, rfl, by simp, List.forall_mem_cons.2 ⟨hc, hblanks⟩, hrest,
          by simp⟩
      | cons d word =>
        refine ⟨[], [c], d :: word ++ (blanks ++ rest), rfl, by simp, by simpa using hc, ?_,
          by simp⟩
        rintro e ⟨⟩
        exact hword d List.mem_cons_self
    · exact ⟨c :: word, blanks, rest, rfl,
        List.forall_mem_cons.2 ⟨Bool.eq_false_iff.2 hc, hword⟩, hblanks, hrest, hnone⟩

/-- A plain text is one word, or a word, blanks and a shorter plain text. It is the step of the
induction in `plainFrom_append`. -/
theorem IsPlain.exists_word {cs : List Char} (h : IsPlain cs) :
    ∃ word blanks rest, cs = word ++ (blanks ++ rest) ∧ word ≠ [] ∧
      (∀ c ∈ word, isBlank c = false) ∧ (∀ c ∈ blanks, isBlank c = true) ∧
      ((blanks = [] ∧ rest = []) ∨ (blanks ≠ [] ∧ IsPlain rest)) := by
  obtain ⟨word, blanks, rest, rfl, hword, hblanks, hrest, hnone⟩ := exists_word_append cs
  have hne : word ≠ [] := by
    rintro rfl
    -- Without blanks there is nothing behind the word; with them the text would begin blank.
    cases blanks with
    | nil => exact h.ne_nil (hnone rfl)
    | cons c blanks =>
      have hhead : isBlank c = false := h.head c rfl
      rw [hblanks c List.mem_cons_self] at hhead
      exact Bool.noConfusion hhead
  refine ⟨word, blanks, rest, rfl, hne, hword, hblanks, ?_⟩
  -- With a gap there has to be a rest, which keeps what `IsPlain` says but for the head.
  by_cases hgap : blanks = []
  · exact .inl ⟨hgap, hnone hgap⟩
  · have hrestNe : rest ≠ [] := by
      rintro rfl
      -- The text would end blank.
      have hlast := h.last (blanks.getLast hgap) (by simp [List.getLast?_append,
        List.getLast?_eq_some_getLast hgap])
      rw [hblanks _ (List.getLast_mem hgap)] at hlast
      exact Bool.noConfusion hlast
    refine .inr ⟨hgap, hrestNe, fun c hc => h.accepted c (by simp [hc]),
      fun c hc => h.unbroken c (by simp [hc]), hrest, fun c hc => ?_, ?_⟩
    · refine h.last c ?_
      rw [Option.mem_def] at hc ⊢
      simp [List.getLast?_append, hc]
    · obtain ⟨c, more, rfl⟩ := List.exists_cons_of_ne_nil hgap
      obtain ⟨hc, hmore⟩ := List.forall_mem_cons.1 hblanks
      exact hasInnerIndicator_of_blanks hmore (hasInnerIndicator_of_append _ _ hc h.inner)

/-! ### The steps of the reader -/

/-- A text with a break behind it begins blank if the text does: `beginsBlank` counts the end of a
text as a blank. -/
theorem beginsBlank_append_newLine (cs more : List Char) :
    beginsBlank (cs ++ '\n' :: more) = beginsBlank cs := by
  cases cs <;> rfl

/-- A word goes up to a blank, or to the end of the text, if no mark ends it before. The blanks and
the rest of the text are in `tail`, and a break is behind them. -/
theorem wordLength_append {afterBlank : Bool} (count : Nat) (word tail more : List Char)
    (hword : ∀ c ∈ word, isBlankOrBreak c = false) (htail : beginsBlank tail = true)
    (hinner : hasInnerIndicator afterBlank (word ++ tail) = false) :
    wordLength false count (word ++ (tail ++ '\n' :: more)) = .ok (count + word.length) := by
  -- A mark inside of the word would be an inner indicator of the text.
  induction word generalizing afterBlank count with
  | nil =>
    cases tail with
    | nil => rfl
    | cons c tail =>
      have hc : isBlankOrBreak c = true := htail
      simp [wordLength, hc]
  | cons c word ih =>
    rw [List.cons_append, hasInnerIndicator] at hinner
    simp only [Bool.or_eq_false_iff] at hinner
    obtain ⟨⟨hcolon, -⟩, hinner⟩ := hinner
    have hc := hword c List.mem_cons_self
    have hrest := ih (count + 1) (fun d hd => hword d (List.mem_cons_of_mem _ hd)) hinner
    rw [← beginsBlank_append_newLine (word ++ tail) more, List.append_assoc] at hcolon
    rw [List.cons_append, wordLength]
    simp only [hc, hcolon, Bool.false_and, Bool.or_false, Bool.false_eq_true, if_false, hrest,
      List.length_cons]
    congr 1
    omega

/-- Blanks between words are passed into the gap. The character `c` behind them is neither a blank
nor a break, so the gap ends there. -/
theorem gapFrom_blanks (limit : Int) (passed : List Char) (line column : Nat) {blanks : List Char}
    {c : Char} (rest : List Char) (hblanks : ∀ d ∈ blanks, isBlank d = true)
    (hblank : isBlank c = false) (hbreak : isBreak c = false) :
    gapFrom limit { blanks := passed } line column (blanks ++ c :: rest) =
      .ok ({ blanks := blanks.reverse ++ passed }, ⟨c :: rest, line, column + blanks.length⟩) := by
  -- One blank after the other goes into the gap. No break stands in front, so a tab may.
  induction blanks generalizing passed column with
  | nil => simp [gapFrom, hblank, hbreak]
  | cons d blanks ih =>
    obtain ⟨hd, hmore⟩ := List.forall_mem_cons.1 hblanks
    have hstep : gapFrom limit { blanks := passed } line column (d :: (blanks ++ c :: rest)) =
        gapFrom limit { blanks := d :: passed } line (column + 1) (blanks ++ c :: rest) := by
      simp [gapFrom, hd, Gap.hasBreak, Gap.addBlank]
    rw [List.cons_append, hstep, ih (d :: passed) (column + 1) hmore, List.reverse_cons,
      List.append_assoc, List.length_cons, Nat.add_assoc, Nat.add_comm 1]
    rfl

/-- The indentation of a line counts for nothing, since blanks behind a break leave the gap as it is
(`Gap.addBlank`). -/
theorem gapFrom_indentation (limit : Int) {gap : Gap} (line column n : Nat) {rest : List Char}
    (hgap : gap.hasBreak = true)
    (hrest : ∀ c ∈ rest.head?, isBlank c = false ∧ isBreak c = false) :
    gapFrom limit gap line column (List.replicate n ' ' ++ rest) =
      .ok (gap, ⟨rest, line, column + n⟩) := by
  induction n generalizing column with
  | zero =>
    cases rest with
    | nil => rfl
    | cons c rest => simp [gapFrom, hrest c rfl]
  | succ n ih =>
    have hstep : gapFrom limit gap line column (' ' :: (List.replicate n ' ' ++ rest)) =
        gapFrom limit (gap.addBlank ' ') line (column + 1) (List.replicate n ' ' ++ rest) := rfl
    -- Behind a break blanks are not kept, so the gap stays as it is.
    have hadd : gap.addBlank ' ' = gap := by simp [Gap.addBlank, hgap]
    rw [List.replicate_succ, List.cons_append, hstep, hadd, ih]
    congr 3
    omega

/-- The break behind the last word, with the indentation of the next line, which is no empty line.
The gap is a single break, so `plainFrom` looks at the column to know whether the text goes on. -/
theorem gapFrom_newLine (limit : Int) (line column n : Nat) {rest : List Char}
    (hrest : ∀ c ∈ rest.head?, isBlank c = false ∧ isBreak c = false) :
    gapFrom limit {} line column ('\n' :: (List.replicate n ' ' ++ rest)) =
      .ok ({ first := some ['\n'] }, ⟨rest, line + 1, n⟩) := by
  have hstep : gapFrom limit {} line column ('\n' :: (List.replicate n ' ' ++ rest)) =
      gapFrom limit { first := some ['\n'] } (line + 1) 0 (List.replicate n ' ' ++ rest) := rfl
  rw [hstep, gapFrom_indentation limit (line + 1) 0 n rfl hrest, Nat.zero_add]

/-! ### The whole text -/

/-- A plain text goes on no comment: at its beginning a hash would be an inner indicator
(`hasInnerIndicator`). -/
theorem IsPlain.head_ne_hash {cs : List Char} (h : IsPlain cs) : cs.head? ≠ some '#' := by
  cases cs with
  | nil => simp
  | cons c cs =>
    intro heq
    rw [List.head?_cons, Option.some.injEq] at heq
    have hinner := h.inner
    simp [hasInnerIndicator, heq] at hinner

/-- Past the beginning of a line there is no mark of a document, since `atMarker` asks for the first
column. -/
theorem atDocumentMarker_eq_false {column : Nat} (h : column ≠ 0) (cs : List Char) :
    atDocumentMarker column cs = false := by
  have hmark : ∀ mark, atMarker mark column cs = false := by
    intro mark
    unfold atMarker
    split <;> simp [h]
  simp [atDocumentMarker, hmark]

/-- Neither of the marks of a document begins with another character than a dash or a point, in
whatever column it stands. -/
theorem atDocumentMarker_cons {c : Char} (hdash : c ≠ '-') (hdot : c ≠ '.') (column : Nat)
    (cs : List Char) : atDocumentMarker column (c :: cs) = false := by
  -- A mark consists of one character three times, and this one is neither.
  have hmark : ∀ mark, c ≠ mark → atMarker mark column (c :: cs) = false := by
    intro mark hne
    unfold atMarker
    split
    · rename_i heq
      rw [List.cons.injEq] at heq
      simp [← heq.1, hne]
    · rfl
  simp [atDocumentMarker, hmark '-' hdash, hmark '.' hdot]

/-- One word is read, and then what the gap behind it says. What is assumed of the word is what each
of the tests of `plainFrom` asks, so that texts and keys can both use it. -/
theorem plainFrom_word {limit : Int} {text word tail : List Char} {gap gap' : Gap}
    {line column : Nat} {next : Cursor} (bound : Nat)
    (hmarker : atDocumentMarker column (word ++ tail) = false) (hword : word ≠ [])
    (hhash : (word ++ tail).head? ≠ some '#')
    (hlength : wordLength false 0 (word ++ tail) = .ok word.length)
    (hgap : gapFrom limit {} line (column + word.length) tail = .ok (gap', next)) :
    plainFrom false limit text gap ⟨word ++ tail, line, column⟩ (bound + 1) =
      if gap' = {} ∨ (next.column : Int) < limit then
        .ok (text.reverse ++ gap.text ++ word, gap', next)
      else
        plainFrom false limit (word.reverse ++ (gap.text.reverse ++ text)) gap' next bound := by
  have hpositive : word.length ≠ 0 := by simpa using hword
  rw [plainFrom]
  simp only [hmarker, hhash, hlength, hpositive, Bool.false_or,
    decide_false, Bool.false_eq_true, if_false, bind, Except.bind, List.take_left, List.drop_left,
    hgap, Bool.not_false, Bool.true_and, decide_eq_true_eq]
  -- The scalar ends at an empty gap, or at a line that is not indented as far.
  by_cases hnone : gap' = {}
  · simp [hnone]
  · by_cases hless : (next.column : Int) < limit <;> simp [hnone, hless]

/-- The first word of a plain text is read, and then what the gap behind it says. The tests of the
reader all come out of `IsPlain`. -/
theorem IsPlain.plainFrom_word {limit : Int} {text word tail more : List Char} {gap gap' : Gap}
    {line column : Nat} {next : Cursor} (h : IsPlain (word ++ tail)) (bound : Nat)
    (hword : word ≠ []) (hfree : ∀ c ∈ word, isBlank c = false)
    (hblank : beginsBlank tail = true) (hcolumn : column ≠ 0)
    (hgap : gapFrom limit {} line (column + word.length) (tail ++ '\n' :: more) =
      .ok (gap', next)) :
    plainFrom false limit text gap ⟨word ++ tail ++ '\n' :: more, line, column⟩ (bound + 1) =
      if gap' = {} ∨ (next.column : Int) < limit then
        .ok (text.reverse ++ gap.text ++ word, gap', next)
      else
        plainFrom false limit (word.reverse ++ (gap.text.reverse ++ text)) gap' next bound := by
  have hchars : ∀ c ∈ word, isBlankOrBreak c = false := fun c hc =>
    isBlankOrBreak_of_isAccepted (h.accepted c (List.mem_append_left _ hc)) (hfree c hc)
      (h.unbroken c (List.mem_append_left _ hc))
  have hlength := wordLength_append 0 word _ more hchars hblank h.inner
  rw [Nat.zero_add] at hlength
  -- A hash begins a comment, but no plain text and no word of one begins with it.
  have hhash : (word ++ (tail ++ '\n' :: more)).head? ≠ some '#' := by
    have hhead := h.head_ne_hash
    cases word with
    | nil => exact absurd rfl hword
    | cons c word => exact hhead
  rw [List.append_assoc]
  exact Yaml.plainFrom_word bound (atDocumentMarker_eq_false hcolumn _) hword hhash hlength hgap

/-- The words of a plain text are read one after the other, up to a line that is not indented
further than the collection around (`hlimit`). The column is not the first, where a word could be a
mark of the document. -/
theorem plainFrom_append {limit : Int} {next : List Char} (n : Nat) (hlimit : (n : Int) < limit)
    (hnext : ∀ c ∈ next.head?, isBlank c = false ∧ isBreak c = false) (bound : Nat) :
    ∀ {cs : List Char}, IsPlain cs → ∀ (text : List Char) (gap : Gap) (line column : Nat),
      cs.length < bound → limit ≤ column → column ≠ 0 →
      plainFrom false limit text gap ⟨cs ++ '\n' :: (List.replicate n ' ' ++ next), line, column⟩
          bound =
        .ok (text.reverse ++ gap.text ++ cs, { first := some ['\n'] }, ⟨next, line + 1, n⟩) := by
  -- On the bound on words, which the length of the rest of the text keeps large enough.
  induction bound with
  | zero => intro cs _ _ _ _ _ hbound; omega
  | succ bound ih =>
    intro cs h text gap line column hbound hcolumn hzero
    obtain ⟨word, blanks, rest, rfl, hword, hfree, hblanks, hrest⟩ := h.exists_word
    rcases hrest with ⟨rfl, rfl⟩ | ⟨hgapNe, hrest⟩
    · -- The last word: the break behind it leads to a line that is not indented further.
      have hgap := gapFrom_newLine limit line (column + word.length) n hnext
      rw [h.plainFrom_word bound hword hfree rfl hzero hgap, if_pos (.inr hlimit)]
      simp
    · -- A further word begins behind the blanks.
      obtain ⟨c, rest', rfl⟩ := List.exists_cons_of_ne_nil hrest.ne_nil
      have hgap := gapFrom_blanks limit [] line (column + word.length)
        (rest' ++ '\n' :: (List.replicate n ' ' ++ next)) hblanks (hrest.head c rfl)
        (hrest.unbroken c List.mem_cons_self)
      rw [List.append_nil, ← List.cons_append, ← List.append_assoc] at hgap
      have hbegins : beginsBlank (blanks ++ c :: rest') = true := by
        obtain ⟨d, more, rfl⟩ := List.exists_cons_of_ne_nil hgapNe
        simp [beginsBlank, isBlankOrBreak, hblanks d List.mem_cons_self]
      have hsome : ¬(({ blanks := blanks.reverse } : Gap) = {} ∨
          ((column + word.length + blanks.length : Nat) : Int) < limit) := by
        rintro (heq | hless)
        · exact hgapNe (List.reverse_eq_nil_iff.1 (congrArg Gap.blanks heq))
        · omega
      have hshort : (c :: rest').length < bound := by
        have hpositive := List.length_pos_iff.2 hword
        simp only [List.length_append] at hbound
        omega
      rw [h.plainFrom_word bound hword hfree hbegins hzero hgap, if_neg hsome,
        ih hrest _ _ line _ hshort (by omega) (by omega)]
      simp [Gap.text]

/-- A text that may be written plainly is read as it is, up to a line that is not indented further
than the collection around. It is `plainFrom_append` with nothing read so far. -/
theorem plainScalar_append {limit : Int} {cs next : List Char} (line column n : Nat)
    (h : IsPlain cs) (hlimit : (n : Int) < limit) (hcolumn : limit ≤ column) (hzero : column ≠ 0)
    (hnext : ∀ c ∈ next.head?, isBlank c = false ∧ isBreak c = false) :
    plainScalar false limit ⟨cs ++ '\n' :: (List.replicate n ' ' ++ next), line, column⟩ =
      .ok (cs, true, ⟨next, line + 1, n⟩) := by
  have hbound : cs.length < (cs ++ '\n' :: (List.replicate n ' ' ++ next)).length + 1 := by
    simp only [List.length_append]
    omega
  rw [plainScalar]
  simp only [plainFrom_append n hlimit hnext _ h [] {} line column hbound hcolumn hzero]
  rfl

/-! ### Keys -/

/-- A small letter or an underscore, as keys of records have them. None of them has a meaning of its
own to the reader. -/
def isKeyChar (c : Char) : Bool :=
  ('a' ≤ c && c ≤ 'z') || c = '_'

/-- The text is a key of a record: small letters and underscores (`isKeyChar`), and not too many of
them. The lexer gives up a key that is longer than it may be (`PossibleKey.isStale`). -/
structure IsKey (key : List Char) : Prop where
  ne_nil : key ≠ []
  chars : ∀ c ∈ key, isKeyChar c = true
  short : key.length ≤ 1024

/-- Whether a text is a key can be decided, so the keys of a record are checked by evaluation. -/
instance (key : List Char) : Decidable (IsKey key) :=
  decidable_of_decidable_of_iff
    (p := key ≠ [] ∧ key.all isKeyChar = true ∧ key.length ≤ 1024)
    ⟨fun h => ⟨h.1, List.all_eq_true.1 h.2.1, h.2.2⟩,
      fun h => ⟨h.ne_nil, List.all_eq_true.2 h.chars, h.short⟩⟩

/-- A character of a key is none that does not belong to keys. It tells a character of a key from a
given mark, by evaluation. -/
theorem ne_of_isKeyChar {c d : Char} (hc : isKeyChar c = true) (hd : isKeyChar d = false) :
    c ≠ d := by
  rintro rfl
  rw [hc] at hd
  exact Bool.noConfusion hd

/-- A character of a key is neither a blank nor a break, and so it goes on with the key in
`wordLength`. -/
theorem isBlankOrBreak_of_isKeyChar {c : Char} (hc : isKeyChar c = true) :
    isBlankOrBreak c = false := by
  have hne := fun d hd => ne_of_isKeyChar (d := d) hc hd
  simp [isBlankOrBreak, isBlank, isBreak, hne ' ' (by decide), hne '\t' (by decide),
    hne '\r' (by decide), hne '\n' (by decide), hne nextLine (by decide),
    hne lineSeparator (by decide), hne paragraphSeparator (by decide), hne '\x00' (by decide)]

/-- The word of a key goes up to its colon, which ends the word because of what follows it
(`hmore`). -/
theorem wordLength_key (count : Nat) {key : List Char} (more : List Char)
    (hkey : ∀ c ∈ key, isKeyChar c = true) (hmore : beginsBlank more = true) :
    wordLength false count (key ++ ':' :: more) = .ok (count + key.length) := by
  induction key generalizing count with
  | nil =>
    have hcolon : isBlankOrBreak ':' = false := by decide
    simp [wordLength, hcolon, hmore]
  | cons c key ih =>
    have hc := hkey c List.mem_cons_self
    -- Only a colon with a blank behind it ends a word, and no colon is in the key.
    have hcolon : c ≠ ':' := ne_of_isKeyChar hc (by decide)
    rw [List.cons_append, wordLength]
    simp only [isBlankOrBreak_of_isKeyChar hc, hcolon, decide_false, Bool.false_and, Bool.or_false,
      Bool.false_eq_true, if_false, ih (count + 1) fun d hd => hkey d (List.mem_cons_of_mem _ hd),
      List.length_cons]
    congr 1
    omega

/-- A key is read up to its colon. It may stand in the first column, since it does not begin like a
mark of a document (`atDocumentMarker_cons`). -/
theorem plainScalar_key (limit : Int) {key : List Char} (more : List Char) (line column : Nat)
    (hkey : IsKey key) (hmore : beginsBlank more = true) :
    plainScalar false limit ⟨key ++ ':' :: more, line, column⟩ =
      .ok (key, false, ⟨':' :: more, line, column + key.length⟩) := by
  obtain ⟨c, key, rfl⟩ := List.exists_cons_of_ne_nil hkey.ne_nil
  have hc := hkey.chars c List.mem_cons_self
  have hmarker := atDocumentMarker_cons (ne_of_isKeyChar (d := '-') hc (by decide))
    (ne_of_isKeyChar (d := '.') hc (by decide)) column (key ++ ':' :: more)
  have hhash : (c :: key ++ ':' :: more).head? ≠ some '#' := by
    simp [ne_of_isKeyChar (d := '#') hc (by decide)]
  have hlength := wordLength_key 0 more hkey.chars hmore
  rw [Nat.zero_add] at hlength
  -- Behind the key stands its colon, so there is no gap at all.
  have hgap : gapFrom limit {} line (column + (c :: key).length) (':' :: more) =
      .ok ({}, ⟨':' :: more, line, column + (c :: key).length⟩) := rfl
  rw [plainScalar]
  simp only [plainFrom_word _ hmarker hkey.ne_nil hhash hlength hgap, true_or, if_true, bind,
    Except.bind]
  rfl

end WrapperModel.Yaml
