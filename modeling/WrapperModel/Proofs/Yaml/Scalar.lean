import WrapperModel.Proofs.Yaml.Block
import WrapperModel.Proofs.Yaml.DoubleQuoted
import WrapperModel.Proofs.Yaml.Lexer
import WrapperModel.Proofs.Yaml.SingleQuoted

/-!
# `WrapperModel.Proofs.Yaml.Scalar`: a written text is one lexeme

In whichever form a text is written, the lexer makes one scalar of it and goes on with the
next line. The form that `styleOf` chooses is one in which the text can be written, so no
assumption on the text is left.

* `leads_plain`, `leads_singleQuoted`, `leads_doubleQuoted`, `leads_literal`: the four forms.
* `leads_text`: every text.
* `leads_brackets`: the brackets of a sequence without items.
-/

set_option autoImplicit false

namespace WrapperModel.Yaml

/-! ### The form that is chosen -/

/-- A text that `styleOf` writes plainly may be, and stands for nothing else. -/
theorem plainAllowed_of_styleOf {cs : List Char} (h : styleOf cs = .plain) :
    plainAllowed cs = true ∧ resolve cs = .text := by
  -- The plain form is what is left when no other one is needed.
  unfold styleOf at h
  split at h
  · split at h <;> simp at h
  · split at h
    · unfold quotedStyle at h
      split at h <;> simp at h
    · rename_i hplain
      simp only [readsAsOther, Bool.or_eq_true, Bool.not_eq_true', not_or,
        Bool.not_eq_false] at hplain
      exact ⟨hplain.2, by simpa using hplain.1.1⟩

/-- A text that `styleOf` writes between single quotes may be, and has no line feed, which would
have made it a block. -/
theorem singleQuotedAllowed_of_styleOf {cs : List Char} (h : styleOf cs = .singleQuoted) :
    singleQuotedAllowed cs = true ∧ '\n' ∉ cs := by
  -- A text with a line feed was taken by the case before.
  unfold styleOf at h
  split at h
  · split at h <;> simp at h
  · rename_i hline
    split at h
    · unfold quotedStyle at h
      split at h
      · rename_i hallowed
        exact ⟨hallowed, by simpa using hline⟩
      · simp at h
    · simp at h

/-- A text that `styleOf` writes as a block may be. -/
theorem blockAllowed_of_styleOf {cs : List Char} (h : styleOf cs = .literal) :
    blockAllowed cs = true := by
  unfold styleOf at h
  split at h
  · split at h
    · assumption
    · simp at h
  · split at h
    · unfold quotedStyle at h
      split at h <;> simp at h
    · simp at h

namespace Lexer

variable {produced : List Token} {indents : List Int} {keyAllowed : Bool}
  {n line column after : Nat} {next : List Char}

/-! ### In front of a scalar -/

/-- Where a scalar begins past the indentation, the key that `saveKey` puts aside need not be one.
So it can be dropped again when no colon follows (`leads_nextLine`). -/
theorem saveKey_outside (produced : List Token) (indent : Int) (indents : List Int)
    (keyAllowed : Bool) (cursor : Cursor) (hindent : indent < cursor.column) :
    ∃ key?, (outside produced indent indents keyAllowed cursor).saveKey =
        .ok { outside produced indent indents keyAllowed cursor with keys := [key?] } ∧
      ∀ key ∈ key?, key.required = false ∧ key.line = cursor.line := by
  have hrequired : decide (indent = cursor.column) = false := decide_eq_false (by omega)
  -- Where no key may begin nothing is put aside.
  cases keyAllowed with
  | false => exact ⟨none, rfl, by simp⟩
  | true =>
    refine ⟨some (PossibleKey.atCursor cursor produced.length (decide (indent = cursor.column))),
      rfl, ?_⟩
    intro key hkey
    rw [Option.mem_some_iff] at hkey
    rw [← hkey]
    exact ⟨hrequired, rfl⟩

/-- Behind the space in front of a lexeme, that lexeme is the next step. The lexeme has to take a
character at least, which `hshort` says. -/
theorem leads_lexeme {c : Char} {rest : List Char} {lexer : Lexer} (hcolumn : n ≤ column)
    (hblank : isBlank c = false) (hbreak : isBreak c = false) (hhash : c ≠ '#')
    (hlexeme : (outside produced n indents keyAllowed ⟨c :: rest, line, column + 1⟩).lexeme c rest =
      .ok lexer)
    (hshort : lexer.cursor.chars.length ≤ rest.length) :
    Leads (outside produced n indents keyAllowed ⟨' ' :: c :: rest, line, column⟩) lexer := by
  refine .of_step (fun lines hlines => ?_) (by simp only [outside, List.length_cons]; omega)
  obtain ⟨lines, rfl⟩ : ∃ n, lines = n + 1 := ⟨lines - 1, by omega⟩
  -- One space stands in front of the lexeme, so one blank is passed.
  have hskip : skipBlanks false keyAllowed ⟨spaces 1 ++ c :: rest, line, column⟩ (lines + 1) =
      (keyAllowed, ⟨c :: rest, line, column + 1⟩) :=
    skipBlanks_spaces keyAllowed line column lines 1 (by simpa using ⟨hblank, hbreak⟩)
      (by simpa using hhash) (fun h => absurd h (by decide))
  refine (step_outside hskip).trans (afterBlanks_lexeme ?_ hlexeme)
  show (n : Int) ≤ ((column + 1 : Nat) : Int)
  omega

/-- Behind a scalar that ends its line the lexer goes on with the next line, where the key that was
put aside is given up (`leads_nextLine`). -/
theorem leads_behind {scalar : Token} {key? : Option PossibleKey} {line' column' : Nat}
    (hnext : BeginsLine next) (hkey : ∀ key ∈ key?, key.required = false ∧ key.line = line)
    (hline : line ≤ line') :
    Leads { outside (scalar :: produced) n indents keyAllowed
        ⟨'\n' :: (spaces after ++ next), line', column'⟩ with keys := [key?] }
      (outside (scalar :: produced) n indents true ⟨next, line' + 1, after⟩) := by
  refine leads_nextLine hnext (fun key hmem => ?_) (fun lines hlines => ?_) ?_
  · obtain ⟨hrequired, hkeyLine⟩ := hkey key hmem
    exact ⟨hrequired, by omega⟩
  · obtain ⟨lines, rfl⟩ : ∃ n, lines = n + 2 := ⟨lines - 2, by omega⟩
    exact skipBlanks_newLine keyAllowed line' column' lines after hnext
  · simp only [List.length_cons, List.length_append]
    omega

/-! ### The four forms -/

/-- The mark of a text between double or single quotes, as the flag of `quotedScalar` has them. -/
def quoteMark (double : Bool) : Char :=
  if double then '"' else '\''

/-- A quote begins a text between quotes: it is none of the marks for which `lexeme` looks
before. -/
theorem lexeme_eq_quotedScalar {lexer : Lexer} {double : Bool} {rest : List Char} :
    lexer.lexeme (quoteMark double) rest = lexer.quotedScalar double := by
  have hmarker := atDocumentMarker_cons (c := quoteMark double) (by cases double <;> decide)
    (by cases double <;> decide) lexer.cursor.column rest
  simp only [atDocumentMarker, Bool.or_eq_false_iff] at hmarker
  cases double <;> simp_all [lexeme, quoteMark]

/-- A text between quotes that ends its line is one lexeme. How its inside is read (`hread`) is left
to the two forms. -/
theorem leads_quotedScalar (double : Bool) {cs rest : List Char} {line' column' : Nat}
    (hnext : BeginsLine next) (hcolumn : n < column) (hle : line ≤ line')
    (hshort : ('\n' :: (spaces after ++ next)).length ≤ rest.length)
    (hread : (if double then doubleQuoted [] {} line (column + 1 + 1) rest
      else singleQuoted [] {} line (column + 1 + 1) rest) =
        .ok (cs, ⟨'\n' :: (spaces after ++ next), line', column'⟩)) :
    Leads (outside produced n indents keyAllowed ⟨' ' :: quoteMark double :: rest, line, column⟩)
      (outside (.scalar false cs :: produced) n indents true ⟨next, line' + 1, after⟩) := by
  obtain ⟨key?, hsave, hkey⟩ := saveKey_outside produced n indents keyAllowed
    ⟨quoteMark double :: rest, line, column + 1⟩ (by simp only; omega)
  -- The key in front is kept until the next line shows that no colon follows it.
  have hlexeme : (outside produced n indents keyAllowed
      ⟨quoteMark double :: rest, line, column + 1⟩).lexeme (quoteMark double) rest =
      .ok { outside (.scalar false cs :: produced) n indents false
        ⟨'\n' :: (spaces after ++ next), line', column'⟩ with keys := [key?] } := by
    rw [lexeme_eq_quotedScalar, quotedScalar, hsave]
    cases double with
    | false | true =>
      simp only [if_true, Bool.false_eq_true, if_false] at hread
      simp only [bind, Except.bind, outside, Cursor.advance, List.drop_succ_cons, List.drop_zero,
        if_true, Bool.false_eq_true, if_false, hread]
      rfl
  have hblank : isBlank (quoteMark double) = false := by cases double <;> decide
  have hbreak : isBreak (quoteMark double) = false := by cases double <;> decide
  have hhash : quoteMark double ≠ '#' := by cases double <;> decide
  exact (leads_lexeme (by omega) hblank hbreak hhash hlexeme hshort).trans
    (leads_behind hnext hkey hle)

/-- A plain text is scanned up to the indentation of the next line (`plainScalar_append`), and put
aside as a key that it need not be. -/
theorem lexeme_plain (produced : List Token) (indents : List Int) (keyAllowed : Bool) (line : Nat)
    {c : Char} {rest : List Char} (hnext : BeginsLine next) (hcolumn : n < column)
    (hafter : after ≤ n) (hplain : IsPlainLine (c :: rest)) :
    ∃ key?, (∀ key ∈ key?, key.required = false ∧ key.line = line) ∧
      (outside produced n indents keyAllowed
          ⟨c :: (rest ++ '\n' :: (spaces after ++ next)), line, column⟩).lexeme c
            (rest ++ '\n' :: (spaces after ++ next)) =
        .ok { outside (.scalar true (c :: rest) :: produced) n indents true
          ⟨next, line + 1, after⟩ with keys := [key?] } := by
  have hscalar : plainScalar false ((n : Int) + 1)
      ⟨c :: (rest ++ '\n' :: (spaces after ++ next)), line, column⟩ =
        .ok (c :: rest, true, ⟨next, line + 1, after⟩) :=
    plainScalar_append line column after hplain.toIsPlain (by omega) (by omega) (by omega)
      hnext.isBlank_isBreak
  obtain ⟨key?, hsave, hkey⟩ := saveKey_outside produced n indents keyAllowed
    ⟨c :: (rest ++ '\n' :: (spaces after ++ next)), line, column⟩ (by simp only; omega)
  have hfirst := hplain.first
  simp only [beginsLikeIndicator, Bool.or_eq_false_iff, Bool.and_eq_false_iff] at hfirst
  obtain ⟨hreserved, hsign⟩ := hfirst
  -- A sign of its own meaning would have a blank behind it.
  have hmark : c = '-' ∨ c = '?' ∨ c = ':' →
      beginsBlank (rest ++ '\n' :: (spaces after ++ next)) = false := by
    intro hc
    rw [beginsBlank_append_newLine]
    rcases hc with rfl | rfl | rfl <;> simpa using hsign
  have hword := isBlankOrBreak_of_isAccepted (hplain.accepted c List.mem_cons_self)
    (hplain.head c rfl) (hplain.unbroken c List.mem_cons_self)
  have hcolumn' : column ≠ 0 := by omega
  refine ⟨key?, hkey, ?_⟩
  rw [lexeme_eq_plain rfl (atDocumentMarker_eq_false hcolumn' _) hreserved hword hmark]
  exact plain_eq hsave hscalar

/-- A plain text is one lexeme. It ends because the next line is not indented deeper than the
mapping around it (`hafter`). -/
theorem leads_plain {cs : List Char} (hnext : BeginsLine next) (hcolumn : n < column)
    (hafter : after ≤ n) (hplain : IsPlainLine cs) :
    ∃ line', Leads
      (outside produced n indents keyAllowed
        ⟨' ' :: (cs ++ '\n' :: (spaces after ++ next)), line, column⟩)
      (outside (.scalar true cs :: produced) n indents true ⟨next, line', after⟩) := by
  obtain ⟨c, rest, rfl⟩ := List.exists_cons_of_ne_nil hplain.ne_nil
  obtain ⟨key?, hkey, hlexeme⟩ := lexeme_plain produced indents keyAllowed line hnext
    (Nat.lt_succ_of_lt hcolumn) hafter hplain
  have hhash : c ≠ '#' := fun heq => hplain.head_ne_hash (by rw [heq]; rfl)
  refine ⟨line + 1, (leads_lexeme (Nat.le_of_lt hcolumn) (hplain.head c rfl)
    (hplain.unbroken c List.mem_cons_self) hhash hlexeme ?_).trans ?_⟩
  · simp only [outside, List.length_append, List.length_cons]
    omega
  · -- The scalar went over the break, so the lexer is in front of the next line already.
    refine leads_nextLine hnext (fun key hmem => ?_) (fun lines hlines => ?_) (Nat.le_refl _)
    · obtain ⟨hrequired, hline⟩ := hkey key hmem
      exact ⟨hrequired, by rw [hline]; exact Nat.lt_succ_self line⟩
    · obtain ⟨lines, rfl⟩ : ∃ n, lines = n + 1 := ⟨lines - 1, by omega⟩
      exact skipBlanks_line true (line + 1) after lines hnext

/-- A text between single quotes is one lexeme, if it may be written so (`singleQuotedAllowed`) and
has no line feed. -/
theorem leads_singleQuoted {cs : List Char} (hnext : BeginsLine next) (hcolumn : n < column)
    (hallowed : singleQuotedAllowed cs = true) (hline : '\n' ∉ cs) :
    ∃ line', Leads
      (outside produced n indents keyAllowed
        ⟨' ' :: '\'' :: (singleQuotedBody (n + 2) false cs ++ '\n' :: (spaces after ++ next)), line,
          column⟩)
      (outside (.scalar false cs :: produced) n indents true ⟨next, line', after⟩) := by
  -- Breaks inside may take several lines, so the line at the end is only known to be no earlier.
  obtain ⟨line', column', hle, hread⟩ : ∃ line' column', line ≤ line' ∧
      singleQuoted [] {} line (column + 1 + 1)
          (singleQuotedBody (n + 2) false cs ++ '\n' :: (spaces after ++ next)) =
        .ok (cs, ⟨'\n' :: (spaces after ++ next), line', column'⟩) :=
    singleQuoted_body (by omega) line (column + 1 + 1) hallowed hline (by omega) (by simp)
  refine ⟨line' + 1, leads_quotedScalar false hnext hcolumn hle ?_ hread⟩
  rw [List.length_append]
  omega

/-- A text between double quotes is one lexeme. Every text can be written like this
(`doubleQuoted_body`). -/
theorem leads_doubleQuoted (cs : List Char) (hnext : BeginsLine next) (hcolumn : n < column) :
    ∃ line', Leads
      (outside produced n indents keyAllowed
        ⟨' ' :: '"' :: (cs.flatMap escapeChar ++ '"' :: '\n' :: (spaces after ++ next)), line,
          column⟩)
      (outside (.scalar false cs :: produced) n indents true ⟨next, line', after⟩) := by
  obtain ⟨column', hread⟩ := doubleQuoted_body cs line (column + 1 + 1)
    ('\n' :: (spaces after ++ next)) (by omega)
  refine ⟨line + 1, leads_quotedScalar true hnext hcolumn (Nat.le_refl line) ?_ hread⟩
  rw [List.length_append, List.length_cons (a := '"')]
  omega

/-- A bar outside of brackets begins a block. Inside of them it would be an error. -/
theorem lexeme_eq_block {lexer : Lexer} {rest : List Char} (hflow : lexer.inFlow = false) :
    lexer.lexeme '|' rest = lexer.block false := by
  have hmarker := atDocumentMarker_cons (c := '|') (by decide) (by decide) lexer.cursor.column rest
  simp only [atDocumentMarker, Bool.or_eq_false_iff] at hmarker
  simp [lexeme, hmarker.1, hmarker.2, hflow]

/-- A block is read where no possible key has to be one (`hdrop`). Both outcomes are assumed, and
the rest of `block` cannot fail. -/
theorem block_eq {lexer lexer' : Lexer} {folded : Bool} {text : List Char} {cursor : Cursor}
    (hdrop : lexer.dropKey = .ok lexer')
    (hread : blockScalar folded lexer'.indent (lexer'.cursor.advance 1) = .ok (text, cursor)) :
    lexer.block folded =
      .ok { lexer'.emit (.scalar false text) with cursor, keyAllowed := true } := by
  simp only [block, hdrop, hread, bind, Except.bind]
  rfl

/-- A block is one lexeme, if it may be written so (`blockAllowed`). It ends itself in front of the
next line, so nothing is left of its last break. -/
theorem leads_literal {cs : List Char} (hnext : BeginsLine next) (hcolumn : n < column)
    (hafter : after ≤ n) (hallowed : blockAllowed cs = true) :
    ∃ line', Leads
      (outside produced n indents keyAllowed
        ⟨' ' :: '|' :: (indentationHint cs ++ chompingHint cs ++ '\n' ::
          (literalBody (n + 2) true (closed cs) ++ (spaces after ++ next))), line, column⟩)
      (outside (.scalar false cs :: produced) n indents true ⟨next, line', after⟩) := by
  -- A tab is not printable, so it does not begin a block.
  have hchars : cs ≠ [] ∧ cs.head? ≠ some '\t' := by
    simp only [blockAllowed, allPrintable, Bool.and_eq_true, List.all_eq_true] at hallowed
    refine ⟨?_, fun heq => ?_⟩
    · rintro rfl
      simp at hallowed
    · exact absurd (hallowed.1.1 '\t' (List.mem_of_mem_head? heq)) (by decide)
  obtain ⟨line', hline, hread⟩ :=
    blockScalar_literal hchars.1 hchars.2 hafter hnext.isBlank_isBreak line (column + 1 + 1)
  have hlexeme : (outside produced n indents keyAllowed
      ⟨'|' :: (indentationHint cs ++ chompingHint cs ++ '\n' ::
        (literalBody (n + 2) true (closed cs) ++ (spaces after ++ next))), line, column + 1⟩).lexeme
      '|' (indentationHint cs ++ chompingHint cs ++ '\n' ::
        (literalBody (n + 2) true (closed cs) ++ (spaces after ++ next))) =
      .ok (outside (.scalar false cs :: produced) n indents true ⟨next, line', after⟩) := by
    rw [lexeme_eq_block rfl]
    refine Eq.trans (block_eq rfl ?_) rfl
    exact hread
  refine ⟨line', leads_lexeme (by omega) (by decide) (by decide) (by decide) hlexeme ?_⟩
  simp only [outside, List.length_append, List.length_cons]
  omega

/-! ### Every text -/

/-- Every text is one lexeme in the form in which it is written. It is plain only where it is
written plainly, which decides how it is resolved later (`gives_optionalText`). -/
theorem leads_text (cs : List Char) (hnext : BeginsLine next) (hcolumn : n < column)
    (hafter : after ≤ n) :
    ∃ line', Leads
      (outside produced n indents keyAllowed
        ⟨' ' :: (scalarChars (n + 2) cs ++ (spaces after ++ next)), line, column⟩)
      (outside (.scalar (styleOf cs = .plain) cs :: produced) n indents true
        ⟨next, line', after⟩) := by
  unfold scalarChars
  -- By the form that is chosen; each form has its own condition on the text.
  cases hstyle : styleOf cs with
  | plain =>
    obtain ⟨hplain, htext⟩ := plainAllowed_of_styleOf hstyle
    have hne : cs ≠ [] := by
      rintro rfl
      exact absurd htext (by decide)
    have htext : styledChars (n + 2) cs .plain ++ (spaces after ++ next) =
        cs ++ '\n' :: (spaces after ++ next) := by simp [styledChars]
    rw [htext]
    exact leads_plain hnext hcolumn hafter (isPlainLine_of_plainAllowed hne hplain)
  | singleQuoted =>
    obtain ⟨hallowed, hline⟩ := singleQuotedAllowed_of_styleOf hstyle
    have htext : styledChars (n + 2) cs .singleQuoted ++ (spaces after ++ next) =
        '\'' :: (singleQuotedBody (n + 2) false cs ++ '\n' :: (spaces after ++ next)) := by
      simp [styledChars]
    rw [htext]
    exact leads_singleQuoted hnext hcolumn hallowed hline
  | doubleQuoted =>
    have htext : styledChars (n + 2) cs .doubleQuoted ++ (spaces after ++ next) =
        '"' :: (cs.flatMap escapeChar ++ '"' :: '\n' :: (spaces after ++ next)) := by
      simp [styledChars]
    rw [htext]
    exact leads_doubleQuoted cs hnext hcolumn
  | literal =>
    have htext : styledChars (n + 2) cs .literal ++ (spaces after ++ next) =
        '|' :: (indentationHint cs ++ chompingHint cs ++ '\n' ::
          (literalBody (n + 2) true (closed cs) ++ (spaces after ++ next))) := by
      simp [styledChars_literal]
    rw [htext]
    exact leads_literal hnext hcolumn hafter (blockAllowed_of_styleOf hstyle)

/-! ### No items -/

/-- An opening bracket leads into the brackets, where there is room for a key of its own. -/
theorem leads_openBracket {rest : List Char} (hcolumn : n ≤ column) :
    Leads (outside produced n indents false ⟨' ' :: '[' :: rest, line, column⟩)
      { outside (.flowSequenceStart :: produced) n indents true ⟨rest, line, column + 1 + 1⟩ with
        keys := [none, none] } := by
  -- A bracket is no mark of a document, wherever it stands.
  have hmarker := atDocumentMarker_cons (c := '[') (by decide) (by decide) (column + 1) rest
  simp only [atDocumentMarker, Bool.or_eq_false_iff] at hmarker
  have hbracket : (outside produced n indents false ⟨'[' :: rest, line, column + 1⟩).lexeme '['
      rest = openFlow (outside produced n indents false ⟨'[' :: rest, line, column + 1⟩)
        .flowSequenceStart := by
    simp [lexeme, outside, hmarker.1, hmarker.2]
  exact leads_lexeme hcolumn (by decide) (by decide) (by decide) (hbracket.trans rfl)
    (Nat.le_refl _)

/-- A closing bracket leads out of the brackets. It is the one step here that starts inside of them,
where the indentation has no meaning. -/
theorem leads_closeBracket {rest : List Char} (hcolumn : n ≤ column) :
    Leads
      { outside produced n indents true ⟨']' :: rest, line, column⟩ with keys := [none, none] }
      { outside (.flowSequenceEnd :: produced) n indents false ⟨rest, line, column + 1⟩ with
        keys := [none] } := by
  refine .of_step (fun lines hlines => ?_) (by simp [outside])
  obtain ⟨lines, rfl⟩ : ∃ n, lines = n + 1 := ⟨lines - 1, by omega⟩
  -- Inside of the brackets nothing stands in front of the closing one.
  have hskip : skipBlanks true true ⟨']' :: rest, line, column⟩ (lines + 1) =
      (true, ⟨']' :: rest, line, column⟩) := by
    have hbreak : isBreak ']' = false := by decide
    have hmark : ']' ≠ byteOrderMark := by decide
    simp [skipBlanks, Cursor.skipWhile, Cursor.advance, hbreak, hmark]
  have hmarker := atDocumentMarker_cons (c := ']') (by decide) (by decide) column rest
  simp only [atDocumentMarker, Bool.or_eq_false_iff] at hmarker
  have hbracket : lexeme
      { outside produced n indents true ⟨']' :: rest, line, column⟩ with keys := [none, none] }
      ']' rest = closeFlow
        { outside produced n indents true ⟨']' :: rest, line, column⟩ with keys := [none, none] }
        .flowSequenceEnd := by
    simp [lexeme, outside, hmarker.1, hmarker.2]
  have hstep : step
      { outside produced n indents true ⟨']' :: rest, line, column⟩ with keys := [none, none] }
      (lines + 1) = afterBlanks
        { outside produced n indents true ⟨']' :: rest, line, column⟩ with keys := [none, none] }
        ⟨']' :: rest, line, column⟩ := step_eq_afterBlanks hskip rfl
  refine hstep.trans (afterBlanks_lexeme ?_ (hbracket.trans rfl))
  show (n : Int) ≤ column
  omega

/-- A pair of brackets is two lexemes. It is how a sequence without items is written
(`isValue_noTexts`). -/
theorem leads_brackets (hnext : BeginsLine next) (hcolumn : n ≤ column) :
    Leads
      (outside produced n indents false
        ⟨' ' :: '[' :: ']' :: '\n' :: (spaces after ++ next), line, column⟩)
      (outside (.flowSequenceEnd :: .flowSequenceStart :: produced) n indents true
        ⟨next, line + 1, after⟩) :=
  (leads_openBracket hcolumn).trans ((leads_closeBracket (by omega)).trans
    (leads_behind hnext (by simp) (Nat.le_refl line)))

end Lexer

end WrapperModel.Yaml
