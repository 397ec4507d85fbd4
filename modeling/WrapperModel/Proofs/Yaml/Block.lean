import WrapperModel.Proofs.Yaml.Plain
import WrapperModel.Yaml.Printer

/-!
# `WrapperModel.Proofs.Yaml.Block`: a text of several lines reads back

A block holds the lines of a text behind their indentation, and a break behind the last one
in any case. The reader alternates between empty lines, of which it keeps the breaks, and
lines that hold something. `bodyCursor` is where it stands between the two.

* `blockBreaks_literalBody`: empty lines, up to a line that holds something or to the end.
* `blockLines_bodyCursor`: the lines that are left, one after the other.
* `exists_chomping`: the breaks that the writer's mark keeps are those of the text.
* `blockScalar_literal`: a block, with its marks, is read as the text.
-/

set_option autoImplicit false

namespace WrapperModel.Yaml

/-! ### Empty lines -/

/-- Where the reader stands behind the indentation of a line that holds something, or behind the
block: in front of the rest of the text (`literalBody`), and of the lines behind the block. -/
def bodyCursor (indent column : Nat) (next : List Char) (line : Nat) : List Char → Cursor
  | [] => ⟨next, line, column⟩
  | c :: rest => ⟨c :: literalBody indent false rest ++ (spaces column ++ next), line, indent⟩

/-- `blockBreaks` passes spaces up to the indentation. Past it they belong to the line, so the bound
`h` is needed. -/
theorem blockBreaks_spaces {indent : Nat} (deepest : Nat) (breaks : List Char)
    (line column n : Nat) (rest : List Char) (h : column + n ≤ indent) :
    blockBreaks indent deepest breaks line column (spaces n ++ rest) =
      blockBreaks indent deepest breaks line (column + n) rest := by
  induction n generalizing column with
  | zero => rfl
  | succ n ih =>
    have hless : column < indent := by omega
    have hstep : blockBreaks indent deepest breaks line column (' ' :: (spaces n ++ rest)) =
        blockBreaks indent deepest breaks line (column + 1) (spaces n ++ rest) := by
      simp [blockBreaks, hless]
    have hspaces : spaces (n + 1) ++ rest = ' ' :: (spaces n ++ rest) := rfl
    rw [hspaces, hstep, ih (column + 1) (by omega)]
    congr 1
    omega

/-- `blockBreaks` passes all spaces while the indentation is unknown, since any of them may belong
to it. -/
theorem blockBreaks_spaces_unknown (deepest : Nat) (breaks : List Char) (line column n : Nat)
    (rest : List Char) :
    blockBreaks 0 deepest breaks line column (spaces n ++ rest) =
      blockBreaks 0 deepest breaks line (column + n) rest := by
  induction n generalizing column with
  | zero => rfl
  | succ n ih =>
    have hstep : blockBreaks 0 deepest breaks line column (spaces (n + 1) ++ rest) =
        blockBreaks 0 deepest breaks line (column + 1) (spaces n ++ rest) := rfl
    rw [hstep, ih]
    congr 1
    omega

/-- `blockBreaks` stops where neither an indentation nor a break goes on. A blank may come next only
past a known indentation, where it belongs to the line (`hspace`). -/
theorem blockBreaks_stop {indent deepest : Nat} (breaks : List Char) (line column : Nat)
    {rest : List Char}
    (hspace : ∀ c ∈ rest.head?, c = ' ' ∨ c = '\t' → indent ≠ 0 ∧ indent ≤ column)
    (hbreak : ∀ c ∈ rest.head?, isBreak c = false) :
    blockBreaks indent deepest breaks line column rest =
      .ok (max deepest column, breaks, ⟨rest, line, column⟩) := by
  cases rest with
  | nil => rfl
  | cons c rest =>
    have hc := hbreak c rfl
    -- A space or a tab is passed only in front of the indentation.
    have hinside : ∀ d, d = ' ' ∨ d = '\t' →
        (decide (c = d) && (decide (indent = 0) || decide (column < indent))) = false := by
      intro d hd
      by_cases heq : c = d
      · obtain ⟨hzero, hle⟩ := hspace c rfl (heq ▸ hd)
        simp [hzero]
        intro
        omega
      · simp [heq]
    rw [blockBreaks, hinside ' ' (.inl rfl), hinside '\t' (.inr rfl), hc]
    rfl

/-- `blockBreaks` passes empty lines, up to a line that holds something or to the end of the block.
What follows the block stands in a column in front of the indentation, so reading stops there too
(`bodyCursor`). -/
theorem blockBreaks_literalBody {indent column : Nat} {next : List Char} (hcolumn : column < indent)
    (hnext : ∀ c ∈ next.head?, isBlank c = false ∧ isBreak c = false) (cs : List Char)
    (deepest : Nat) (breaks : List Char) (line : Nat) :
    ∃ empty rest line' deepest', cs = empty ++ rest ∧ (∀ c ∈ empty, isBreak c = true) ∧
      (∀ c ∈ rest.head?, isBreak c = false) ∧ line ≤ line' ∧
      blockBreaks indent deepest breaks line 0
          (literalBody indent true cs ++ (spaces column ++ next)) =
        .ok (deepest', empty.reverse ++ breaks, bodyCursor indent column next line' rest) := by
  -- Up to the first character that is no break, which stands behind the indentation.
  induction cs generalizing deepest breaks line with
  | nil =>
    refine ⟨[], [], line, max deepest column, rfl, by simp, by simp, Nat.le_refl line, ?_⟩
    rw [literalBody, List.nil_append, blockBreaks_spaces _ _ _ _ _ _ (by omega), Nat.zero_add]
    refine blockBreaks_stop breaks line column (fun c hc hblank => ?_) fun c hc => (hnext c hc).2
    have := (hnext c hc).1
    rcases hblank with rfl | rfl <;> exact absurd this (by decide)
  | cons c cs ih =>
    by_cases hc : isBreak c = true
    · obtain ⟨empty, rest, line', deepest', rfl, hempty, hrest, hline, hread⟩ :=
        ih (max deepest 0) (c :: breaks) (line + 1)
      have hspace : c ≠ ' ' := by
        rintro rfl
        exact absurd hc (by decide)
      have htab : c ≠ '\t' := by
        rintro rfl
        exact absurd hc (by decide)
      refine ⟨c :: empty, rest, line', deepest', rfl, by simpa [hc] using hempty, hrest,
        by omega, ?_⟩
      rw [literalBody, if_pos hc, List.cons_append, blockBreaks]
      simp only [hspace, htab, hc, decide_false, Bool.false_and, Bool.false_eq_true, if_false,
        if_true, hread]
      simp
    · -- The first line that holds something is indented, and reading stops behind that.
      have hc' : isBreak c = false := by simpa using hc
      refine ⟨[], c :: cs, line, max deepest indent, rfl, by simp, by simpa using hc',
        Nat.le_refl line, ?_⟩
      rw [literalBody, if_neg hc, if_pos rfl, List.append_assoc,
        blockBreaks_spaces _ _ _ _ _ _ (by omega), Nat.zero_add]
      refine blockBreaks_stop breaks line indent (fun _ _ _ => ⟨by omega, Nat.le_refl indent⟩) ?_
      simpa using hc'

/-! ### Lines that hold something -/

/-- The characters of a line stand behind its indentation as they are: `literalBody` writes spaces
only at the beginning of a line. -/
theorem literalBody_append (indent : Nat) {line : List Char} (rest : List Char)
    (hline : ∀ c ∈ line, isBreak c = false) :
    literalBody indent false (line ++ rest) = line ++ literalBody indent false rest := by
  -- on the line; behind its first character no further one is indented
  induction line with
  | nil => rfl
  | cons c line ih =>
    have hc := hline c List.mem_cons_self
    rw [List.cons_append, literalBody, if_neg (by simp [hc]),
      ih fun d hd => hline d (List.mem_cons_of_mem _ hd)]
    rfl

/-- The end of a text is the end of what it ends in. So a rest of lines ends in a break as the lines
did. -/
theorem isBreak_getLast?_of_append {cs ds : List Char}
    (h : ∀ c ∈ (cs ++ ds).getLast?, isBreak c = true) : ∀ c ∈ ds.getLast?, isBreak c = true := by
  intro c hc
  refine h c ?_
  rw [Option.mem_def] at hc ⊢
  rw [List.getLast?_append, hc]
  rfl

/-- A text that ends in a break and begins with none is a line and the rest of the text, which ends
in a break as well or is empty. It is the step of the induction in `blockLines_bodyCursor`. -/
theorem exists_line {cs : List Char} (hhead : ∀ c ∈ cs.head?, isBreak c = false)
    (hlast : ∀ c ∈ cs.getLast?, isBreak c = true) (hne : cs ≠ []) :
    ∃ line b rest, cs = line ++ b :: rest ∧ line ≠ [] ∧ (∀ c ∈ line, isBreak c = false) ∧
      isBreak b = true ∧ ∀ c ∈ rest.getLast?, isBreak c = true := by
  induction cs with
  | nil => exact absurd rfl hne
  | cons c cs ih =>
    have hc := hhead c rfl
    cases cs with
    | nil => exact absurd (hlast c rfl) (by simp [hc])
    | cons d cs =>
      have hlast' : ∀ e ∈ (d :: cs).getLast?, isBreak e = true := fun e he =>
        hlast e (by rwa [List.getLast?_cons_cons])
      -- The line ends here if a break follows, else the induction continues it.
      by_cases hd : isBreak d = true
      · have hrest : ∀ e ∈ ([d] ++ cs).getLast?, isBreak e = true := hlast'
        exact ⟨[c], d, cs, rfl, by simp, by simpa using hc, hd, isBreak_getLast?_of_append hrest⟩
      · obtain ⟨line, b, rest, heq, -, hline, hb, hrest⟩ :=
          ih (by simpa using hd) hlast' (by simp)
        refine ⟨c :: line, b, rest, by rw [heq]; rfl, by simp, ?_, hb, hrest⟩
        simpa [hc] using hline

/-- In front of a line the reader stands in front of its characters and its break. It opens
`bodyCursor` for the step `blockLines_line`. -/
theorem bodyCursor_line {indent column number : Nat} {next line rest : List Char} {b : Char}
    (hne : line ≠ []) (hline : ∀ c ∈ line, isBreak c = false) (hb : isBreak b = true) :
    bodyCursor indent column next number (line ++ b :: rest) =
      ⟨line ++ b :: (literalBody indent true rest ++ (spaces column ++ next)), number, indent⟩ := by
  obtain ⟨c, line, rfl⟩ := List.exists_cons_of_ne_nil hne
  have hbody := literalBody_append indent (b :: rest)
    fun d hd => hline d (List.mem_cons_of_mem c hd)
  rw [literalBody, if_pos hb] at hbody
  rw [List.cons_append, bodyCursor, hbody]
  simp

/-- The reader has read that much of a text: a line that holds something with its break, or none so
far, and empty lines behind it. The last field keeps the breaks of the text apart from its lines,
which decides what `BlockState.chomped` drops. -/
structure IsRead (done : List Char) (state : BlockState) : Prop where
  joined : state.emptyLines ++ (state.lineBreak ++ state.text) = done.reverse
  empty : ∀ c ∈ state.emptyLines, isBreak c = true
  line : (state.lineBreak = [] ∧ state.text = []) ∨
    ∃ b c rest, state.lineBreak = [b] ∧ isBreak b = true ∧ state.text = c :: rest ∧
      isBreak c = false

/-- A line that holds something, its break and empty lines behind it are read behind what was read
before. The state is the one that `blockLines_line` leads to. -/
theorem IsRead.line_append {done body empty : List Char} {b : Char} {state : BlockState}
    (h : IsRead done state) (blank : Bool) (hbody : body ≠ [])
    (hchars : ∀ c ∈ body, isBreak c = false) (hb : isBreak b = true)
    (hempty : ∀ c ∈ empty, isBreak c = true) :
    IsRead (done ++ (body ++ b :: empty))
      ⟨body.reverse ++ (state.emptyLines ++ (state.lineBreak ++ state.text)), [b], empty.reverse,
        blank⟩ where
  joined := by
    rw [h.joined]
    simp
  empty := by simpa using hempty
  line := by
    -- The last character in front of the break is one of the line.
    obtain ⟨c, rest, hreverse⟩ : ∃ c rest, body.reverse = c :: rest :=
      List.exists_cons_of_ne_nil (by simpa using hbody)
    refine .inr ⟨b, c, rest ++ (state.emptyLines ++ (state.lineBreak ++ state.text)), rfl, hb,
      by rw [hreverse]; rfl, hchars c ?_⟩
    rw [← List.mem_reverse, hreverse]
    exact List.mem_cons_self

/-- One line is read with its break and the empty lines behind it. Nothing is folded, so the breaks
in front of it join the text as they are (`BlockState.joined`). -/
theorem blockLines_line {indent deepest : Nat} {line rest empty : List Char} {b : Char}
    {next : Cursor} (state : BlockState) (number bound : Nat)
    (hline : ∀ c ∈ line, isBreak c = false) (hb : isBreak b = true)
    (hempty : blockBreaks indent 0 [] (number + 1) 0 rest = .ok (deepest, empty, next)) :
    ∃ blank, blockLines false indent state ⟨line ++ b :: rest, number, indent⟩ (bound + 1) =
      blockLines false indent
        ⟨line.reverse ++ (state.emptyLines ++ (state.lineBreak ++ state.text)), [b], empty, blank⟩
        next bound := by
  have htake : (line ++ b :: rest).takeWhile (fun c => !isBreak c) = line := by
    rw [List.takeWhile_append_of_pos (fun c hc => by simp [hline c hc])]
    simp [hb]
  have hsome : (line ++ b :: rest).isEmpty = false := by simp
  -- Whether the line begins with a blank matters for folding only, so any answer will do.
  refine ⟨(line ++ b :: rest).head?.any isBlank, ?_⟩
  rw [blockLines]
  simp only [hsome, decide_true, Bool.not_false, Bool.and_self, if_true, htake, Cursor.advance,
    List.drop_left, Cursor.nextLine, List.drop_succ_cons, List.drop_zero, hempty, bind,
    Except.bind, BlockState.joined, Bool.false_and, Bool.false_eq_true, if_false]

/-- The lines that are left are read one after the other, up to the line behind the block. The
invariant is `IsRead`, for the part of the text in front of the reader. -/
theorem blockLines_bodyCursor {indent column : Nat} {next : List Char} (hcolumn : column < indent)
    (hnext : ∀ c ∈ next.head?, isBlank c = false ∧ isBreak c = false) (bound : Nat) :
    ∀ (cs done : List Char) (state : BlockState) (line : Nat),
      (∀ c ∈ cs.head?, isBreak c = false) → (∀ c ∈ cs.getLast?, isBreak c = true) →
      cs.length ≤ bound → IsRead done state →
      ∃ state' line', line ≤ line' ∧ IsRead (done ++ cs) state' ∧
        blockLines false indent state (bodyCursor indent column next line cs) bound =
          .ok (state', ⟨next, line', column⟩) := by
  -- On the bound on lines, of which every line with its empty lines uses up one.
  induction bound with
  | zero =>
    intro cs done state line _ _ hbound hread
    obtain rfl : cs = [] := List.eq_nil_of_length_eq_zero (by omega)
    exact ⟨state, line, Nat.le_refl line, by rwa [List.append_nil], rfl⟩
  | succ bound ih =>
    intro cs done state line hhead hlast hbound hread
    by_cases hne : cs = []
    · subst hne
      refine ⟨state, line, Nat.le_refl line, by rwa [List.append_nil], ?_⟩
      have hstop : column ≠ indent := by omega
      simp [bodyCursor, blockLines, hstop]
    · -- The next line is read to its break, and the empty lines behind it are put aside.
      obtain ⟨body, b, rest, rfl, hbody, hchars, hb, hrest⟩ := exists_line hhead hlast hne
      obtain ⟨empty, more, line', deepest, rfl, hempty, hmore, hle, hbreaks⟩ :=
        blockBreaks_literalBody hcolumn hnext rest 0 [] (line + 1)
      rw [List.append_nil] at hbreaks
      obtain ⟨blank, hstep⟩ := blockLines_line state line bound hchars hb hbreaks
      have hstate := hread.line_append blank hbody hchars hb hempty
      have hmoreLast := isBreak_getLast?_of_append hrest
      have hshort : more.length ≤ bound := by
        simp only [List.length_append, List.length_cons] at hbound
        omega
      obtain ⟨state', line'', hle', hread', hlines⟩ :=
        ih more _ _ line' hmore hmoreLast hshort hstate
      refine ⟨state', line'', by omega, by simpa using hread', ?_⟩
      rw [← hlines, ← hstep, bodyCursor_line hbody hchars hb]

/-! ### Marks and chomping -/

/-- A line that ends in no break and the break behind it are read as such: the state has no other
form. There is only one way to cut a text into a line, a break and empty lines. -/
theorem IsRead.eq_of_line {cs : List Char} {b : Char} {state : BlockState}
    (h : IsRead (cs ++ [b]) state) (hne : cs ≠ []) (hlast : ∀ c ∈ cs.getLast?, isBreak c = false) :
    state.emptyLines = [] ∧ state.lineBreak = [b] ∧ state.text = cs.reverse := by
  obtain ⟨last, before, hreverse⟩ : ∃ last before, cs.reverse = last :: before :=
    List.exists_cons_of_ne_nil (by simpa using hne)
  have hlast' : isBreak last = false := by
    refine hlast last ?_
    rw [← List.head?_reverse, hreverse]
    rfl
  have hjoined := h.joined
  rw [List.reverse_append, List.reverse_singleton, List.singleton_append, hreverse] at hjoined
  rw [hreverse]
  cases hempty : state.emptyLines with
  -- No empty line follows, so the break at the end is that of the line.
  | nil =>
    rw [hempty, List.nil_append] at hjoined
    rcases h.line with ⟨hbreak, htext⟩ | ⟨b', c, rest, hbreak, -, htext, -⟩
    · simp [hbreak, htext] at hjoined
    · rw [hbreak, htext, List.singleton_append, List.cons.injEq] at hjoined
      rw [hbreak, htext, hjoined.1, hjoined.2]
      simp
  | cons e rest =>
    -- Were the break an empty line, what is in front of it would be a break as well.
    exfalso
    rw [hempty, List.cons_append, List.cons.injEq] at hjoined
    have hrest := fun c hc => h.empty c (by rw [hempty]; exact List.mem_cons_of_mem e hc)
    cases rest with
    | cons c rest =>
      rw [List.cons_append, List.cons.injEq] at hjoined
      exact absurd (hrest c List.mem_cons_self) (by simp [hjoined.2.1, hlast'])
    | nil =>
      rw [List.nil_append] at hjoined
      rcases h.line with ⟨hbreak, htext⟩ | ⟨b', c, rest', hbreak, hb', htext, -⟩
      · simp [hbreak, htext] at hjoined
      · rw [hbreak, List.singleton_append, List.cons.injEq] at hjoined
        exact absurd hb' (by simp [hjoined.2.1, hlast'])

/-- A text with a break at its end, of its own or behind it. The lines of a block are those of the
closed text, and `chompingHint` says which of the two it was. -/
def closed (cs : List Char) : List Char :=
  cs ++ if cs.getLast?.any isBreak then [] else ['\n']

/-- The mark that is written for a chomping. `chompingHint` writes one of them. -/
def chompingMark : Chomping → List Char
  | .drop => ['-']
  | .clip => []
  | .keep => ['+']

/-- `blockHeader` reads the marks of a block as they are written, the indentation first. It is said
of every chomping, as `chompingHint` depends on more of the text. -/
theorem blockHeader_marks (cs rest : List Char) (chomping : Chomping) :
    blockHeader (indentationHint cs ++ chompingMark chomping ++ '\n' :: rest) =
      .ok ((indentationHint cs ++ chompingMark chomping).length, chomping,
        if cs.head?.any isSpaceOrBreak then 2 else 0) := by
  unfold indentationHint
  cases chomping <;> split <;> rfl

/-- The marks of a block are read, and of the breaks at its end they keep those of the text. So the
text comes back from its `closed` form. -/
theorem exists_chomping {cs : List Char} (hne : cs ≠ []) :
    ∃ chomping, (∀ rest, blockHeader (indentationHint cs ++ chompingHint cs ++ '\n' :: rest) =
        .ok ((indentationHint cs ++ chompingHint cs).length, chomping,
          if cs.head?.any isSpaceOrBreak then 2 else 0)) ∧
      ∀ state, IsRead (closed cs) state → (state.chomped chomping).reverse = cs := by
  -- The hint looks at the last two characters, so the text is taken apart from behind.
  obtain ⟨last, before, hreverse⟩ : ∃ last before, cs.reverse = last :: before :=
    List.exists_cons_of_ne_nil (by simpa using hne)
  have hcs : cs = before.reverse ++ [last] := by
    rw [← List.reverse_reverse cs, hreverse, List.reverse_cons]
  have hgetLast : cs.getLast? = some last := by rw [hcs, List.getLast?_concat]
  by_cases hlast : isBreak last = true
  · have hclosed : closed cs = cs := by simp [closed, hgetLast, hlast]
    have hkeep : ∀ state, IsRead (closed cs) state → (state.chomped .keep).reverse = cs := by
      intro state hread
      rw [BlockState.chomped, hread.joined, hclosed, List.reverse_reverse]
    -- a break alone or behind another one is kept with all breaks, behind a line it is clipped
    cases before with
    | nil =>
      have hmark : chompingHint cs = ['+'] := by simp [chompingHint, hreverse, hlast]
      exact ⟨.keep, fun rest => hmark ▸ blockHeader_marks cs rest .keep, hkeep⟩
    | cons c before =>
      by_cases hc : isBreak c = true
      · have hmark : chompingHint cs = ['+'] := by simp [chompingHint, hreverse, hlast, hc]
        exact ⟨.keep, fun rest => hmark ▸ blockHeader_marks cs rest .keep, hkeep⟩
      · have hmark : chompingHint cs = [] := by simp [chompingHint, hreverse, hlast, hc]
        refine ⟨.clip, fun rest => hmark ▸ blockHeader_marks cs rest .clip, fun state hread => ?_⟩
        rw [hclosed, hcs] at hread
        obtain ⟨-, hbreak, htext⟩ := hread.eq_of_line (by simp) (by simpa using hc)
        rw [BlockState.chomped, hbreak, htext, List.reverse_reverse, hcs]
        simp
  · have hmark : chompingHint cs = ['-'] := by simp [chompingHint, hreverse, hlast]
    have hclosed : closed cs = cs ++ ['\n'] := by simp [closed, hgetLast, hlast]
    refine ⟨.drop, fun rest => hmark ▸ blockHeader_marks cs rest .drop, fun state hread => ?_⟩
    rw [hclosed] at hread
    obtain ⟨-, -, htext⟩ := hread.eq_of_line hne (by simpa [hgetLast] using hlast)
    rw [BlockState.chomped, htext, List.reverse_reverse]

/-! ### The whole block -/

/-- A break at the end of the lines stands behind them as it is, since `literalBody` indents no
empty line. -/
theorem literalBody_newLine (indent : Nat) (atStart : Bool) (cs : List Char) :
    literalBody indent atStart (cs ++ ['\n']) = literalBody indent atStart cs ++ ['\n'] := by
  have hbreak : isBreak '\n' = true := by decide
  induction cs generalizing atStart with
  | nil => simp [literalBody, hbreak]
  | cons c cs ih =>
    rw [List.cons_append, literalBody, literalBody]
    split
    · rw [ih]
      rfl
    · rw [ih, List.append_assoc]
      rfl

/-- A block is its marks, a break, and the lines of the text with a break at the end (`closed`).
Both ways in which `styledChars` ends a block are of this form. -/
theorem styledChars_literal (indent : Nat) (cs : List Char) :
    styledChars indent cs .literal =
      '|' :: (indentationHint cs ++ chompingHint cs ++
        '\n' :: literalBody indent true (closed cs)) := by
  rw [styledChars, closed]
  split
  · simp
  · rw [literalBody_newLine]
    simp

/-- The lines of a block have at least as many characters as the text. `blockScalar` bounds the
lines that are left by the characters that are left. -/
theorem length_le_literalBody (indent : Nat) (atStart : Bool) (cs : List Char) :
    cs.length ≤ (literalBody indent atStart cs).length := by
  induction cs generalizing atStart with
  | nil => exact Nat.le_refl 0
  | cons c cs ih =>
    rw [literalBody]
    -- Every character is written, some behind an indentation.
    split
    · have := ih true
      simpa using this
    · have := ih false
      simp only [List.length_append, List.length_cons]
      omega

/-- What is left of a block bounds the lines that are left: `blockScalar` takes one more than the
characters for the bound of `blockLines`. -/
theorem length_le_bodyCursor (indent column : Nat) (next : List Char) (line : Nat)
    (cs : List Char) :
    cs.length ≤ (bodyCursor indent column next line cs).chars.length + 1 := by
  cases cs with
  | nil => exact Nat.zero_le _
  | cons c cs =>
    have hlength := length_le_literalBody indent false cs
    simp only [bodyCursor, List.length_append, List.length_cons]
    omega

/-- A closed text ends in a break, which is what `blockLines_bodyCursor` asks of its lines. -/
theorem getLast?_closed {cs : List Char} : ∀ c ∈ (closed cs).getLast?, isBreak c = true := by
  intro c hc
  by_cases hlast : cs.getLast?.any isBreak = true
  · rw [closed, if_pos hlast, List.append_nil] at hc
    rw [Option.mem_def] at hc
    simpa [hc] using hlast
  · rw [closed, if_neg hlast, List.getLast?_concat, Option.mem_some_iff] at hc
    rw [← hc]
    decide

/-- The first lines of a block are read, and the indentation is the one that was written: the marks
give it, or the first line shows it. Which of the two holds is decided by `indentationHint`. -/
theorem exists_blockBreaks_closed {n column : Nat} {cs next : List Char} (hne : cs ≠ [])
    (htab : cs.head? ≠ some '\t') (hcolumn : column ≤ n)
    (hnext : ∀ c ∈ next.head?, isBlank c = false ∧ isBreak c = false) (line given : Nat)
    (hgiven : given = if cs.head?.any isSpaceOrBreak then n + 2 else 0) :
    ∃ empty rest line' deepest, closed cs = empty ++ rest ∧ (∀ c ∈ empty, isBreak c = true) ∧
      (∀ c ∈ rest.head?, isBreak c = false) ∧ line ≤ line' ∧
      (if given = 0 then max deepest (max ((n : Int) + 1).toNat 1) else given) = n + 2 ∧
      blockBreaks given 0 [] line 0
          (literalBody (n + 2) true (closed cs) ++ (spaces column ++ next)) =
        .ok (deepest, empty.reverse, bodyCursor (n + 2) column next line' rest) := by
  have hless : column < n + 2 := by omega
  -- A first line that begins blank does not show the indentation, so the marks give it.
  by_cases hhead : cs.head?.any isSpaceOrBreak = true
  · rw [if_pos hhead] at hgiven
    subst hgiven
    obtain ⟨empty, rest, line', deepest, hcs, hempty, hrest, hline, hread⟩ :=
      blockBreaks_literalBody hless hnext (closed cs) 0 [] line
    rw [List.append_nil] at hread
    exact ⟨empty, rest, line', deepest, hcs, hempty, hrest, hline, by simp, hread⟩
  · rw [if_neg hhead] at hgiven
    subst hgiven
    obtain ⟨c, cs, rfl⟩ := List.exists_cons_of_ne_nil hne
    have hc : c ≠ ' ' ∧ isBreak c = false := by
      simpa [isSpaceOrBreak] using hhead
    have hc' : c ≠ '\t' := fun heq => htab (by rw [heq]; rfl)
    obtain ⟨rest, hclosed⟩ : ∃ rest, closed (c :: cs) = c :: rest := ⟨_, rfl⟩
    refine ⟨[], c :: rest, line, max 0 (n + 2), hclosed, by simp, by simpa using hc.2,
      Nat.le_refl line, by simp, ?_⟩
    rw [hclosed, literalBody, if_neg (by simp [hc.2]), if_pos rfl, List.append_assoc,
      blockBreaks_spaces_unknown, Nat.zero_add]
    exact blockBreaks_stop [] line (n + 2) (by simp [hc.1, hc']) (by simpa using hc.2)

/-- `blockScalar` reads a block as the text, up to a line that is not indented further than the
collection around. A tab at its beginning is excluded, since the reader would refuse it as an
indentation. -/
theorem blockScalar_literal {n column : Nat} {cs next : List Char} (hne : cs ≠ [])
    (htab : cs.head? ≠ some '\t') (hcolumn : column ≤ n)
    (hnext : ∀ c ∈ next.head?, isBlank c = false ∧ isBreak c = false) (line start : Nat) :
    ∃ line', line < line' ∧
      blockScalar false n ⟨indentationHint cs ++ chompingHint cs ++ '\n' ::
          (literalBody (n + 2) true (closed cs) ++ (spaces column ++ next)), line, start⟩ =
        .ok (cs, ⟨next, line', column⟩) := by
  obtain ⟨chomping, hheader, hchomped⟩ := exists_chomping hne
  obtain ⟨given, hgiven⟩ : ∃ given, given = if cs.head?.any isSpaceOrBreak then n + 2 else 0 :=
    ⟨_, rfl⟩
  obtain ⟨empty, rest, line', deepest, hclosed, hempty, hrest, hle, hindent, hbreaks⟩ :=
    exists_blockBreaks_closed hne htab hcolumn hnext (line + 1) given hgiven
  -- The empty lines in front are what the reader starts from.
  have hstart : IsRead empty { emptyLines := empty.reverse } :=
    ⟨by simp, by simpa using hempty, .inl ⟨rfl, rfl⟩⟩
  have hlast : ∀ c ∈ rest.getLast?, isBreak c = true :=
    isBreak_getLast?_of_append (hclosed ▸ getLast?_closed)
  have hbound := length_le_bodyCursor (n + 2) column next line' rest
  have hless : column < n + 2 := by omega
  obtain ⟨state, line'', hle', hread, hlines⟩ :=
    blockLines_bodyCursor hless hnext _ rest empty _ line' hrest hlast hbound hstart
  refine ⟨line'', by omega, ?_⟩
  rw [← hclosed] at hread
  have hblank : isBlank '\n' = false := by decide
  have hbreak : isBreak '\n' = true := by decide
  -- The marks count from the column of the collection around.
  have hgiven' : (if (if cs.head?.any isSpaceOrBreak then 2 else 0) = 0 then 0
      else (max (n : Int) 0).toNat + if cs.head?.any isSpaceOrBreak then 2 else 0) = given := by
    rw [hgiven]
    split <;> simp
  have htake : ('\n' :: (literalBody (n + 2) true (closed cs) ++ (spaces column ++ next))).takeWhile
      isBlank = [] := by simp [hblank]
  have hhash : ('\n' = '#') = False := by decide
  rw [blockScalar, hheader]
  simp only [bind, Except.bind, Cursor.advance, Cursor.skipWhile, List.drop_left, htake,
    List.length_nil, List.drop_zero, Nat.add_zero, List.head?_cons, Option.some.injEq, hhash,
    Cursor.atLineEnd, hbreak, Bool.not_true, Bool.false_eq_true, if_false, List.isEmpty_cons,
    Cursor.nextLine, List.drop_succ_cons, hgiven', hbreaks, hindent, hlines, hchomped state hread]
  rfl

end WrapperModel.Yaml
