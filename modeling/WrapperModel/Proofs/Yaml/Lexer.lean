import WrapperModel.Proofs.Yaml.Plain
import WrapperModel.Yaml.Printer
import WrapperModel.Yaml.Token.Lexer

/-!
# `WrapperModel.Proofs.Yaml.Lexer`: the lexer goes from line to line

`Leads` relates a state of the lexer to a later one from which it goes on alike. Between two
lexemes outside of brackets the lexer is in a state `outside`, which no possible key
burdens, or on its way to the next line, where it gets rid of a key that it put aside.

* `step_outside`: one step is the lexeme behind the blanks.
* `leads_nextLine`: on the way to the next line.
* `leads_close`: a mapping closes in front of a line that is not indented as far.
* `leads_key`, `leads_dash`: a key with its colon, a dash.
-/

set_option autoImplicit false

namespace WrapperModel.Yaml

namespace Lexer

/-! ### From state to state -/

/-- From the first state `Lexer.run` comes to the second one. The bounds on lines and lexemes only
have to be large enough, which is said by the characters that are left, so that no proof has to
count steps. -/
def Leads (lexer next : Lexer) : Prop :=
  ∀ lines bound, 2 ≤ lines → lexer.cursor.chars.length < bound →
    ∃ left, next.cursor.chars.length < left ∧ lexer.run lines bound = next.run lines left

/-- The lexer is where it is. It is the end of a chain of `Leads`, and what a list without lines
leads through. -/
theorem Leads.refl (lexer : Lexer) : Leads lexer lexer :=
  fun _ bound _ hbound => ⟨bound, hbound, rfl⟩

/-- One way after the other, by which all statements about whole documents are put together. What is
left of the bound on lexemes is enough for the second way. -/
theorem Leads.trans {a b c : Lexer} (h : Leads a b) (h' : Leads b c) : Leads a c := by
  intro lines bound hlines hbound
  obtain ⟨left, hleft, hrun⟩ := h lines bound hlines hbound
  obtain ⟨left', hleft', hrun'⟩ := h' lines left hlines hleft
  exact ⟨left', hleft', hrun.trans hrun'⟩

/-- One `step` leads to its outcome if it uses up a character (`hshort`). Then a bound that is above
the characters is still above them with one less. -/
theorem Leads.of_step {lexer next : Lexer}
    (hstep : ∀ lines, 2 ≤ lines → lexer.step lines = .ok (.inl next))
    (hshort : next.cursor.chars.length < lexer.cursor.chars.length) : Leads lexer next := by
  intro lines bound hlines hbound
  cases bound with
  | zero => omega
  | succ bound =>
    refine ⟨bound, by omega, ?_⟩
    rw [run, hstep lines hlines]
    rfl

/-- A state leads to another one from which the next `step` is the same. No step is taken here, so
`hshort` does not ask that anything be used up. -/
theorem Leads.of_step_eq {lexer next : Lexer}
    (hstep : ∀ lines, 2 ≤ lines → lexer.step lines = next.step lines)
    (hshort : next.cursor.chars.length ≤ lexer.cursor.chars.length) : Leads lexer next := by
  intro lines bound hlines hbound
  cases bound with
  | zero => omega
  | succ bound =>
    refine ⟨bound + 1, by omega, ?_⟩
    rw [run, run, hstep lines hlines]

/-! ### Blanks between lexemes -/

/-- What begins a line behind its indentation: a key (`isKeyChar`), a dash, or the end of the text.
Nothing else begins a line of a written document but the lines of a block, and these are read by
`blockScalar` alone. -/
def BeginsLine (cs : List Char) : Prop :=
  ∀ c ∈ cs.head?, isKeyChar c = true ∨ c = '-'

/-- What begins a line is none of the characters that are neither a dash nor part of a key. It
serves the hash of a comment and the byte order mark, for which `skipBlanks` looks. -/
theorem BeginsLine.ne {cs : List Char} (h : BeginsLine cs) {d : Char} (hkey : isKeyChar d = false)
    (hdash : d ≠ '-') : ∀ c ∈ cs.head?, c ≠ d := by
  rintro c hc rfl
  rcases h c hc with hc | hc
  · rw [hkey] at hc
    exact Bool.noConfusion hc
  · exact hdash hc

/-- What begins a line is no blank and no break, so the blanks in front end there. It is the
condition under which `skipBlanks_spaces` and the readers of scalars stop. -/
theorem BeginsLine.isBlank_isBreak {cs : List Char} (h : BeginsLine cs) :
    ∀ c ∈ cs.head?, isBlank c = false ∧ isBreak c = false := by
  intro c hc
  rcases h c hc with hc | rfl
  · have hword := isBlankOrBreak_of_isKeyChar hc
    simp only [isBlankOrBreak, Bool.or_eq_false_iff] at hword
    exact hword.1
  · decide

/-- `skipBlanks` passes spaces up to a character that is no blank, no break and no comment. A byte
order mark is passed only where no space stands in front of it, so `hmark` asks for none there. -/
theorem skipBlanks_spaces (keyAllowed : Bool) (line column lines n : Nat) {cs : List Char}
    (hblank : ∀ c ∈ cs.head?, isBlank c = false ∧ isBreak c = false)
    (hhash : cs.head? ≠ some '#') (hmark : n = 0 → cs.head? ≠ some byteOrderMark) :
    skipBlanks false keyAllowed ⟨spaces n ++ cs, line, column⟩ (lines + 1) =
      (keyAllowed, ⟨cs, line, column + n⟩) := by
  -- Whether or not tabs count, exactly the spaces are passed.
  have hskip : Cursor.skipWhile (fun c => c = ' ' || ((false || !keyAllowed) && c = '\t'))
      ⟨spaces n ++ cs, line, column⟩ = ⟨cs, line, column + n⟩ := by
    have htake : (spaces n ++ cs).takeWhile
        (fun c => c = ' ' || ((false || !keyAllowed) && c = '\t')) = spaces n := by
      rw [List.takeWhile_append_of_pos (by simp [spaces])]
      cases cs with
      | nil => simp
      | cons c cs =>
        have hc := (hblank c rfl).1
        simp only [isBlank, Bool.or_eq_false_iff, decide_eq_false_iff_not] at hc
        simp [hc.1, hc.2]
    have hlength : (spaces n).length = n := List.length_replicate
    rw [Cursor.skipWhile, htake, Cursor.advance, List.drop_left, hlength]
  -- With a space in front the text does not begin with a byte order mark.
  have hfirst : (spaces n ++ cs).head? ≠ some byteOrderMark := by
    cases n with
    | zero => exact hmark rfl
    | succ n =>
      intro heq
      exact absurd (Option.some.inj heq) (by decide)
  have hbreak : cs.head?.any isBreak = false := by
    cases cs with
    | nil => rfl
    | cons c cs => exact (hblank c rfl).2
  rw [skipBlanks]
  simp only [hfirst, decide_false, Bool.and_false, Bool.false_eq_true, if_false, hskip, hhash,
    hbreak]

/-- In front of a line behind its indentation `skipBlanks` passes nothing. It is `skipBlanks_spaces`
for no spaces. -/
theorem skipBlanks_line (keyAllowed : Bool) (line column lines : Nat) {cs : List Char}
    (h : BeginsLine cs) :
    skipBlanks false keyAllowed ⟨cs, line, column⟩ (lines + 1) =
      (keyAllowed, ⟨cs, line, column⟩) := by
  have hhash : cs.head? ≠ some '#' := fun heq => h.ne (by decide) (by decide) '#' heq rfl
  have hmark : cs.head? ≠ some byteOrderMark := fun heq =>
    h.ne (by decide) (by decide) byteOrderMark heq rfl
  exact skipBlanks_spaces keyAllowed line column lines 0 h.isBlank_isBreak hhash fun _ => hmark

/-- `skipBlanks` passes the break at the end of a line with the indentation of the next one, and a
key may follow. Two lines are looked at, so the bound is two more than any number. -/
theorem skipBlanks_newLine (keyAllowed : Bool) (line column lines n : Nat) {next : List Char}
    (h : BeginsLine next) :
    skipBlanks false keyAllowed ⟨'\n' :: (spaces n ++ next), line, column⟩ (lines + 2) =
      (true, ⟨next, line + 1, n⟩) := by
  have hhash : next.head? ≠ some '#' := fun heq => h.ne (by decide) (by decide) '#' heq rfl
  have hmark : next.head? ≠ some byteOrderMark := fun heq =>
    h.ne (by decide) (by decide) byteOrderMark heq rfl
  have hstep : skipBlanks false keyAllowed ⟨'\n' :: (spaces n ++ next), line, column⟩ (lines + 2) =
      skipBlanks false (keyAllowed || true) ⟨spaces n ++ next, line + 1, 0⟩ (lines + 1) := by
    have hfirst : (some '\n' = some byteOrderMark) = False := by decide
    have hnoHash : (some '\n' = some '#') = False := by decide
    have hbreak : isBreak '\n' = true := by decide
    have hskip : Cursor.skipWhile (fun c => c = ' ' || ((false || !keyAllowed) && c = '\t'))
        ⟨'\n' :: (spaces n ++ next), line, column⟩ =
          ⟨'\n' :: (spaces n ++ next), line, column⟩ := by
      simp [Cursor.skipWhile, Cursor.advance]
    rw [skipBlanks]
    simp only [List.head?_cons, hfirst, decide_false, Bool.and_false, Bool.false_eq_true, if_false,
      hskip, hnoHash, Option.any_some, hbreak, if_true, Bool.not_false]
    rfl
  -- Behind the break a key may follow, and only the indentation is left to pass.
  rw [hstep, Bool.or_true,
    skipBlanks_spaces true (line + 1) 0 lines n h.isBlank_isBreak hhash fun _ => hmark,
    Nat.zero_add]

/-! ### Between lexemes -/

/-- The lexer between two lexemes outside of brackets, with no key put aside. All that `Leads` says
is said of such states. -/
def outside (produced : List Token) (indent : Int) (indents : List Int) (keyAllowed : Bool)
    (cursor : Cursor) : Lexer :=
  { cursor, produced, count := produced.length, indent, indents, keyAllowed }

section Outside

variable {produced : List Token} {indent : Int} {indents : List Int}

/-- `unrollTo` closes no collection at a column that is indented as far. The lexer may be inside
brackets or not. -/
theorem unrollTo_of_le {lexer : Lexer} {column : Int} (h : lexer.indent ≤ column) :
    lexer.unrollTo column = lexer := by
  have hless : ¬column < lexer.indent := by omega
  -- No collection is closed, so nothing depends on which ones are open.
  have hunroll : ∀ indents, lexer.unroll column indents = lexer := by
    intro indents
    cases indents with
    | nil => rfl
    | cons outer indents => rw [unroll, if_neg hless]
  rw [unrollTo, hunroll]
  split <;> rfl

/-- What a step does behind the blanks: collections close (`unrollTo`), and a lexeme or the end of
the text follows. Two states from which this is alike have the same step. -/
def afterBlanks (lexer : Lexer) (cursor : Cursor) : Except ReadError (Lexer ⊕ List Token) :=
  match cursor.chars with
  | [] => do return .inr (← (lexer.unrollTo cursor.column).finish)
  | c :: rest => do return .inl (← (lexer.unrollTo cursor.column).lexeme c rest)

/-- A `step` passes blanks and gives up keys, and then does what is left to do (`afterBlanks`). What
the first two come to is assumed, so that each state can have its own reason for it. -/
theorem step_eq_afterBlanks {lexer lexer' : Lexer} {lines : Nat} {keyAllowed : Bool}
    {cursor : Cursor}
    (hskip : skipBlanks lexer.inFlow lexer.keyAllowed lexer.cursor lines = (keyAllowed, cursor))
    (hdrop : dropStaleKeys { lexer with keyAllowed, cursor } = .ok lexer') :
    lexer.step lines = afterBlanks lexer' cursor := by
  rw [step, hskip]
  simp only [hdrop, bind, Except.bind]
  rfl

/-- A step gives up a key that is on a line before, and goes on as from `outside`. The key must not
be required, since `dropStaleKeys` fails otherwise. -/
theorem step_putAside {key? : Option PossibleKey} {lines : Nat} {keyAllowed allowed : Bool}
    {cursor cursor' : Cursor}
    (hskip : skipBlanks false keyAllowed cursor lines = (allowed, cursor'))
    (hkey : ∀ key ∈ key?, key.required = false ∧ key.line < cursor'.line) :
    ({ outside produced indent indents keyAllowed cursor with keys := [key?] } : Lexer).step lines =
      afterBlanks (outside produced indent indents allowed cursor') cursor' := by
  have hdrop : dropStaleKeys
      { outside produced indent indents allowed cursor' with keys := [key?] } =
        .ok (outside produced indent indents allowed cursor') := by
    cases key? with
    | none => rfl
    | some key =>
      obtain ⟨hrequired, hline⟩ := hkey key rfl
      -- The key is on a line before, so it is stale, and it was not required.
      have hstale : PossibleKey.isStale key cursor' = true := by
        simp [PossibleKey.isStale, hline]
      simp only [dropStaleKeys, outside, List.mapM_cons, List.mapM_nil, hstale, hrequired, if_true]
      rfl
  exact step_eq_afterBlanks hskip hdrop

/-- One step from `outside` does what is left to do behind the blanks. It is `step_putAside` with no
key put aside. -/
theorem step_outside {lines : Nat} {keyAllowed allowed : Bool} {cursor cursor' : Cursor}
    (hskip : skipBlanks false keyAllowed cursor lines = (allowed, cursor')) :
    (outside produced indent indents keyAllowed cursor).step lines =
      afterBlanks (outside produced indent indents allowed cursor') cursor' := by
  have hnone : ∀ key ∈ (none : Option PossibleKey),
      key.required = false ∧ key.line < cursor'.line := by simp
  exact step_putAside hskip hnone

/-- Where no collection closes, a lexeme follows the blanks. What the lexeme is, `lexeme` has said
already. -/
theorem afterBlanks_lexeme {lexer next : Lexer} {line column : Nat} {c : Char} {rest : List Char}
    (hindent : lexer.indent ≤ column) (hlexeme : lexer.lexeme c rest = .ok next) :
    afterBlanks lexer ⟨c :: rest, line, column⟩ = .ok (.inl next) := by
  simp only [afterBlanks, unrollTo_of_le hindent, hlexeme, bind, Except.bind]
  rfl

/-- In front of a line behind its indentation, one step passes nothing and drops no key. It does
what `afterBlanks` says at the very cursor. -/
theorem step_line {line column lines : Nat} {next : List Char} (hnext : BeginsLine next)
    (hlines : 2 ≤ lines) :
    (outside produced indent indents true ⟨next, line, column⟩).step lines =
      afterBlanks (outside produced indent indents true ⟨next, line, column⟩)
        ⟨next, line, column⟩ := by
  obtain ⟨lines, rfl⟩ : ∃ n, lines = n + 1 := ⟨lines - 1, by omega⟩
  exact step_outside (skipBlanks_line true line column lines hnext)

/-! ### From line to line -/

/-- On the way to the next line the lexer gets rid of a key that it put aside. It takes no step for
it: the next step drops the key before anything else, so `Leads.of_step_eq` applies. -/
theorem leads_nextLine {key? : Option PossibleKey} {keyAllowed : Bool} {cursor : Cursor}
    {line column : Nat} {next : List Char} (hnext : BeginsLine next)
    (hkey : ∀ key ∈ key?, key.required = false ∧ key.line < line)
    (hskip : ∀ lines, 2 ≤ lines →
      skipBlanks false keyAllowed cursor lines = (true, ⟨next, line, column⟩))
    (hshort : next.length ≤ cursor.chars.length) :
    Leads { outside produced indent indents keyAllowed cursor with keys := [key?] }
      (outside produced indent indents true ⟨next, line, column⟩) := by
  refine .of_step_eq (fun lines hlines => ?_) hshort
  rw [step_line hnext hlines]
  exact step_putAside (hskip lines hlines) hkey

/-- A collection closes in front of a line that is not indented as far. Again no step is taken,
since a step closes as many collections as end (`unrollTo`). -/
theorem leads_close {outer : Int} {line column : Nat} {next : List Char}
    (hnext : BeginsLine next) (hless : (column : Int) < indent) :
    Leads (outside produced indent (outer :: indents) true ⟨next, line, column⟩)
      (outside (.blockEnd :: produced) outer indents true ⟨next, line, column⟩) := by
  refine .of_step_eq (fun lines hlines => ?_) (Nat.le_refl _)
  -- Both states close the same collections, the first one more.
  have hunroll : (outside produced indent (outer :: indents) true ⟨next, line, column⟩).unrollTo
      column = (outside (.blockEnd :: produced) outer indents true ⟨next, line, column⟩).unrollTo
        column := by
    show (if (column : Int) < indent then _ else _) = _
    rw [if_pos hless]
    rfl
  rw [step_line hnext hlines, step_line hnext hlines]
  simp only [afterBlanks, hunroll]

/-! ### Keys and dashes -/

/-- A `lexeme` that begins with none of the marks (`isIndicator`) is a plain scalar. The dash, the
question mark and the colon are no indicators, and begin one if no blank stands behind them. -/
theorem lexeme_eq_plain {lexer : Lexer} {c : Char} {rest : List Char}
    (hflow : lexer.inFlow = false)
    (hmarker : atDocumentMarker lexer.cursor.column (c :: rest) = false)
    (hindicator : isIndicator c = false) (hblank : isBlankOrBreak c = false)
    (hmark : c = '-' ∨ c = '?' ∨ c = ':' → beginsBlank rest = false) :
    lexer.lexeme c rest = lexer.plain := by
  simp only [atDocumentMarker, Bool.or_eq_false_iff] at hmarker
  obtain ⟨hdashes, hdots⟩ := hmarker
  simp only [isIndicator, List.contains_eq_mem, List.mem_cons, List.not_mem_nil, or_false,
    decide_eq_false_iff_not, not_or] at hindicator
  obtain ⟨h1, h2, h3, h4, h5, h6, h7, h8, h9, h10, h11, h12, h13, h14, h15, h16⟩ := hindicator
  -- The marks that need a blank behind them may begin a plain scalar without one.
  have hstart : ((!isReserved c && !isBlankOrBreak c) || c = '-' ||
      (!false && (c = '?' || c = ':'))) = true := by
    by_cases hsign : c = '-' ∨ c = '?' ∨ c = ':'
    · rcases hsign with rfl | rfl | rfl <;> simp
    · simp only [not_or] at hsign
      simp [isReserved, *]
  have hnoMark : ∀ d, d = '-' ∨ d = '?' ∨ d = ':' →
      (decide (c = d) && beginsBlank rest) = false := by
    intro d hd
    by_cases heq : c = d
    · simp [hmark (heq ▸ hd)]
    · simp [heq]
  unfold lexeme
  simp only [hdashes, hdots, hflow, h2, h3, h4, h5, h6, h7, h8, h9, h10, h11, h12, h13, h14,
    hnoMark '-' (.inl rfl), Bool.false_or, hnoMark '?' (.inr (.inl rfl)),
    hnoMark ':' (.inr (.inr rfl)), hstart, decide_false, Bool.and_false, Bool.false_and,
    Bool.false_eq_true, if_false, if_true]

/-- A character of a key takes one byte, so the length of a key is the number of its bytes. The
limit on a key is one in bytes (`charsWithin`). -/
theorem utf8Size_of_isKeyChar {c : Char} (hc : isKeyChar c = true) : c.utf8Size = 1 := by
  have hle : c.val ≤ 0x7F := by
    simp only [isKeyChar, Bool.or_eq_true, Bool.and_eq_true, decide_eq_true_eq] at hc
    rcases hc with ⟨-, hz⟩ | rfl
    · exact UInt32.le_trans hz (by decide)
    · decide
  simp [Char.utf8Size, hle]

/-- A key is within the bytes that a key may take, and so its colon is not too far away:
`lastColumn` is worked out by `charsWithin`. -/
theorem length_le_charsWithin {key : List Char} (rest : List Char)
    (hkey : ∀ c ∈ key, isKeyChar c = true) (bytes : Nat) (hbytes : key.length ≤ bytes) :
    key.length ≤ charsWithin bytes (key ++ rest) := by
  induction key generalizing bytes with
  | nil => exact Nat.zero_le _
  | cons c key ih =>
    -- The characters of a key have one byte each.
    have hsize := utf8Size_of_isKeyChar (hkey c List.mem_cons_self)
    rw [List.length_cons] at hbytes
    have hrest := ih (fun d hd => hkey d (List.mem_cons_of_mem _ hd)) (bytes - 1) (by omega)
    rw [List.cons_append, charsWithin, hsize, if_pos (by omega), List.length_cons]
    omega

/-- A character of a key is no mark (`isIndicator`), so a key is scanned as a plain scalar. -/
theorem isIndicator_of_isKeyChar {c : Char} (hc : isKeyChar c = true) : isIndicator c = false := by
  have hmarks : ['#', ',', '[', ']', '\x7b', '\x7d', '&', '*', '!', '|', '>', '\'', '"', '%', '@',
      '\x60'].all (fun d => !isKeyChar d) = true := by decide
  refine Bool.eq_false_iff.2 fun hmark => ?_
  rw [isIndicator, List.contains_iff_mem] at hmark
  have hnoKey := List.all_eq_true.1 hmarks c hmark
  rw [hc] at hnoKey
  exact Bool.noConfusion hnoKey

/-- A plain scalar is read once what could be a key is put aside (`saveKey`). Both outcomes are
assumed, and the rest of `plain` cannot fail. -/
theorem plain_eq {lexer lexer' : Lexer} {text : List Char} {overBreak : Bool} {cursor : Cursor}
    (hsave : lexer.saveKey = .ok lexer')
    (hread : plainScalar lexer'.inFlow (lexer'.indent + 1) lexer'.cursor =
      .ok (text, overBreak, cursor)) :
    lexer.plain =
      .ok { lexer'.emit (.scalar true text) with cursor, keyAllowed := overBreak } := by
  simp only [plain, hsave, hread, bind, Except.bind]
  rfl

/-- A key is a plain lexeme, which is put aside until its colon comes. The key is required if the
mapping is open in its column, so its `required` is decided by `indent = column`. -/
theorem lexeme_key {key : List Char} (more : List Char) (line column : Nat) {c : Char}
    {rest : List Char} (hkey : IsKey key) (hmore : beginsBlank more = true)
    (hchars : key ++ ':' :: more = c :: rest) :
    (outside produced indent indents true ⟨c :: rest, line, column⟩).lexeme c rest =
      .ok { outside (.scalar true key :: produced) indent indents false
          ⟨':' :: more, line, column + key.length⟩ with
        keys := [some (PossibleKey.atCursor ⟨c :: rest, line, column⟩ produced.length
          (decide (indent = column)))] } := by
  have hc : isKeyChar c = true := by
    obtain ⟨d, key, rfl⟩ := List.exists_cons_of_ne_nil hkey.ne_nil
    rw [List.cons_append, List.cons.injEq] at hchars
    rw [← hchars.1]
    exact hkey.chars d List.mem_cons_self
  have hne := fun d hd => ne_of_isKeyChar (d := d) hc hd
  have hscalar := plainScalar_key (indent + 1) more line column hkey hmore
  rw [hchars] at hscalar
  -- The key is put aside where it begins, and is required where the mapping is open.
  have hsave : (outside produced indent indents true ⟨c :: rest, line, column⟩).saveKey =
      .ok { outside produced indent indents true ⟨c :: rest, line, column⟩ with
        keys := [some (PossibleKey.atCursor ⟨c :: rest, line, column⟩ produced.length
          (decide (indent = column)))] } := rfl
  -- none of the marks comes first, so the lexeme is a plain scalar
  rw [lexeme_eq_plain rfl (atDocumentMarker_cons (hne '-' (by decide)) (hne '.' (by decide)) _ _)
    (isIndicator_of_isKeyChar hc) (isBlankOrBreak_of_isKeyChar hc)]
  · exact plain_eq hsave hscalar
  · rintro (rfl | rfl | rfl) <;> exact absurd hc (by decide)

/-- A colon in front of a blank is a lexeme of its own, whether or not the lexer is inside
brackets. -/
theorem lexeme_eq_valueMark {lexer : Lexer} {more : List Char} (hmore : beginsBlank more = true) :
    lexer.lexeme ':' more = lexer.valueMark := by
  have hmarker := atDocumentMarker_cons (c := ':') (by decide) (by decide) lexer.cursor.column more
  simp only [atDocumentMarker, Bool.or_eq_false_iff] at hmarker
  simp [lexeme, hmarker.1, hmarker.2, hmore]

/-- The colon behind a key marks the key (`markKey`), in a mapping of its own if it is indented
deeper than what is open. The mark goes in front of the lexeme of the key, which is the last one. -/
theorem lexeme_colon {scalar : Token} {more : List Char} {line column : Nat}
    {possible : PossibleKey} (hmore : beginsBlank more = true)
    (hplace : possible.place = produced.length) (hindent : indent ≤ possible.column) :
    ({ outside (scalar :: produced) indent indents false ⟨':' :: more, line, column⟩ with
        keys := [some possible] } : Lexer).lexeme ':' more =
      .ok (outside (.value :: scalar :: .key ::
          if indent < possible.column then .blockMappingStart :: produced else produced)
        possible.column (if indent < possible.column then indent :: indents else indents) false
        ⟨more, line, column + 1⟩) := by
  have hcount : produced.length + 1 - produced.length = 1 := by omega
  have hcount' : produced.length + 1 + 1 - produced.length = 2 := by omega
  rw [lexeme_eq_valueMark hmore]
  -- A key that is indented deeper than what is open begins a mapping of its own.
  by_cases hless : indent < possible.column
  · simp [valueMark, outside, markKey, emitAt, rollTo, mark, emit, hplace, hless, hcount, hcount',
      Cursor.advance, inFlow, flowLevel]
  · have heq : indent = possible.column := by omega
    simp [valueMark, outside, markKey, emitAt, rollTo, mark, emit, hplace, hcount,
      Cursor.advance, inFlow, flowLevel, heq]

/-- `skipBlanks` passes nothing in front of a colon. No key may begin there, but that does not
matter for what is passed. -/
theorem skipBlanks_colon (lines : Nat) (more : List Char) (line column : Nat)
    (hlines : 2 ≤ lines) :
    skipBlanks false false ⟨':' :: more, line, column⟩ lines =
      (false, ⟨':' :: more, line, column⟩) := by
  obtain ⟨lines, rfl⟩ : ∃ n, lines = n + 1 := ⟨lines - 1, by omega⟩
  have hmark : ':' ≠ byteOrderMark := by decide
  refine skipBlanks_spaces false line column lines 0 (fun c hc => ?_) (by simp)
    (by simpa using hmark)
  rw [List.head?_cons, Option.mem_some_iff] at hc
  rw [← hc]
  decide

/-- A step keeps a key that is not too far away (`isStale`). Between a key and its colon this is the
case, by `length_le_charsWithin`. -/
theorem step_kept {key : PossibleKey} {lines : Nat} {keyAllowed allowed : Bool}
    {cursor cursor' : Cursor}
    (hskip : skipBlanks false keyAllowed cursor lines = (allowed, cursor'))
    (hline : key.line = cursor'.line) (hcolumn : cursor'.column ≤ key.lastColumn) :
    ({ outside produced indent indents keyAllowed cursor with keys := [some key] } : Lexer).step
        lines =
      afterBlanks { outside produced indent indents allowed cursor' with keys := [some key] }
        cursor' := by
  -- The colon is on the line of the key and close enough to it.
  have hstale : PossibleKey.isStale key cursor' = false := by
    simp [PossibleKey.isStale, hline, hcolumn]
  have hdrop : dropStaleKeys
      { outside produced indent indents allowed cursor' with keys := [some key] } =
        .ok { outside produced indent indents allowed cursor' with keys := [some key] } := by
    simp only [dropStaleKeys, outside, List.mapM_cons, List.mapM_nil, hstale, Bool.false_eq_true,
      if_false]
    rfl
  exact step_eq_afterBlanks hskip hdrop

/-- A key with its colon leads behind the colon, in the mapping that is open or in a new one. It
takes two steps, one for the key and one for the colon. -/
theorem leads_key {key more : List Char} {line column : Nat} (hkey : IsKey key)
    (hmore : beginsBlank more = true) (hindent : indent ≤ column) :
    Leads (outside produced indent indents true ⟨key ++ ':' :: more, line, column⟩)
      (outside (.value :: .scalar true key :: .key ::
          if indent < column then .blockMappingStart :: produced else produced)
        column (if indent < column then indent :: indents else indents) false
        ⟨more, line, column + key.length + 1⟩) := by
  obtain ⟨c, rest, hchars⟩ : ∃ c rest, key ++ ':' :: more = c :: rest := by
    obtain ⟨c, key, rfl⟩ := List.exists_cons_of_ne_nil hkey.ne_nil
    exact ⟨c, key ++ ':' :: more, rfl⟩
  have hbegins : BeginsLine (key ++ ':' :: more) := by
    obtain ⟨d, key, rfl⟩ := List.exists_cons_of_ne_nil hkey.ne_nil
    intro e he
    rw [List.cons_append, List.head?_cons, Option.mem_some_iff] at he
    exact .inl (he ▸ hkey.chars d List.mem_cons_self)
  -- Between the key and its colon the key must not have become stale.
  have hwithin := length_le_charsWithin (':' :: more) hkey.chars 1024 hkey.short
  rw [hchars] at hwithin hbegins ⊢
  have hfirst : Leads (outside produced indent indents true ⟨c :: rest, line, column⟩)
      { outside (.scalar true key :: produced) indent indents false
          ⟨':' :: more, line, column + key.length⟩ with
        keys := [some (PossibleKey.atCursor ⟨c :: rest, line, column⟩ produced.length
          (decide (indent = column)))] } := by
    refine .of_step (fun lines hlines => ?_) ?_
    · rw [step_line hbegins hlines]
      exact afterBlanks_lexeme hindent (lexeme_key more line column hkey hmore hchars)
    · have hlength := congrArg List.length hchars
      have hpositive := List.length_pos_iff.2 hkey.ne_nil
      simp only [List.length_append, List.length_cons] at hlength
      simp only [outside, List.length_cons]
      omega
  -- The second step is the colon, which finds the key put aside.
  refine hfirst.trans (.of_step (fun lines hlines => ?_) (by simp [outside]))
  rw [step_kept (skipBlanks_colon lines more line (column + key.length) hlines) rfl
    (by simpa [PossibleKey.atCursor] using hwithin)]
  refine afterBlanks_lexeme (Int.le_trans hindent (by omega)) ?_
  exact lexeme_colon hmore rfl hindent

/-- A dash below the key of a sequence leads behind the dash, where a key may follow. No collection
opens (`rollTo`), because the dash stands in the column of the key. -/
theorem leads_dash {column : Nat} (line : Nat) (rest : List Char) :
    Leads (outside produced column indents true ⟨'-' :: ' ' :: rest, line, column⟩)
      (outside (.blockEntry :: produced) column indents true ⟨' ' :: rest, line, column + 1⟩) := by
  have hbegins : BeginsLine ('-' :: ' ' :: rest) := by
    intro c hc
    rw [List.head?_cons, Option.mem_some_iff] at hc
    exact .inr hc.symm
  refine .of_step (fun lines hlines => ?_) (by simp [outside])
  rw [step_line hbegins hlines]
  refine afterBlanks_lexeme (Int.le_refl _) ?_
  -- A dash with a space behind it is no mark of a document.
  have hdashes : atMarker '-' column ('-' :: ' ' :: rest) = false := by
    cases rest <;> simp [atMarker]
  have hdots : atMarker '.' column ('-' :: ' ' :: rest) = false := by
    cases rest <;> simp [atMarker]
  have hblank : beginsBlank (' ' :: rest) = true := rfl
  have hentry : (outside produced column indents true ⟨'-' :: ' ' :: rest, line, column⟩).lexeme '-'
      (' ' :: rest) = blockEntry
        (outside produced column indents true ⟨'-' :: ' ' :: rest, line, column⟩) := by
    simp [lexeme, outside, hdashes, hdots, hblank]
  -- The dash stands at the column of the key, so no collection opens.
  have hroll : (outside produced column indents true ⟨'-' :: ' ' :: rest, line, column⟩).rollTo
      column produced.length .blockSequenceStart =
        outside produced column indents true ⟨'-' :: ' ' :: rest, line, column⟩ := by
    simp [rollTo, outside]
  rw [hentry]
  show (do
    let lexer ← dropKey ((outside produced column indents true
      ⟨'-' :: ' ' :: rest, line, column⟩).rollTo column produced.length .blockSequenceStart)
    return { lexer.mark 1 .blockEntry with keyAllowed := true } : Except ReadError Lexer) = _
  rw [hroll]
  rfl

/-! ### The whole text -/

/-- At the end of the text the outermost mapping closes, and the lexemes come in their order. The
mapping is in the first column, since nothing else is open when a record ends. -/
theorem run_outside_end (line lines bound : Nat) (hlines : 2 ≤ lines) (hbound : 0 < bound) :
    (outside produced 0 [-1] true ⟨[], line, 0⟩).run lines bound =
      .ok (produced.reverse ++ [.blockEnd]) := by
  obtain ⟨bound, rfl⟩ : ∃ n, bound = n + 1 := ⟨bound - 1, by omega⟩
  have hbegins : BeginsLine [] := by simp [BeginsLine]
  have hfinish : afterBlanks (outside produced 0 [-1] true ⟨[], line, 0⟩) ⟨[], line, 0⟩ =
      .ok (.inr (.blockEnd :: produced).reverse) := rfl
  rw [run, step_line hbegins hlines, hfinish, List.reverse_cons]
  rfl

end Outside

end Lexer

end WrapperModel.Yaml
