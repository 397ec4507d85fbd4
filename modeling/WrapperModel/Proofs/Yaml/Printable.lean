import WrapperModel.Proofs.Yaml.Document

/-!
# `WrapperModel.Proofs.Yaml.Printable`: the characters of written documents

Whatever a text holds, its written form has no other characters than printable ones: the
three forms without escapes are only chosen for printable texts, and an escape is written in
printable characters. A word is written as it is, and may hold a tab or a byte order mark. So the
reader accepts every character, and unifying the breaks changes nothing.

* `allPrintable_scalarChars`: a written text.
* `isKept_of_mem_valueChars`: a written node of a record.
* `tokens_document`: a written record consists of the lexemes of its mapping.
-/

set_option autoImplicit false

namespace WrapperModel.Yaml

/-! ### Lists of characters -/

@[simp] theorem allPrintable_nil : allPrintable [] = true := rfl

@[simp] theorem allPrintable_cons (c : Char) (cs : List Char) :
    allPrintable (c :: cs) = (isPrintable c && allPrintable cs) := rfl

@[simp] theorem allPrintable_append (cs ds : List Char) :
    allPrintable (cs ++ ds) = (allPrintable cs && allPrintable ds) :=
  List.all_append

@[simp] theorem allPrintable_spaces (n : Nat) : allPrintable (spaces n) = true := by
  have hspace : isPrintable ' ' = true := by decide
  simp [allPrintable, spaces, hspace]

/-- Printable pieces make up a printable text. It serves the characters between double quotes and
the items of a sequence. -/
theorem allPrintable_flatMap {α : Type} {f : α → List Char} {xs : List α}
    (h : ∀ x ∈ xs, allPrintable (f x) = true) : allPrintable (xs.flatMap f) = true := by
  rw [allPrintable, List.all_flatMap, List.all_eq_true]
  exact h

/-- `unifyBreaks` changes nothing where all characters are kept. The carriage return has to be
excluded for both of its cases, alone and in front of a line feed. -/
theorem unifyBreaks_of_isKept {cs : List Char} (h : ∀ c ∈ cs, isKept c = true) :
    unifyBreaks cs = cs := by
  -- The accumulator has to be general for the induction.
  have hfrom : ∀ done, unifyBreaksFrom done cs = done.reverse ++ cs := by
    induction cs with
    | nil => simp [unifyBreaksFrom]
    | cons c cs ih =>
      intro done
      obtain ⟨hc, hrest⟩ := List.forall_mem_cons.1 h
      simp only [isKept, Bool.and_eq_true, bne_iff_ne, ne_eq] at hc
      obtain ⟨⟨-, hreturn⟩, hnext⟩ := hc
      -- Only the two breaks that are rewritten change anything, and neither is there.
      have hkept : (decide (c = '\r') || decide (c = nextLine)) = false := by
        simp [hreturn, hnext]
      rw [unifyBreaksFrom, if_neg (by simp [hkept]), ih hrest, List.reverse_cons,
        List.append_assoc]
      · rfl
      · rintro rest rfl
        exact absurd rfl hreturn
  exact hfrom []

/-- The characters of a printable text are kept, each by `isKept_of_isPrintable`. -/
theorem isKept_of_allPrintable {cs : List Char} (h : allPrintable cs = true) :
    ∀ c ∈ cs, isKept c = true :=
  fun c hc => isKept_of_isPrintable (List.all_eq_true.1 h c hc)

/-! ### Texts -/

/-- A printable text is printable between single quotes. `singleQuotedBody` adds only quotes, spaces
and line feeds to it. -/
theorem allPrintable_singleQuotedBody (n : Nat) {cs : List Char} (h : allPrintable cs = true)
    (afterBreak : Bool) : allPrintable (singleQuotedBody n afterBreak cs) = true := by
  have hquote : isPrintable '\'' = true := by decide
  have hline : isPrintable '\n' = true := by decide
  induction cs generalizing afterBreak with
  | nil =>
    rw [singleQuotedBody]
    -- The writer adds quotes, spaces and line feeds, which are printable.
    split <;> simp [hquote]
  | cons c cs ih =>
    rw [allPrintable_cons, Bool.and_eq_true] at h
    rw [singleQuotedBody]
    split
    · split <;> simp [h.1, hline, ih h.2]
    · split
      · simp [h.1, ih h.2]
      · split <;> split <;> simp [h.1, hquote, ih h.2]

/-- A printable text is printable as a block, where `literalBody` adds only spaces to it. -/
theorem allPrintable_literalBody (n : Nat) {cs : List Char} (h : allPrintable cs = true)
    (atStart : Bool) : allPrintable (literalBody n atStart cs) = true := by
  induction cs generalizing atStart with
  | nil => rfl
  | cons c cs ih =>
    rw [allPrintable_cons, Bool.and_eq_true] at h
    rw [literalBody]
    split
    · simp [h.1, ih h.2]
    · split <;> simp [h.1, ih h.2]

/-- Hexadecimal digits are printable, however many there are. So are the escapes of `escapeChar`
that consist of them. -/
theorem allPrintable_hexDigits (count n : Nat) : allPrintable (hexDigits count n) = true := by
  have hdigit : ∀ m < 16, isPrintable (hexDigit m) = true := by decide
  induction count with
  | zero => rfl
  | succ count ih => simp [hexDigits, ih, hdigit _ (Nat.mod_lt _ (by decide : 16 > 0))]

/-- Every letter behind a backslash is printable, though the character for which it stands need not
be. All rows of `escapeLetter?` are looked at. -/
theorem isPrintable_of_escapeLetter? {c letter : Char} (h : escapeLetter? c = some letter) :
    isPrintable letter = true :=
  (List.all_eq_true (p := fun pair => isPrintable pair.2)).1 (by decide) (c, letter)
    (mem_of_lookup_eq_some h)

/-- Every character is printable as `escapeChar` writes it between double quotes, printable or not
by itself. -/
theorem allPrintable_escapeChar (c : Char) : allPrintable (escapeChar c) = true := by
  have hbackslash : isPrintable '\\' = true := by decide
  have hmarks : isPrintable 'x' = true ∧ isPrintable 'u' = true ∧ isPrintable 'U' = true := by
    decide
  unfold escapeChar
  -- Either the character stands for itself, or it has a letter, or its number is written.
  split
  · rename_i hplain
    simp only [Bool.and_eq_true] at hplain
    simp [hplain.1.1.1]
  · split
    · rename_i letter hletter
      simp [hbackslash, isPrintable_of_escapeLetter? hletter]
    · split
      · simp [hbackslash, hmarks, allPrintable_hexDigits]
      · split <;> simp [hbackslash, hmarks, allPrintable_hexDigits]

/-- Every text is printable in the form in which it is written. The three forms without escapes need
a printable text, which `styleOf` has made sure of. -/
theorem allPrintable_scalarChars (n : Nat) (cs : List Char) :
    allPrintable (scalarChars n cs) = true := by
  have hline : isPrintable '\n' = true := by decide
  unfold scalarChars
  -- Every form but the double quotes is chosen for printable texts only.
  cases hstyle : styleOf cs with
  | plain =>
    have hplain := (plainAllowed_of_styleOf hstyle).1
    simp only [plainAllowed, Bool.and_eq_true] at hplain
    simp [styledChars, hplain.1.1.1.1, hline]
  | singleQuoted =>
    have hallowed := (singleQuotedAllowed_of_styleOf hstyle).1
    simp only [singleQuotedAllowed, Bool.and_eq_true] at hallowed
    have hquote : isPrintable '\'' = true := by decide
    simp [styledChars, hquote, hline, allPrintable_singleQuotedBody n hallowed.1.1]
  | doubleQuoted =>
    have hquote : isPrintable '"' = true := by decide
    simp [styledChars, hquote, hline, allPrintable_flatMap fun c _ => allPrintable_escapeChar c]
  | literal =>
    have hallowed := blockAllowed_of_styleOf hstyle
    simp only [blockAllowed, Bool.and_eq_true] at hallowed
    have hbar : isPrintable '|' = true := by decide
    have hhint : allPrintable (indentationHint cs) = true := by
      unfold indentationHint
      split <;> rfl
    have hchomping : allPrintable (chompingHint cs) = true := by
      unfold chompingHint
      split
      · rfl
      · split
        · rfl
        · split
          · rfl
          · split <;> rfl
    rw [styledChars]
    simp only [allPrintable_append, allPrintable_cons, hbar, hhint, hchomping, hline,
      allPrintable_literalBody n hallowed.1.1, Bool.true_and, allPrintable_nil]
    split <;> simp [hline]

/-! ### Nodes -/

/-- A key is printable, since it has only small letters and underscores (`isKeyChar`). -/
theorem allPrintable_key {key : List Char} (hkey : IsKey key) : allPrintable key = true := by
  refine List.all_eq_true.2 fun c hc => ?_
  have hchar := hkey.chars c hc
  simp only [isKeyChar, Bool.or_eq_true, Bool.and_eq_true, decide_eq_true_eq] at hchar
  -- A character of a key is a small letter or an underscore.
  rcases hchar with ⟨hlow, hhigh⟩ | rfl
  · have hlow' : 0x61 ≤ c.toNat := hlow
    have hhigh' : c.toNat ≤ 0x7A := hhigh
    have hrange : 0x20 ≤ c.toNat ∧ c.toNat ≤ 0x7E := by omega
    simp [isPrintable, hrange]
  · decide

/-- The characters of a plain text on one line are kept (`isKept`). They need not be printable: a
word may hold a tab. -/
theorem IsPlain.isKept {cs : List Char} (h : IsPlain cs) : ∀ c ∈ cs, isKept c = true :=
  fun c hc => isKept_of_isAccepted (h.accepted c hc) (h.unbroken c hc)

/-- Members are kept if their values are, in whatever column they stand. It is the case of mappings
in `isKept_of_mem_valueChars`, and of the document itself. -/
theorem isKept_of_mem_parts {parts : List Part} (hkeys : ∀ part ∈ parts, IsKey part.key.toList)
    (hvalues : ∀ part ∈ parts, ∀ n, ∀ c ∈ valueChars n part.node, isKept c = true) (n : Nat) :
    ∀ c ∈ membersChars n (parts.map Part.member), isKept c = true := by
  have hcolon : isKept ':' = true := by decide
  intro c hc
  rw [Lexer.membersChars_parts, List.mem_flatMap] at hc
  obtain ⟨part, hpart, hc⟩ := hc
  simp only [Part.member, memberChars, List.mem_append, List.mem_cons] at hc
  -- A line is its indentation, the key, a colon and the value.
  rcases hc with hspace | hkey | rfl | hvalue
  · exact isKept_of_allPrintable (allPrintable_spaces n) c hspace
  · exact isKept_of_allPrintable (allPrintable_key (hkeys part hpart)) c hkey
  · exact hcolon
  · exact hvalues part hpart n c hvalue

/-- Every character of a written node is kept (`isKept`). The induction is on `Reads`, since only
for such a node the words and the keys are known to be well formed. -/
theorem isKept_of_mem_valueChars {node : Node} {lexemes : List Token} {tree : Tree}
    (h : Reads node lexemes tree) : ∀ n, ∀ c ∈ valueChars n node, isKept c = true := by
  have hspace : isPrintable ' ' = true := by decide
  have hline : isPrintable '\n' = true := by decide
  induction h with
  | @word written h =>
    intro n c hc
    simp only [valueChars, List.cons_append, List.mem_cons, List.mem_append, List.not_mem_nil,
      or_false] at hc
    rcases hc with rfl | hc | rfl
    · exact isKept_of_isPrintable hspace
    · exact h.isKept c hc
    · exact isKept_of_isPrintable hline
  | text s =>
    intro n
    apply isKept_of_allPrintable
    simp [valueChars, hspace, allPrintable_scalarChars]
  | noTexts =>
    intro n
    exact isKept_of_allPrintable rfl
  | @texts items hne =>
    intro n
    apply isKept_of_allPrintable
    have hdash : isPrintable '-' = true := by decide
    have hitems : allPrintable (itemsChars n (items.map .text)) = true := by
      rw [Lexer.itemsChars_texts]
      refine allPrintable_flatMap fun s _ => ?_
      simp [itemChars, hdash, hspace, allPrintable_scalarChars]
    obtain ⟨item, items, rfl⟩ := List.exists_cons_of_ne_nil hne
    rw [List.map_cons] at hitems ⊢
    rw [valueChars, allPrintable_cons, hline, hitems, Bool.and_self]
  -- The lines of a mapping are those of its members, two columns further in.
  | @mapping parts hne hkeys _ ih =>
    intro n
    have hmembers := isKept_of_mem_parts hkeys ih (n + 2)
    obtain ⟨part, parts, rfl⟩ := List.exists_cons_of_ne_nil hne
    rw [List.map_cons, membersChars] at hmembers
    rw [List.map_cons, valueChars, List.cons_append, List.cons_append]
    exact List.forall_mem_cons.2 ⟨isKept_of_isPrintable hline, hmembers⟩

/-! ### Documents -/

/-- A written record consists of the lexemes of its mapping. Its characters are kept, so the whole
text comes to the lexer as it is; `Leads` takes it from the first key to the end. -/
theorem tokens_document {parts : List Part} (hne : parts ≠ [])
    (hkeys : ∀ part ∈ parts, IsKey part.key.toList)
    (h : ∀ part ∈ parts, Reads part.node part.tokens part.tree) :
    tokens (document (parts.map Part.member)).toList =
      .ok (.blockMappingStart :: (parts.flatMap Part.lexemes ++ [.blockEnd])) := by
  have hkept : ∀ c ∈ membersChars 0 (parts.map Part.member), isKept c = true :=
    isKept_of_mem_parts hkeys (fun part hpart => isKept_of_mem_valueChars (h part hpart)) 0
  have haccepted : (membersChars 0 (parts.map Part.member)).all isAccepted = true := by
    refine List.all_eq_true.2 fun c hc => ?_
    have hchar := hkept c hc
    simp only [isKept, Bool.and_eq_true] at hchar
    exact hchar.1.1
  have hvalues : ∀ part ∈ parts, Lexer.IsValue part.node part.tokens :=
    fun part hpart => Lexer.isValue_of_reads (h part hpart)
  rw [document, String.toList_ofList, tokens, unifyBreaks_of_isKept hkept]
  simp only [haccepted, if_true]
  obtain ⟨part, parts, rfl⟩ := List.exists_cons_of_ne_nil hne
  obtain ⟨line', hleads⟩ : ∃ line', Lexer.Leads
      (Lexer.outside [] (-1) [] true
        ⟨memberChars 0 part.member ++
          (membersChars 0 (parts.map Part.member) ++ (spaces 0 ++ [])), 0, 0⟩)
      (Lexer.outside (((part :: parts).flatMap Part.lexemes).reverse ++ [.blockMappingStart])
        ((0 : Nat) : Int) [-1] true ⟨[], line', 0⟩) :=
    Lexer.leads_opening hkeys hvalues (by decide) (by simp [Lexer.BeginsLine]) (Nat.le_refl 0)
  -- The first key stands at the beginning of the text, and the end is no line of its own.
  have htext : membersChars 0 ((part :: parts).map Part.member) =
      memberChars 0 part.member ++
        (membersChars 0 (parts.map Part.member) ++ (spaces 0 ++ [])) := by
    rw [List.map_cons, membersChars]
    simp [spaces]
  have hlength : 0 < (membersChars 0 ((part :: parts).map Part.member)).length := by
    have hkey := List.length_pos_iff.2 (hkeys part List.mem_cons_self).ne_nil
    rw [htext, Part.member, memberChars]
    simp only [List.length_append, List.length_cons]
    omega
  -- The bounds are those of the whole text, which is longer than what any step leaves.
  obtain ⟨left, hleft, hrun⟩ := hleads
    ((membersChars 0 ((part :: parts).map Part.member)).length + 1)
    ((membersChars 0 ((part :: parts).map Part.member)).length + 1) (by omega)
    (by rw [htext]; exact Nat.lt_succ_self _)
  rw [← htext] at hrun
  refine hrun.trans ((Lexer.run_outside_end line' _ left (by omega)
    (Nat.lt_of_le_of_lt (Nat.zero_le _) hleft)).trans ?_)
  simp

end WrapperModel.Yaml
