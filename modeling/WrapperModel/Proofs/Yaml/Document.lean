import WrapperModel.Proofs.Yaml.Scalar
import WrapperModel.Yaml.Tree.Basic

/-!
# `WrapperModel.Proofs.Yaml.Document`: from a written record to lexemes

`Reads` says as which lexemes a node of a record is written and which tree they make up: a
word, a text, a sequence of texts, or a mapping of such nodes under the keys of a record,
which may hold further mappings. The lexemes of a value come line by line, so the induction
over the node carries along what the next line begins with and how far it is indented.

* `leads_lines`: lines of one indentation, such as items or further keys.
* `leads_opening`: the members of a mapping, which they open.
* `isValue_of_reads`: what follows the colon of a key is scanned as its lexemes.
-/

set_option autoImplicit false

namespace WrapperModel.Yaml

/-! ### Lexemes and trees of nodes -/

/-- The lexeme of a text in the form in which it is written (`styleOf`). -/
def textToken (s : String) : Token :=
  .scalar (styleOf s.toList = .plain) s.toList

/-- The tree of a text in the form in which it is written (`styleOf`). It is not resolved, but it
carries whether it may be. -/
def textTree (s : String) : Tree :=
  .scalar none (styleOf s.toList = .plain) s.toList

/-- A key with its value, the lexemes of the value and the tree that they make up. What is proved of
a mapping is proved of a list of parts, so that the four sides of a record stay together. -/
structure Part where
  key : String
  node : Node
  tokens : List Token
  tree : Tree

namespace Part

/-- The key with the value that is written, as `membersChars` has the members. -/
def member (part : Part) : String × Node :=
  (part.key, part.node)

/-- The lexemes of the key and the value, with the marks of both. A mapping is these of its parts
between its own marks. -/
def lexemes (part : Part) : List Token :=
  .key :: .scalar true part.key.toList :: .value :: part.tokens

/-- The trees of the key and the value, as `Tree.mapping` has the entries. A key is always a plain
scalar. -/
def entry (part : Part) : Tree × Tree :=
  (.scalar none true part.key.toList, part.tree)

end Part

/-- The node of a record is written as the lexemes, which make up the tree. It describes the nodes
that records have, and leaves out nodes that are never written, such as sequences of mappings.
`isValue_of_reads` and `Reader.isNode_of_reads` are its two sides. -/
inductive Reads : Node → List Token → Tree → Prop
  | word {written : String} (h : IsPlainLine written.toList) :
      Reads (.word written) [.scalar true written.toList] (.scalar none true written.toList)
  | text (s : String) : Reads (.text s) [textToken s] (textTree s)
  | noTexts : Reads (.sequence []) [.flowSequenceStart, .flowSequenceEnd] (.sequence none [])
  | texts {items : List String} (hne : items ≠ []) :
      Reads (.sequence (items.map .text)) (items.flatMap fun s => [.blockEntry, textToken s])
        (.sequence none (items.map textTree))
  | mapping {parts : List Part} (hne : parts ≠ [])
      (hkeys : ∀ part ∈ parts, IsKey part.key.toList)
      (h : ∀ part ∈ parts, Reads part.node part.tokens part.tree) :
      Reads (.mapping (parts.map Part.member))
        (.blockMappingStart :: (parts.flatMap Part.lexemes ++ [.blockEnd]))
        (.mapping none (parts.map Part.entry))

namespace Lexer

variable {produced : List Token} {indents : List Int} {n line column after : Nat}
  {next : List Char}

/-! ### Lines -/

/-- The break behind a colon leads to the line below, where the collection that is the value
begins. -/
theorem leads_below (hnext : BeginsLine next) :
    Leads (outside produced n indents false ⟨'\n' :: (spaces after ++ next), line, column⟩)
      (outside produced n indents true ⟨next, line + 1, after⟩) := by
  have hnone : ∀ key ∈ (none : Option PossibleKey), key.required = false ∧ key.line < line + 1 := by
    simp
  refine leads_nextLine hnext hnone (fun lines hlines => ?_) ?_
  · obtain ⟨lines, rfl⟩ : ∃ n, lines = n + 2 := ⟨lines - 2, by omega⟩
    exact skipBlanks_newLine false line column lines after hnext
  · simp only [List.length_cons, List.length_append]
    omega

/-- The text is scanned as the lexemes wherever it stands behind the indentation of an open
collection, up to the indentation of the next line. That line is not indented deeper, so it does not
belong to the text. -/
structure IsLine (n : Nat) (indents : List Int) (text : List Char) (lexemes : List Token) :
    Prop where
  begins : ∀ rest, BeginsLine (text ++ rest)
  leads : ∀ (produced : List Token) (line after : Nat) (next : List Char), BeginsLine next →
    after ≤ n → ∃ line', Leads
      (outside produced n indents true ⟨text ++ (spaces after ++ next), line, n⟩)
      (outside (lexemes.reverse ++ produced) n indents true ⟨next, line', after⟩)

/-- Lines of the same indentation are scanned one after the other. Where there are none, the line
behind them comes first, so what comes first is said by the two existential texts. -/
theorem leads_lines {α : Type} (text : α → List Char) (lexemes : α → List Token)
    (hnext : BeginsLine next) (hafter : after ≤ n) (xs : List α)
    (h : ∀ x ∈ xs, IsLine n indents (text x) (lexemes x)) :
    ∃ first rest, (xs.flatMap fun x => spaces n ++ text x) ++ (spaces after ++ next) =
        spaces first ++ rest ∧ BeginsLine rest ∧ first ≤ n ∧
      ∀ produced line, ∃ line', Leads
        (outside produced n indents true ⟨rest, line, first⟩)
        (outside ((xs.flatMap lexemes).reverse ++ produced) n indents true
          ⟨next, line', after⟩) := by
  -- What follows the first line is the first of the others, or what follows them all.
  induction xs with
  | nil => exact ⟨after, next, rfl, hnext, hafter, fun produced line => ⟨line, .refl _⟩⟩
  | cons x xs ih =>
    obtain ⟨first, rest, htext, hrest, hfirst, hleads⟩ :=
      ih fun y hy => h y (List.mem_cons_of_mem x hy)
    have hx := h x List.mem_cons_self
    refine ⟨n, text x ++ (spaces first ++ rest), ?_, hx.begins _, Nat.le_refl n, ?_⟩
    · rw [List.flatMap_cons, List.append_assoc, htext, List.append_assoc]
    · intro produced line
      obtain ⟨line', hline⟩ := hx.leads produced line first rest hrest hfirst
      obtain ⟨line'', hlines⟩ := hleads ((lexemes x).reverse ++ produced) line'
      refine ⟨line'', hline.trans ?_⟩
      rw [List.flatMap_cons, List.reverse_append, List.append_assoc]
      exact hlines

/-! ### Sequences -/

/-- An item is a dash with a text behind it (`leads_dash`, `leads_text`). -/
theorem isLine_item (s : String) :
    IsLine n indents ('-' :: itemChars n (.text s)) [.blockEntry, textToken s] where
  begins rest := by
    intro c hc
    rw [List.cons_append, List.head?_cons, Option.mem_some_iff] at hc
    exact .inr hc.symm
  leads produced line after next hnext hafter := by
    obtain ⟨line', htext⟩ : ∃ line', Leads
        (outside (.blockEntry :: produced) n indents true
          ⟨itemChars n (.text s) ++ (spaces after ++ next), line, n + 1⟩)
        (outside (textToken s :: .blockEntry :: produced) n indents true ⟨next, line', after⟩) :=
      leads_text s.toList hnext (Nat.lt_succ_self n) hafter
    exact ⟨line', (leads_dash line _).trans htext⟩

/-- The items of a sequence of texts are lines, in the form that `leads_lines` asks for. -/
theorem itemsChars_texts (items : List String) :
    itemsChars n (items.map .text) =
      items.flatMap fun s => spaces n ++ '-' :: itemChars n (.text s) := by
  induction items with
  | nil => rfl
  | cons s items ih => rw [List.map_cons, itemsChars, ih, List.flatMap_cons]

/-! ### Mappings -/

/-- What stands behind the colon of a key (`valueChars`) is scanned as the lexemes, up to the
indentation of the next line. It is the statement of the induction over the nodes. -/
def IsValue (node : Node) (lexemes : List Token) : Prop :=
  ∀ (produced : List Token) (indents : List Int) (n line column after : Nat) (next : List Char),
    BeginsLine next → after ≤ n → n < column → ∃ line', Leads
      (outside produced n indents false
        ⟨valueChars n node ++ (spaces after ++ next), line, column⟩)
      (outside (lexemes.reverse ++ produced) n indents true ⟨next, line', after⟩)

/-- A blank or a break stands behind every colon, so that it is a mark (`lexeme_eq_valueMark`). -/
theorem beginsBlank_valueChars (n : Nat) (node : Node) (rest : List Char) :
    beginsBlank (valueChars n node ++ rest) = true := by
  cases node with
  | sequence items => cases items <;> rfl
  | mapping members => cases members <;> rfl
  | word | text | quoted | tagged => rfl

/-- A key begins a line, since its first character is one of a key. -/
theorem beginsLine_key {key : List Char} (hkey : IsKey key) (rest : List Char) :
    BeginsLine (key ++ rest) := by
  obtain ⟨c, key, rfl⟩ := List.exists_cons_of_ne_nil hkey.ne_nil
  intro d hd
  rw [List.cons_append, List.head?_cons, Option.mem_some_iff] at hd
  exact .inl (hd ▸ hkey.chars c List.mem_cons_self)

/-- A key with its value is scanned as its lexemes, and opens a mapping where none is open at its
column. The first member of a mapping and the further ones differ in this alone. -/
theorem leads_member {indent : Int} {part : Part} (hkey : IsKey part.key.toList)
    (hvalue : IsValue part.node part.tokens) (hindent : indent ≤ n) (hnext : BeginsLine next)
    (hafter : after ≤ n) :
    ∃ line', Leads
      (outside produced indent indents true
        ⟨memberChars n part.member ++ (spaces after ++ next), line, n⟩)
      (outside (part.lexemes.reverse ++
          if indent < n then .blockMappingStart :: produced else produced)
        n (if indent < n then indent :: indents else indents) true ⟨next, line', after⟩) := by
  obtain ⟨line', hleads⟩ := hvalue
    (.value :: .scalar true part.key.toList :: .key ::
      if indent < n then .blockMappingStart :: produced else produced)
    (if indent < n then indent :: indents else indents) n line (n + part.key.toList.length + 1)
    after next hnext hafter (by omega)
  refine ⟨line', ?_⟩
  have htext : memberChars n part.member ++ (spaces after ++ next) =
      part.key.toList ++ ':' :: (valueChars n part.node ++ (spaces after ++ next)) := by
    simp [memberChars, Part.member]
  have hlexemes : part.lexemes.reverse = part.tokens.reverse ++
      [.value, .scalar true part.key.toList, .key] := by
    simp [Part.lexemes]
  -- First the key up to its colon, then the value up to the next line.
  rw [htext, hlexemes, List.append_assoc]
  exact (leads_key hkey (beginsBlank_valueChars n part.node _) hindent).trans hleads

/-- A key with its value is a line of the mapping that is open. It is `leads_member` for a column in
which a mapping stands already. -/
theorem isLine_member {part : Part} (hkey : IsKey part.key.toList)
    (hvalue : IsValue part.node part.tokens) :
    IsLine n indents (memberChars n part.member) part.lexemes where
  begins rest := by
    rw [Part.member, memberChars, List.append_assoc]
    exact beginsLine_key hkey _
  leads produced line after next hnext hafter := by
    obtain ⟨line', hleads⟩ : ∃ line', Leads
        (outside produced n indents true
          ⟨memberChars n part.member ++ (spaces after ++ next), line, n⟩)
        (outside (part.lexemes.reverse ++
            if (n : Int) < n then .blockMappingStart :: produced else produced)
          n (if (n : Int) < n then (n : Int) :: indents else indents) true ⟨next, line', after⟩) :=
      leads_member hkey hvalue (Int.le_refl n) hnext hafter
    -- The mapping is open in this very column, so no other one is opened.
    rw [if_neg (Int.lt_irrefl n), if_neg (Int.lt_irrefl n)] at hleads
    exact ⟨line', hleads⟩

/-- Further members of a mapping are lines, in the form that `leads_lines` asks for. -/
theorem membersChars_parts (parts : List Part) :
    membersChars n (parts.map Part.member) =
      parts.flatMap fun part => spaces n ++ memberChars n part.member := by
  induction parts with
  | nil => rfl
  | cons part parts ih => rw [List.map_cons, membersChars, ih, List.flatMap_cons]

/-- The members of a mapping are scanned as a mapping of their own where they are indented deeper
than what is open. The mapping is still open behind them, as the end of the text closes the
outermost one. -/
theorem leads_opening {indent : Int} {part : Part} {parts : List Part}
    (hkeys : ∀ p ∈ part :: parts, IsKey p.key.toList)
    (hvalues : ∀ p ∈ part :: parts, IsValue p.node p.tokens) (hindent : indent < n)
    (hnext : BeginsLine next) (hafter : after ≤ n) :
    ∃ line', Leads
      (outside produced indent indents true
        ⟨memberChars n part.member ++
          (membersChars n (parts.map Part.member) ++ (spaces after ++ next)), line, n⟩)
      (outside (((part :: parts).flatMap Part.lexemes).reverse ++ .blockMappingStart :: produced) n
        (indent :: indents) true ⟨next, line', after⟩) := by
  have hlines : ∀ p ∈ parts,
      IsLine n (indent :: indents) (memberChars n p.member) p.lexemes := fun p hp =>
    isLine_member (hkeys p (List.mem_cons_of_mem part hp))
      (hvalues p (List.mem_cons_of_mem part hp))
  obtain ⟨first, rest, htext, hrest, hfirst, hleads⟩ :=
    leads_lines _ Part.lexemes hnext hafter parts hlines
  obtain ⟨line', hmember⟩ : ∃ line', Leads
      (outside produced indent indents true
        ⟨memberChars n part.member ++ (spaces first ++ rest), line, n⟩)
      (outside (part.lexemes.reverse ++
          if indent < n then .blockMappingStart :: produced else produced)
        n (if indent < n then indent :: indents else indents) true ⟨rest, line', first⟩) :=
    leads_member (hkeys part List.mem_cons_self) (hvalues part List.mem_cons_self)
      (Int.le_of_lt hindent) hrest hfirst
  -- The first member opens the mapping, and the others are lines of it.
  rw [if_pos hindent, if_pos hindent] at hmember
  obtain ⟨line'', hparts⟩ := hleads (part.lexemes.reverse ++ .blockMappingStart :: produced) line'
  refine ⟨line'', ?_⟩
  rw [membersChars_parts, htext, List.flatMap_cons, List.reverse_append, List.append_assoc]
  exact hmember.trans hparts

/-! ### Nodes -/

/-- A word is scanned as its lexeme. It is no text, so it is written without a look at its style. -/
theorem isValue_word {written : String} (h : IsPlainLine written.toList) :
    IsValue (.word written) [.scalar true written.toList] := by
  intro produced indents n line column after next hnext hafter hcolumn
  have htext : valueChars n (.word written) ++ (spaces after ++ next) =
      ' ' :: (written.toList ++ '\n' :: (spaces after ++ next)) := by
    simp [valueChars]
  rw [htext]
  exact leads_plain hnext hcolumn hafter h

/-- A text is scanned as its lexeme, in whichever form it is written (`leads_text`). -/
theorem isValue_text (s : String) : IsValue (.text s) [textToken s] := by
  intro produced indents n line column after next hnext hafter hcolumn
  exact leads_text s.toList hnext hcolumn hafter

/-- A sequence without items is scanned as a pair of brackets (`leads_brackets`). -/
theorem isValue_noTexts : IsValue (.sequence []) [.flowSequenceStart, .flowSequenceEnd] := by
  intro produced indents n line column after next hnext hafter hcolumn
  exact ⟨line + 1, leads_brackets hnext (Nat.le_of_lt hcolumn)⟩

/-- A sequence of texts is scanned item by item. It has no lexemes of its own, since the dashes
stand in the column of the key and open no collection. -/
theorem isValue_texts {items : List String} (hne : items ≠ []) :
    IsValue (.sequence (items.map .text)) (items.flatMap fun s => [.blockEntry, textToken s]) := by
  intro produced indents n line column after next hnext hafter hcolumn
  obtain ⟨first, rest, htext, hrest, hfirst, hleads⟩ :=
    leads_lines _ _ hnext hafter items fun s _ => @isLine_item indents n s
  obtain ⟨line', hlines⟩ := hleads produced (line + 1)
  refine ⟨line', ?_⟩
  -- The items stand on the lines below the key, in the column of the first.
  have hchars : valueChars n (.sequence (items.map .text)) ++ (spaces after ++ next) =
      '\n' :: (spaces first ++ rest) := by
    obtain ⟨item, items, rfl⟩ := List.exists_cons_of_ne_nil hne
    rw [List.map_cons, valueChars, ← List.map_cons, itemsChars_texts, List.cons_append, htext]
  rw [hchars]
  exact (leads_below hrest).trans hlines

/-- A mapping is scanned key by key on lines that are indented deeper (`leads_opening`), and closes
in front of a line that is not (`leads_close`). -/
theorem isValue_mapping {parts : List Part} (hne : parts ≠ [])
    (hkeys : ∀ part ∈ parts, IsKey part.key.toList)
    (hvalues : ∀ part ∈ parts, IsValue part.node part.tokens) :
    IsValue (.mapping (parts.map Part.member))
      (.blockMappingStart :: (parts.flatMap Part.lexemes ++ [.blockEnd])) := by
  intro produced indents n line column after next hnext hafter hcolumn
  obtain ⟨part, parts, rfl⟩ := List.exists_cons_of_ne_nil hne
  have hbegins : BeginsLine (memberChars (n + 2) part.member ++
      (membersChars (n + 2) (parts.map Part.member) ++ (spaces after ++ next))) :=
    (@isLine_member indents (n + 2) part (hkeys part List.mem_cons_self)
      (hvalues part List.mem_cons_self)).begins _
  obtain ⟨line', hopening⟩ : ∃ line', Leads
      (outside produced n indents true
        ⟨memberChars (n + 2) part.member ++
          (membersChars (n + 2) (parts.map Part.member) ++ (spaces after ++ next)), line + 1,
            n + 2⟩)
      (outside (((part :: parts).flatMap Part.lexemes).reverse ++ .blockMappingStart :: produced)
        ((n + 2 : Nat) : Int) (n :: indents) true ⟨next, line', after⟩) :=
    leads_opening hkeys hvalues (by omega) hnext (by omega)
  -- The next line is not indented as far as the members, so the mapping closes.
  have hclose : Leads
      (outside (((part :: parts).flatMap Part.lexemes).reverse ++ .blockMappingStart :: produced)
        ((n + 2 : Nat) : Int) (n :: indents) true ⟨next, line', after⟩)
      (outside
        (.blockEnd ::
          (((part :: parts).flatMap Part.lexemes).reverse ++ .blockMappingStart :: produced))
        n indents true ⟨next, line', after⟩) :=
    leads_close hnext (by omega)
  refine ⟨line', ?_⟩
  simpa [valueChars] using (leads_below hbegins).trans (hopening.trans hclose)

/-- Every node of a record is scanned as its lexemes, by induction on the node. The case of a
mapping is the only one that uses the hypothesis. -/
theorem isValue_of_reads {node : Node} {lexemes : List Token} {tree : Tree}
    (h : Reads node lexemes tree) : IsValue node lexemes := by
  induction h with
  | word h => exact isValue_word h
  | text s => exact isValue_text s
  | noTexts => exact isValue_noTexts
  | texts hne => exact isValue_texts hne
  | mapping hne hkeys _ ih => exact isValue_mapping hne hkeys ih

end Lexer

end WrapperModel.Yaml
