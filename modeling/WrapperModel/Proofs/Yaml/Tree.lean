import WrapperModel.Proofs.Yaml.Printable
import WrapperModel.Yaml.Tree.Reader

/-!
# `WrapperModel.Proofs.Yaml.Tree`: from the lexemes of a record to its tree

`Reaches` counts the steps of the reader from one state to another. A node takes at most
three steps for each of its lexemes, which is well within the bound on the steps of a whole
document, so the induction over the node carries that count along.

* `isNode_of_reads`: the lexemes of a value make up its tree.
* `ofText_document`: a written record is read as the mapping of its trees.
-/

set_option autoImplicit false

namespace WrapperModel.Yaml

namespace Reader

/-! ### From state to state -/

/-- That many steps lead from the first state to the second one. The steps are counted, since
`Reader.document` takes no more than its bound. -/
def Reaches (steps : Nat) (reader next : Reader) : Prop :=
  ∀ bound, reader.run (bound + steps) = next.run bound

/-- One step, in the form in which `Reaches.trans` can go on. -/
theorem Reaches.of_step {reader next : Reader} (h : reader.step = .ok (.inl next)) :
    Reaches 1 reader next := by
  intro bound
  rw [run, h]
  rfl

/-- One way after the other. The later steps stand in front in the sum, as the bound is taken off
from the end. -/
theorem Reaches.trans {a b c : Reader} {m n : Nat} (h : Reaches m a b) (h' : Reaches n b c) :
    Reaches (n + m) a c := by
  intro bound
  rw [← Nat.add_assoc, h, h']

/-- The reader in a document in which nothing has a name. Records are written without names, so a
scalar or a collection only adds events. -/
def unnamed (handles : List (List Char × Tag)) (stage : Stage) (tokens : List Token)
    (events : Nat) : Reader :=
  { stage, tokens, handles, events }

section Unnamed

variable {handles : List (List Char × Tag)} {stack : List Frame} {block bare : Bool}
  {rest : List Token} {events : Nat}

/-! ### Nodes -/

/-- A scalar is a node of its own, wherever a node is wanted. It is complete at once and counts as
one event. -/
theorem reaches_scalar (plain : Bool) (s : List Char) :
    Reaches 1 (unnamed handles (.wanted block bare stack) (.scalar plain s :: rest) events)
      (unnamed handles (.filled (.scalar none plain s) stack) rest (events + 1)) :=
  .of_step rfl

/-- A complete node goes into its collection (`Frame.add`), and the reader stands between two nodes
again. -/
theorem reaches_between (tree : Tree) (frame : Frame) :
    Reaches 1 (unnamed handles (.filled tree (frame :: stack)) rest events)
      (unnamed handles (.between (frame.add tree) stack) rest (events + frame.extraEvents)) :=
  .of_step rfl

/-- A pair of brackets is a sequence without items, in two steps. -/
theorem reaches_noItems :
    Reaches 2
      (unnamed handles (.wanted block bare stack) (.flowSequenceStart :: .flowSequenceEnd :: rest)
        events)
      (unnamed handles (.filled (.sequence none []) stack) rest (events + 2)) :=
  have hopen : Reaches 1
      (unnamed handles (.wanted block bare stack) (.flowSequenceStart :: .flowSequenceEnd :: rest)
        events)
      (unnamed handles (.between (.flowItems {} true []) stack) (.flowSequenceEnd :: rest)
        events) := .of_step rfl
  hopen.trans (.of_step rfl)

/-- The texts behind dashes go into their sequence, which ends where no dash follows (`hrest`). It
has no lexeme for its end, so what follows has to be known. -/
theorem reaches_items (hrest : rest.head? ≠ some .blockEntry) (items : List String) :
    ∀ (trees : List Tree) (events : Nat), ∃ events', Reaches (3 * items.length + 1)
      (unnamed handles (.between (.bareItems {} trees) stack)
        ((items.flatMap fun s => [.blockEntry, textToken s]) ++ rest) events)
      (unnamed handles (.filled (.sequence none (trees.reverse ++ items.map textTree)) stack) rest
        events') := by
  -- The items that are done stand backwards in the frame, so the induction generalizes them.
  induction items with
  | nil =>
    intro trees events
    have hend : Reaches 1 (unnamed handles (.between (.bareItems {} trees) stack) rest events)
        (unnamed handles (.filled (.sequence none trees.reverse) stack) rest (events + 2)) := by
      cases rest with
      | nil => exact .of_step rfl
      | cons token rest =>
        cases token with
        | blockEntry => exact absurd rfl hrest
        | _ => exact .of_step rfl
    refine ⟨events + 2, ?_⟩
    rw [List.map_nil, List.append_nil]
    exact hend
  | cons s items ih =>
    intro trees events
    obtain ⟨events', hitems⟩ := ih (textTree s :: trees) (events + 1 + 0)
    have hdash : Reaches 1
        (unnamed handles (.between (.bareItems {} trees) stack)
          (.blockEntry :: textToken s ::
            ((items.flatMap fun s => [.blockEntry, textToken s]) ++ rest)) events)
        (unnamed handles (.wanted true false (.bareItems {} trees :: stack))
          (textToken s :: ((items.flatMap fun s => [.blockEntry, textToken s]) ++ rest))
          events) := .of_step rfl
    -- Three steps for an item: its dash, its text, and back between the items.
    have hitem := hdash.trans ((reaches_scalar _ _).trans (reaches_between (textTree s) _))
    refine ⟨events', ?_⟩
    have hall := hitem.trans hitems
    rw [List.reverse_cons, List.append_assoc] at hall
    exact hall

/-- An item takes two lexemes, its dash and its text. The bound of `IsNode` counts lexemes. -/
theorem length_items (items : List String) :
    (items.flatMap fun s => [Token.blockEntry, textToken s]).length = 2 * items.length := by
  induction items with
  | nil => rfl
  | cons s items ih =>
    rw [List.flatMap_cons, List.length_append, ih, List.length_cons, List.length_cons,
      List.length_cons, List.length_nil]
    omega

/-- Texts behind dashes below a key are a sequence, which opens where a bare one is allowed. One
step opens it and the others are those of `reaches_items`. -/
theorem reaches_texts (handles : List (List Char × Tag)) (stack : List Frame) (block : Bool)
    (events : Nat) (hrest : rest.head? ≠ some .blockEntry) {items : List String}
    (hne : items ≠ []) :
    ∃ events', Reaches (3 * items.length + 2)
      (unnamed handles (.wanted block true stack)
        ((items.flatMap fun s => [.blockEntry, textToken s]) ++ rest) events)
      (unnamed handles (.filled (.sequence none (items.map textTree)) stack) rest events') := by
  obtain ⟨events', hitems⟩ : ∃ events', Reaches (3 * items.length + 1)
      (unnamed handles (.between (.bareItems {} []) stack)
        ((items.flatMap fun s => [.blockEntry, textToken s]) ++ rest) events)
      (unnamed handles (.filled (.sequence none (items.map textTree)) stack) rest events') :=
    reaches_items hrest items [] events
  obtain ⟨s, items, rfl⟩ := List.exists_cons_of_ne_nil hne
  -- The first dash opens the sequence without being taken.
  have hopen : Reaches 1
      (unnamed handles (.wanted block true stack)
        (((s :: items).flatMap fun s => [.blockEntry, textToken s]) ++ rest) events)
      (unnamed handles (.between (.bareItems {} []) stack)
        (((s :: items).flatMap fun s => [.blockEntry, textToken s]) ++ rest) events) :=
    .of_step rfl
  exact ⟨events', hopen.trans hitems⟩

/-! ### Mappings -/

/-- The lexemes make up the tree wherever a value is wanted, up to a lexeme that is no dash. A node
takes at most three steps for each of its lexemes, which `ofText_document` compares with the bound
of the reader. -/
def IsNode (lexemes : List Token) (tree : Tree) : Prop :=
  ∀ (handles : List (List Char × Tag)) (stack : List Frame) (rest : List Token) (events : Nat),
    rest.head? ≠ some .blockEntry → ∃ steps events', steps ≤ 3 * lexemes.length ∧ Reaches steps
      (unnamed handles (.wanted true true stack) (lexemes ++ rest) events)
      (unnamed handles (.filled tree stack) rest events')

/-- The first lexeme of a value is none that stands where a value is missing. So `between` looks for
a node and not for the next key. -/
def BeginsNode (lexemes : List Token) : Prop :=
  ∀ rest, follows (lexemes ++ rest) [.key, .value, .blockEnd] = false

/-- A key with its value goes into its mapping. The steps are bounded by the lexemes, as `IsNode`
asks. -/
theorem reaches_part {part : Part} (handles : List (List Char × Tag)) (stack : List Frame)
    (events : Nat) (hbegins : BeginsNode part.tokens)
    (hvalue : IsNode part.tokens part.tree) (entries : List (Tree × Tree))
    (hrest : rest.head? ≠ some .blockEntry) :
    ∃ steps events', steps ≤ 3 * part.lexemes.length ∧ Reaches steps
      (unnamed handles (.between (.blockKeys {} entries) stack) (part.lexemes ++ rest) events)
      (unnamed handles (.between (.blockKeys {} (part.entry :: entries)) stack) rest events') := by
  -- The value is read with the mapping waiting for it on the stack.
  obtain ⟨steps, events', hsteps, hnode⟩ :=
    hvalue handles (.blockValue {} entries (.scalar none true part.key.toList) :: stack) rest
      (events + 1 + 0) hrest
  have hkey : Reaches 1
      (unnamed handles (.between (.blockKeys {} entries) stack)
        (.key :: .scalar true part.key.toList :: .value :: (part.tokens ++ rest)) events)
      (unnamed handles (.wanted true true (.blockKeys {} entries :: stack))
        (.scalar true part.key.toList :: .value :: (part.tokens ++ rest)) events) := .of_step rfl
  have hcolon : Reaches 1
      (unnamed handles
        (.between (.blockValue {} entries (.scalar none true part.key.toList)) stack)
        (.value :: (part.tokens ++ rest)) (events + 1 + 0))
      (unnamed handles
        (.wanted true true (.blockValue {} entries (.scalar none true part.key.toList) :: stack))
        (part.tokens ++ rest) (events + 1 + 0)) := by
    refine .of_step ?_
    simp only [step, unnamed, between, nodeUnless, hbegins rest]
    rfl
  -- Four steps up to the value, and one behind it.
  have hfirst := hkey.trans ((reaches_scalar _ _).trans ((reaches_between _ _).trans hcolon))
  refine ⟨_, _, ?_, hfirst.trans (hnode.trans (reaches_between _ _))⟩
  simp only [Part.lexemes, List.length_cons]
  omega

/-- The keys with their values make up their mapping. The entries that are done stand backwards in
the frame, so the statement is about any of them. -/
theorem reaches_entries {parts : List Part} (handles : List (List Char × Tag))
    (stack : List Frame) (rest : List Token) (hbegins : ∀ part ∈ parts, BeginsNode part.tokens)
    (hvalues : ∀ part ∈ parts, IsNode part.tokens part.tree) :
    ∀ (entries : List (Tree × Tree)) (events : Nat), ∃ steps events',
      steps ≤ 3 * (parts.flatMap Part.lexemes).length + 1 ∧ Reaches steps
        (unnamed handles (.between (.blockKeys {} entries) stack)
          (parts.flatMap Part.lexemes ++ .blockEnd :: rest) events)
        (unnamed handles (.filled (.mapping none (entries.reverse ++ parts.map Part.entry)) stack)
          rest events') := by
  induction parts with
  | nil =>
    intro entries events
    -- The end of the mapping is one step, whatever the mapping holds.
    refine ⟨1, events + 2, by simp, ?_⟩
    rw [List.map_nil, List.append_nil]
    exact .of_step rfl
  | cons part parts ih =>
    intro entries events
    -- What follows a value is a key or the end of the mapping, so no sequence goes on.
    have hstop : (parts.flatMap Part.lexemes ++ .blockEnd :: rest).head? ≠ some .blockEntry := by
      cases parts <;> simp [Part.lexemes]
    obtain ⟨steps, events', hsteps, hpart⟩ := reaches_part handles stack events
      (hbegins part List.mem_cons_self) (hvalues part List.mem_cons_self) entries hstop
    obtain ⟨steps', events'', hsteps', hparts⟩ := ih
      (fun p hp => hbegins p (List.mem_cons_of_mem part hp))
      (fun p hp => hvalues p (List.mem_cons_of_mem part hp)) (part.entry :: entries) events'
    refine ⟨steps' + steps, events'', ?_, ?_⟩
    · rw [List.flatMap_cons, List.length_append]
      omega
    · rw [List.flatMap_cons, List.append_assoc, List.map_cons]
      have hall := hpart.trans hparts
      rw [List.reverse_cons, List.append_assoc] at hall
      exact hall

/-- A mapping in block form is a node. It is `reaches_entries` behind the mark of the mapping. -/
theorem reaches_mapping {parts : List Part} (handles : List (List Char × Tag))
    (stack : List Frame) (rest : List Token) (bare : Bool) (events : Nat)
    (hbegins : ∀ part ∈ parts, BeginsNode part.tokens)
    (hvalues : ∀ part ∈ parts, IsNode part.tokens part.tree) :
    ∃ steps events', steps ≤ 3 * (parts.flatMap Part.lexemes).length + 2 ∧ Reaches steps
      (unnamed handles (.wanted true bare stack)
        (.blockMappingStart :: (parts.flatMap Part.lexemes ++ .blockEnd :: rest)) events)
      (unnamed handles (.filled (.mapping none (parts.map Part.entry)) stack) rest events') := by
  obtain ⟨steps, events', hsteps, hentries⟩ := reaches_entries handles stack rest hbegins hvalues []
    events
  -- The mark of the mapping is one step, and the members are read between that and its end.
  have hopen : Reaches 1
      (unnamed handles (.wanted true bare stack)
        (.blockMappingStart :: (parts.flatMap Part.lexemes ++ .blockEnd :: rest)) events)
      (unnamed handles (.between (.blockKeys {} []) stack)
        (parts.flatMap Part.lexemes ++ .blockEnd :: rest) events) := .of_step rfl
  exact ⟨steps + 1, events', by omega, hopen.trans hentries⟩

end Unnamed

/-! ### Documents -/

/-- The lexemes of a value begin like a node, in each of the forms of `Reads`. -/
theorem beginsNode_of_reads {node : Node} {lexemes : List Token} {tree : Tree}
    (h : Reads node lexemes tree) : BeginsNode lexemes := by
  intro rest
  cases h with
  | texts hne =>
    obtain ⟨s, items, rfl⟩ := List.exists_cons_of_ne_nil hne
    rfl
  | _ => rfl

/-- The lexemes of a node make up its tree, by induction on the node. Together with
`isValue_of_reads` it says that a written record is read back. -/
theorem isNode_of_reads {node : Node} {lexemes : List Token} {tree : Tree}
    (h : Reads node lexemes tree) : IsNode lexemes tree := by
  induction h with
  | word _ =>
    intro handles stack rest events _
    exact ⟨1, events + 1, by simp, reaches_scalar _ _⟩
  | text s =>
    intro handles stack rest events _
    exact ⟨1, events + 1, by simp, reaches_scalar _ _⟩
  | noTexts =>
    intro handles stack rest events _
    exact ⟨2, events + 2, by simp, reaches_noItems⟩
  | @texts items hne =>
    intro handles stack rest events hrest
    obtain ⟨events', htexts⟩ := reaches_texts handles stack true events hrest hne
    refine ⟨3 * items.length + 2, events', ?_, htexts⟩
    have hpositive := List.length_pos_iff.2 hne
    -- Three steps for two lexemes, and two more, which the first item outweighs.
    have hlength := length_items items
    omega
  | @mapping parts _ _ h ih =>
    intro handles stack rest events hrest
    obtain ⟨steps, events', hsteps, hmapping⟩ := reaches_mapping handles stack rest true events
      (fun part hpart => beginsNode_of_reads (h part hpart)) ih
    refine ⟨steps, events', ?_, ?_⟩
    · simp only [List.length_cons, List.length_append]
      omega
    · rw [List.cons_append, List.append_assoc]
      exact hmapping

end Reader

/-- A written record is read as the mapping of its trees, in which nothing has a name. The number of
events does not matter, since no copy is ever looked up. -/
theorem ofText_document {parts : List Part} (hne : parts ≠ [])
    (hkeys : ∀ part ∈ parts, IsKey part.key.toList)
    (h : ∀ part ∈ parts, Reads part.node part.tokens part.tree) :
    ∃ events, Document.ofText (document (parts.map Part.member)) =
      .ok ⟨.mapping none (parts.map Part.entry), [], events⟩ := by
  obtain ⟨steps, events, hsteps, hmapping⟩ := Reader.reaches_mapping
    ([] ++ Reader.standardHandles) [] [] false 0
    (fun part hpart => Reader.beginsNode_of_reads (h part hpart))
    (fun part hpart => Reader.isNode_of_reads (h part hpart))
  refine ⟨events, ?_⟩
  rw [Document.ofText, tokens_document hne hkeys h]
  -- The bound leaves room for the last step, which takes the outermost node.
  obtain ⟨bound, hbound⟩ : ∃ bound,
      8 * (Token.blockMappingStart :: (parts.flatMap Part.lexemes ++ [.blockEnd])).length + 16 =
        bound + 1 + steps := by
    refine ⟨8 * (Token.blockMappingStart :: (parts.flatMap Part.lexemes ++ [.blockEnd])).length +
      15 - steps, ?_⟩
    simp only [List.length_cons, List.length_append, List.length_nil]
    omega
  have hrun := hmapping (bound + 1)
  show Reader.document [] (.blockMappingStart :: (parts.flatMap Part.lexemes ++ [.blockEnd])) = _
  rw [Reader.unnamed] at hrun
  simp only [Reader.document, hbound, hrun]
  rfl

end WrapperModel.Yaml
