import WrapperModel.Yaml.Token.Lexer
import WrapperModel.Yaml.Tree.Basic

/-!
# `WrapperModel.Yaml.Tree.Reader`: from lexemes to a document

The reader keeps the open collections as `Frame`s on a stack. It wants a node, or has
completed one, or stands between the nodes of the innermost collection; these are the
`Stage`s, and `step` goes from one to the next. A node that is missing where a collection
has a place for it is the empty scalar.

Names are numbered by how many names are known when a node gets one. A name that is given
again takes a new number without being a new name, so a later name can come to the same
number; the number then belongs to the node that begins last.

`Document.ofText` reads a whole text, which holds one document at most.
-/

set_option autoImplicit false

namespace WrapperModel.Yaml

/-- The tag of a node, and its place among the nodes that have a name. Both stand in front of the
node, so they are known before it is complete. -/
structure Properties where
  tag : Option Tag := none
  place : Option Nat := none
  deriving Repr, DecidableEq

/-- An open collection with what it holds so far, written backwards. Which of its kinds a frame is
says what may come next in it. -/
inductive Frame where
  /-- A block sequence with dashes of its own indentation. -/
  | blockItems (properties : Properties) (items : List Tree)
  /-- A block sequence whose dashes stand below the key. -/
  | bareItems (properties : Properties) (items : List Tree)
  /-- A block mapping in front of a key. -/
  | blockKeys (properties : Properties) (entries : List (Tree × Tree))
  /-- A block mapping behind a key. -/
  | blockValue (properties : Properties) (entries : List (Tree × Tree)) (key : Tree)
  /-- A sequence in brackets; the flag says that no item was read. -/
  | flowItems (properties : Properties) (first : Bool) (items : List Tree)
  /-- A pair that is an item in brackets, in front of its key. -/
  | pairKey (properties : Properties) (items : List Tree)
  /-- A pair that is an item in brackets, behind its key. -/
  | pairValue (properties : Properties) (items : List Tree) (key : Tree)
  /-- A mapping in braces; the flag says that no key was read. -/
  | flowKeys (properties : Properties) (first : Bool) (entries : List (Tree × Tree))
  /-- A mapping in braces, in front of a key that has no mark. -/
  | flowLone (properties : Properties) (entries : List (Tree × Tree))
  /-- A mapping in braces, behind a key. -/
  | flowValue (properties : Properties) (entries : List (Tree × Tree)) (key : Tree)

/-- A collection with one more node. In a mapping the node is the key or the value that the frame
was waiting for. -/
def Frame.add (tree : Tree) : Frame → Frame
  | .blockItems properties items => .blockItems properties (tree :: items)
  | .bareItems properties items => .bareItems properties (tree :: items)
  | .blockKeys properties entries => .blockValue properties entries tree
  | .blockValue properties entries key => .blockKeys properties ((key, tree) :: entries)
  | .flowItems properties _ items => .flowItems properties false (tree :: items)
  | .pairKey properties items => .pairValue properties items tree
  | .pairValue properties items key =>
    .flowItems properties false (.mapping none [(key, tree)] :: items)
  | .flowKeys properties _ entries => .flowValue properties entries tree
  | .flowLone properties entries => .flowKeys properties false ((tree, Tree.nothing) :: entries)
  | .flowValue properties entries key => .flowKeys properties false ((key, tree) :: entries)

/-- The events that a frame adds when it takes a node: a pair that is an item begins and ends a
mapping, and a key in braces without a mark has an empty value. -/
def Frame.extraEvents : Frame → Nat
  | .pairValue _ _ _ => 2
  | .flowLone _ _ => 1
  | _ => 0

/-- Where the reader is. The stack holds the collections around, the innermost first. -/
inductive Stage where
  /-- A node has to follow. The flags say that it can be a block collection, and a sequence
  whose dashes stand below the key. -/
  | wanted (block bare : Bool) (stack : List Frame)
  /-- A node is complete. -/
  | filled (tree : Tree) (stack : List Frame)
  /-- Between the nodes of the collection in front of the stack. -/
  | between (frame : Frame) (stack : List Frame)

/-- The reader between two steps: its stage, the lexemes that are left, and what is known of tags
and names. -/
structure Reader where
  stage : Stage
  tokens : List Token
  /-- What the handles of tags stand for. -/
  handles : List (List Char × Tag)
  /-- The numbers of the names, the latest first. -/
  names : List (List Char × Nat) := []
  /-- The number of different names. -/
  nameCount : Nat := 0
  /-- The places of the nodes with a number, the latest first. -/
  places : List (Nat × Nat) := []
  /-- The nodes with a name, by place. -/
  completed : List (Nat × Tree) := []
  /-- The scalars and copies, and the beginnings and ends of collections. -/
  events : Nat := 0

namespace Reader

/-- Why the lexemes make up no document, as a failure of any type (`ReadError.badStructure`). -/
def unexpected {α : Type} (reason : String) : Except ReadError α :=
  .error (.badStructure reason)

/-- The state with another stage and other lexemes in front. Nothing else changes between nodes; the
end of a node is `complete`. -/
def goto (reader : Reader) (stage : Stage) (tokens : List Token) : Reader :=
  { reader with stage, tokens }

/-- The state with a node complete, which counts as that many events. A node with a name is put down
in `completed` under its place, where `document` looks for it. -/
def complete (reader : Reader) (properties : Properties) (tree : Tree) (stack : List Frame)
    (tokens : List Token) (events : Nat) : Reader :=
  { reader with
    stage := .filled tree stack
    tokens
    completed := match properties.place with
      | some place => (place, tree) :: reader.completed
      | none => reader.completed
    events := reader.events + events }

/-- The state with a sequence complete, whose items are collected backwards. Its beginning and its
end are two events (`complete`). -/
def completeSequence (reader : Reader) (properties : Properties) (items : List Tree)
    (stack : List Frame) (tokens : List Token) : Reader :=
  reader.complete properties (.sequence properties.tag items.reverse) stack tokens 2

/-- The state with a mapping complete, whose entries are collected backwards. Its beginning and its
end are two events (`complete`). -/
def completeMapping (reader : Reader) (properties : Properties) (entries : List (Tree × Tree))
    (stack : List Frame) (tokens : List Token) : Reader :=
  reader.complete properties (.mapping properties.tag entries.reverse) stack tokens 2

/-- The state in which nothing is written where the frame has a place for a node: `Tree.nothing` is
complete there, as one event. -/
def leaveEmpty (reader : Reader) (frame : Frame) (stack : List Frame) (tokens : List Token) :
    Reader :=
  reader.complete {} Tree.nothing (frame :: stack) tokens 1

/-! ### Nodes -/

/-- What a tag stands for: its handle is looked up in `handles`. Without a handle it stands for
itself. -/
def tagOf (reader : Reader) (handle : List Char) (suffix : Tag) : Except ReadError Tag :=
  if handle.isEmpty then .ok suffix
  else
    match reader.handles.lookup handle with
    | some start => .ok (start ++ suffix)
    | none => unexpected "found undefined tag handle"

/-- The state with a name for the node that begins here, and the place of that node. References
behind it mean this node, also those inside it, since the number goes to the front of `names`. -/
def giveName (reader : Reader) (name : List Char) : Reader × Nat :=
  let number := reader.nameCount
  let place := reader.places.length
  let known := (reader.names.lookup name).isSome
  ({ reader with
      names := (name, number) :: reader.names
      nameCount := if known then number else number + 1
      places := (number, place) :: reader.places },
    place)

/-- The anchor and the tag (`tagOf`) in front of a node, each once at most and in either order. -/
def nodeProperties (reader : Reader) :
    Except ReadError (Option (List Char) × Option Tag × List Token) :=
  match reader.tokens with
  | .anchor name :: .tag handle suffix :: rest => do
    return (some name, some (← reader.tagOf handle suffix), rest)
  | .anchor name :: rest => return (some name, none, rest)
  | .tag handle suffix :: .anchor name :: rest => do
    return (some name, some (← reader.tagOf handle suffix), rest)
  | .tag handle suffix :: rest => do return (none, some (← reader.tagOf handle suffix), rest)
  | rest => return (none, none, rest)

/-- The node that has to follow. A lone exclamation mark is kept as its tag like any other one, in
front of a scalar too, so that a scalar behind it is not resolved as one without a tag would be. -/
def node (reader : Reader) (block bare : Bool) (stack : List Frame) :
    Except ReadError Reader :=
  match reader.tokens with
  | .copyOf name :: rest =>
    match reader.names.lookup name with
    | some number => .ok (reader.complete {} (.copy number) stack rest 1)
    | none => .error (.unknownAnchor (String.ofList name))
  | _ => do
    let (name, tag, rest) ← reader.nodeProperties
    let (named, place) := match name with
      | some name => let (named, place) := reader.giveName name; (named, some place)
      | none => (reader, none)
    let properties : Properties := { tag, place }
    let opened (frame : Frame) (rest : List Token) : Reader :=
      named.goto (.between frame stack) rest
    match rest with
    | .blockEntry :: _ =>
      if bare then .ok (opened (.bareItems properties []) rest)
      else if name.isSome || tag.isSome then
        .ok (named.complete properties (.scalar tag true []) stack rest 1)
      else unexpected "did not find expected node content"
    | .scalar plain text :: rest =>
      .ok (named.complete properties (.scalar tag plain text) stack rest 1)
    | .flowSequenceStart :: rest => .ok (opened (.flowItems properties true []) rest)
    | .flowMappingStart :: rest => .ok (opened (.flowKeys properties true []) rest)
    | token :: tail =>
      if block && token = .blockSequenceStart then .ok (opened (.blockItems properties []) tail)
      else if block && token = .blockMappingStart then .ok (opened (.blockKeys properties []) tail)
      else if name.isSome || tag.isSome then
        .ok (named.complete properties (.scalar tag true []) stack rest 1)
      else unexpected "did not find expected node content"
    | [] =>
      if name.isSome || tag.isSome then
        .ok (named.complete properties (.scalar tag true []) stack rest 1)
      else unexpected "did not find expected node content"

/-! ### Between nodes -/

/-- One of the lexemes comes next. At the end of the lexemes none does. -/
def follows (tokens : List Token) (options : List Token) : Bool :=
  tokens.head?.any fun token => options.contains token

/-- The next node of a frame, or nothing where one of `stops` comes next. The flags `block` and
`bare` are those of `Stage.wanted`. -/
def nodeUnless (reader : Reader) (stops : List Token) (block bare : Bool) (frame : Frame)
    (stack : List Frame) (tokens : List Token) : Reader :=
  if follows tokens stops then reader.leaveEmpty frame stack tokens
  else reader.goto (.wanted block bare (frame :: stack)) tokens

/-- The lexemes at the next item in brackets, if they do not close the brackets: behind the first
item a comma has to come. It serves `flowItems` and `flowKeys` alike. -/
def afterComma (first : Bool) (tokens : List Token) : Except ReadError (List Token) :=
  if first then .ok tokens
  else
    match tokens with
    | .flowEntry :: rest => .ok rest
    | _ => unexpected "did not find expected ','"

/-- What comes next in the collection in front of the stack: a node, the end of the collection, or a
value that is not written (`leaveEmpty`). There is a case for every kind of `Frame`. -/
def between (reader : Reader) (stack : List Frame) : Frame → Except ReadError Reader
  | .blockItems properties items =>
    match reader.tokens with
    | .blockEntry :: rest =>
      .ok (reader.nodeUnless [.blockEntry, .blockEnd] true false (.blockItems properties items)
        stack rest)
    | .blockEnd :: rest => .ok (reader.completeSequence properties items stack rest)
    | _ => unexpected "did not find expected '-' indicator"
  | .bareItems properties items =>
    match reader.tokens with
    | .blockEntry :: rest =>
      .ok (reader.nodeUnless [.blockEntry, .key, .value, .blockEnd] true false
        (.bareItems properties items) stack rest)
    | rest => .ok (reader.completeSequence properties items stack rest)
  | .blockKeys properties entries =>
    match reader.tokens with
    | .key :: rest =>
      .ok (reader.nodeUnless [.key, .value, .blockEnd] true true (.blockKeys properties entries)
        stack rest)
    | .blockEnd :: rest => .ok (reader.completeMapping properties entries stack rest)
    | _ => unexpected "did not find expected key"
  | .blockValue properties entries key =>
    match reader.tokens with
    | .value :: rest =>
      .ok (reader.nodeUnless [.key, .value, .blockEnd] true true
        (.blockValue properties entries key) stack rest)
    | rest => .ok (reader.leaveEmpty (.blockValue properties entries key) stack rest)
  | .flowItems properties first items => do
    match reader.tokens with
    | .flowSequenceEnd :: rest => return reader.completeSequence properties items stack rest
    | tokens =>
      match ← afterComma first tokens with
      | .flowSequenceEnd :: rest => return reader.completeSequence properties items stack rest
      | .key :: rest => return reader.goto (.between (.pairKey properties items) stack) rest
      | rest =>
        return reader.goto (.wanted false false (.flowItems properties false items :: stack)) rest
  | .pairKey properties items =>
    if follows reader.tokens [.value, .flowEntry, .flowSequenceEnd] then
      .ok (reader.leaveEmpty (.pairKey properties items) stack (reader.tokens.drop 1))
    else
      .ok (reader.goto (.wanted false false (.pairKey properties items :: stack)) reader.tokens)
  | .pairValue properties items key =>
    match reader.tokens with
    | .value :: rest =>
      .ok (reader.nodeUnless [.flowEntry, .flowSequenceEnd] false false
        (.pairValue properties items key) stack rest)
    | rest => .ok (reader.leaveEmpty (.pairValue properties items key) stack rest)
  | .flowKeys properties first entries => do
    match reader.tokens with
    | .flowMappingEnd :: rest => return reader.completeMapping properties entries stack rest
    | tokens =>
      match ← afterComma first tokens with
      | .flowMappingEnd :: rest => return reader.completeMapping properties entries stack rest
      | .key :: rest =>
        return reader.nodeUnless [.value, .flowEntry, .flowMappingEnd] false false
          (.flowKeys properties false entries) stack rest
      | rest =>
        return reader.goto (.wanted false false (.flowLone properties entries :: stack)) rest
  | .flowLone properties entries =>
    .ok (reader.goto (.wanted false false (.flowLone properties entries :: stack)) reader.tokens)
  | .flowValue properties entries key =>
    match reader.tokens with
    | .value :: rest =>
      .ok (reader.nodeUnless [.flowEntry, .flowMappingEnd] false false
        (.flowValue properties entries key) stack rest)
    | rest => .ok (reader.leaveEmpty (.flowValue properties entries key) stack rest)

/-- One step: the reader afterwards, or the outermost node with the lexemes behind it. There is a
case for every `Stage`, of which only a filled one with an empty stack ends. -/
def step (reader : Reader) : Except ReadError (Reader ⊕ Tree) :=
  match reader.stage with
  | .wanted block bare stack => (reader.node block bare stack).map .inl
  | .filled tree [] => .ok (.inr tree)
  | .filled tree (frame :: stack) =>
    .ok (.inl
      { reader with
        stage := .between (frame.add tree) stack
        events := reader.events + frame.extraEvents })
  | .between frame stack => (reader.between stack frame).map .inl

/-- Steps up to the end of the outermost node, at most as many as the number says. A lexeme is met
in a few stages only, so `document` gives a number in proportion to the lexemes. -/
def run (reader : Reader) : Nat → Except ReadError (Reader × Tree)
  | 0 => unexpected "did not find expected node content"
  | bound + 1 => do
    match ← reader.step with
    | .inl next => next.run bound
    | .inr tree => return (reader, tree)

/-! ### Documents -/

/-- What handles stand for without a directive: the single mark for itself (`Tag.mark`), the double
one for the beginning of the standard tags (`Tag.standardStart`). -/
def standardHandles : List (List Char × Tag) :=
  [(['!'], Tag.mark), (['!', '!'], Tag.standardStart)]

/-- The directives in front of a document: the handles that they define, and the lexemes behind
them. The flag `versioned` says that a version was given, since only one may be. -/
def directives (versioned : Bool) (handles : List (List Char × Tag)) :
    List Token → Except ReadError (List (List Char × Tag) × List Token)
  | .versionDirective major minor :: rest =>
    if versioned then unexpected "found duplicate %YAML directive"
    else if major = 1 && (minor = 1 || minor = 2) then directives true handles rest
    else unexpected "found incompatible YAML document"
  | .tagDirective handle start :: rest =>
    if (handles.lookup handle).isSome then unexpected "found duplicate %TAG directive"
    else directives versioned ((handle, start) :: handles) rest
  | rest => .ok (handles, rest)

/-- Nothing but marks of a document's end follows. Anything else would be a second document
(`ReadError.secondDocument`). -/
def onlyEnds (tokens : List Token) : Bool :=
  tokens.all (· = .documentEnd)

/-- The outermost node is missing: a directive, a mark of a document or the end of the text comes
next. Such a document is `Document.empty`, unless another one follows. -/
def endsHere : List Token → Bool
  | [] | .versionDirective _ _ :: _ | .tagDirective _ _ :: _ | .documentStart :: _
  | .documentEnd :: _ => true
  | _ => false

/-- The document of the lexemes at the beginning of its outermost node (`run`). Handles that the
document defines go before the standard ones, so that it can define those anew. -/
def document (handles : List (List Char × Tag)) (tokens : List Token) :
    Except ReadError Document := do
  let start : Reader :=
    { stage := .wanted true false [], tokens, handles := handles ++ standardHandles }
  let (final, root) ← start.run (8 * tokens.length + 16)
  if onlyEnds final.tokens then
    return {
      root
      named := final.places.filterMap fun (number, place) =>
        (final.completed.lookup place).map fun tree => (number, tree)
      events := final.events }
  else .error .secondDocument

end Reader

/-- A document in which nothing is written. Its root is `Tree.nothing`, which counts as one
event. -/
def Document.empty : Document :=
  ⟨Tree.nothing, [], 1⟩

/-- The document that lexemes make up. Directives need a mark of the document's beginning behind
them; without directives the mark may be left out (`Reader.document`). -/
def Document.ofTokens (tokens : List Token) : Except ReadError Document := do
  match tokens with
  | [] => return Document.empty
  | .versionDirective _ _ :: _ | .tagDirective _ _ :: _ | .documentStart :: _ =>
    match ← Reader.directives false [] tokens with
    | (handles, .documentStart :: rest) =>
      if Reader.endsHere rest then
        if Reader.onlyEnds rest then return Document.empty else .error .secondDocument
      else Reader.document handles rest
    | _ => .error (.badStructure "did not find expected <document start>")
  | _ => Reader.document [] tokens

/-- The document of a text, by way of its lexemes (`tokens`). It fails with the first error of
either step. -/
def Document.ofText (s : String) : Except ReadError Document := do
  Document.ofTokens (← tokens s.toList)

end WrapperModel.Yaml
