import WrapperModel.Yaml.Resolution
import WrapperModel.Yaml.Tree.Basic

/-!
# `WrapperModel.Yaml.Decode`: values of nodes

A `Reading` looks up copies in its document and may do so a limited number of times, a
hundred for every event of the document. Collections may be nested 128 deep, which counts
the collections of copied nodes too; the readers take the depth that is left.

Fields of a record are read by their keys. Most take the text of a scalar as it is
written; `Content` is the other way, in which a plain scalar is resolved first.
-/

set_option autoImplicit false

namespace WrapperModel.Yaml

/-- A computation that reads nodes of a document. It may look up copies in the document
(`resolved`), and the state is the number of copies that may still be looked up, so that no document
makes a reader work forever. -/
abbrev Reading (α : Type) := ReaderT Document (StateT Nat (Except ReadError)) α

/-- How deep collections may be nested. The readers pass on the depth that is left, and refuse a
collection where `depth` is used up. -/
def depthLimit : Nat := 128

namespace Reading

/-- Fails because a value of another kind was wanted, and names that kind (`ReadError.wanted`). -/
def wanted {α : Type} (kind : String) : Reading α :=
  throw (.wanted kind)

/-- The node itself, or the node that it copies (`Tree.copy`). Every copy that is looked up is
counted, also one of a scalar. A node is never a copy of a copy, since a name is given to nodes that
are written out. -/
def resolved : Tree → Reading Tree
  | .copy number => do
    match (← get) with
    | 0 => throw .tooManyRepetitions
    | left + 1 =>
      set left
      match (← read).named.lookup number with
      | some tree => return tree
      | none => throw (.unknownAnchor "")
  | tree => return tree

/-! ### Scalars -/

/-- The text of a scalar as it is written. Its tag and its quotes do not matter, so an unquoted
number is a text here, unlike in `contentOptionalText`. -/
def text (tree : Tree) : Reading String := do
  match ← resolved tree with
  | .scalar _ _ s => return String.ofList s
  | _ => wanted "a string"

/-- A text, or nothing where the scalar is plain and empty or an explicit spelling of nothing
(`isNullWord`). Quotes always make a text. With a tag the spelling has to be explicit, and only the
tag for nothing allows it. -/
def optionalText (tree : Tree) : Reading (Option String) := do
  match ← resolved tree with
  | .scalar tag plain s =>
    if !plain then return some (String.ofList s)
    else
      match tag with
      | none => return if s.isEmpty || isNullWord s then none else some (String.ofList s)
      | some tag =>
        if tag = Tag.null then
          if isNullWord s then return none else wanted "null"
        else return some (String.ofList s)
  | _ => wanted "a string"

/-! ### Collections -/

/-- The items of a sequence with the depth that is left for them. Where nothing is written
(`Tree.nothing`), there are none, and the depth stays. An empty text between quotes is no
sequence. -/
def items (depth : Nat) (tree : Tree) : Reading (List Tree × Nat) := do
  match ← resolved tree with
  | .sequence _ items =>
    match depth with
    | 0 => throw .tooDeep
    | left + 1 => return (items, left)
  | .scalar _ plain s =>
    if plain && s.isEmpty then return ([], depth) else wanted "a sequence"
  | _ => wanted "a sequence"

/-- The entries of a mapping with the depth that is left for them. As for `items`, there are none
where nothing is written, and an empty text between quotes is no mapping. -/
def entries (depth : Nat) (tree : Tree) : Reading (List (Tree × Tree) × Nat) := do
  match ← resolved tree with
  | .mapping _ entries =>
    match depth with
    | 0 => throw .tooDeep
    | left + 1 => return (entries, left)
  | .scalar _ plain s =>
    if plain && s.isEmpty then return ([], depth) else wanted "a map"
  | _ => wanted "a map"

/-- A list of texts, each read by `text` as it is written. -/
def texts (depth : Nat) (tree : Tree) : Reading (List String) := do
  (← items depth tree).1.mapM text

/-! ### Resolved values -/

/-- A value whose plain scalars are resolved (`resolve`). The numbers are not kept apart, and
neither are collections, since no field that is read in this way takes one: they only have to be
refused. -/
inductive Content where
  | nothing
  | bool (value : Bool)
  | number
  | text (s : String)
  | collection
  deriving Repr, DecidableEq

/-- The tag is one of the document's own and has a word (`Tag.word?`). Such a tag names a choice,
which no resolved value is. -/
def hasWord (tag : Option Tag) : Bool :=
  tag.any fun tag => tag.word?.isSome

/-- What a text stands for, by `resolve`. Whole numbers of more than 64 bits are refused, since a
resolved value keeps no wider ones. -/
def resolvedContent (s : List Char) : Reading Content :=
  match resolve s with
  | .null => return .nothing
  | .bool value => return .bool value
  | .number => return .number
  | .wideNumber => wanted "a number of 64 bits"
  | .text => return .text (String.ofList s)

/-- What a scalar stands for. The standard tags demand their kind of value and refuse a scalar that
is none. A tag of the document's own leaves a plain scalar as it is (`resolvedContent`), and any
other tag makes a scalar a text. -/
def scalarContent (tag : Option Tag) (plain : Bool) (s : List Char) : Reading Content :=
  match tag with
  | none => if plain then resolvedContent s else return .text (String.ofList s)
  | some tag =>
    if tag = Tag.bool then
      match boolWord? s with
      | some value => return .bool value
      | none => wanted "a boolean"
    else if tag = Tag.int then
      if (wholeNumber? s).any (fitsBits 64) then return .number else wanted "an integer"
    else if tag = Tag.float then
      if isFloat s then return .number else wanted "a float"
    else if tag = Tag.null then
      if isNullWord s then return .nothing else wanted "null"
    else if tag.isOwn && plain then resolvedContent s
    else return .text (String.ofList s)

/-- The resolved value of a node, all of whose nodes have to have one: a value deep inside a
collection is refused although only the collection is reported. Tags with a word of the document's
own are refused (`hasWord`). -/
def content (depth : Nat) (tree : Tree) : Reading Content := do
  match ← resolved tree with
  | .scalar tag plain s =>
    if hasWord tag then wanted "an untagged value" else scalarContent tag plain s
  | .sequence tag items =>
    if hasWord tag then wanted "an untagged value"
    else
      match depth with
      | 0 => throw .tooDeep
      | left + 1 =>
        items.forM fun item => discard (content left item)
        return .collection
  | .mapping tag entries =>
    if hasWord tag then wanted "an untagged value"
    else
      match depth with
      | 0 => throw .tooDeep
      | left + 1 =>
        entries.forM fun (key, value) => do
          discard (content left key)
          discard (content left value)
        return .collection
  | .copy _ => wanted "a node"

/-! ### Records -/

/-- The entries of a mapping whose keys are fields, and the others, both in their order. A field's
key may come once. The others may repeat one another, because nothing has claimed them yet;
`contentFields` looks at them. -/
def splitFields (keys : List String) :
    List (Tree × Tree) → Reading (List (String × Tree) × List (String × Tree))
  | [] => return ([], [])
  | (key, value) :: rest => do
    let key ← text key
    let (fields, others) ← splitFields keys rest
    if keys.contains key then
      if fields.any (fun field => field.1 = key) then throw (.repeatedKey key)
      else return ((key, value) :: fields, others)
    else return (fields, (key, value) :: others)

/-- One field, or the default where it is not given. `decode` is not run for the default, which
therefore needs no text of its own. -/
def field {α β : Type} (fields : List (String × β)) (key : String) (decode : β → Reading α)
    (default : α) : Reading α :=
  match fields.lookup key with
  | some value => decode value
  | none => return default

/-- The values of entries, resolved to `Content`. They are resolved whether or not a field takes
them, so an entry that nothing claims can still refuse a document. -/
def contents (depth : Nat) (entries : List (String × Tree)) : Reading (List (String × Content)) :=
  entries.mapM fun (key, value) => return (key, ← content depth value)

/-- The resolved fields with one of the keys, each of which may come once. Entries with other keys
are dropped, unlike in `splitFields`. -/
def contentFields (keys : List String) :
    List (String × Content) → Reading (List (String × Content))
  | [] => return []
  | (key, value) :: rest => do
    let fields ← contentFields keys rest
    if keys.contains key then
      if fields.any (fun field => field.1 = key) then throw (.repeatedKey key)
      else return (key, value) :: fields
    else return fields

/-- A resolved truth value. A quoted word is a `Content.text` by now and is refused. -/
def contentBool : Content → Reading Bool
  | .bool value => return value
  | _ => wanted "a boolean"

/-- A resolved text, or nothing. Numbers are refused, so that a version has to be quoted, where
`optionalText` would take the number as it is written. -/
def contentOptionalText : Content → Reading (Option String)
  | .nothing => return none
  | .text s => return some s
  | _ => wanted "a string"

/-- Reads the outermost node of a document. A hundred copies may be looked up for every event of it,
and the depth is `depthLimit`. -/
def ofDocument {α : Type} (document : Document) (decode : Nat → Tree → Reading α) :
    Except ReadError α :=
  (fun result => result.1) <$> decode depthLimit document.root document (document.events * 100)

end Reading

end WrapperModel.Yaml
