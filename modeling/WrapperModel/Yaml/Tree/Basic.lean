import WrapperModel.Yaml.Error
import WrapperModel.Yaml.Tag

/-!
# `WrapperModel.Yaml.Tree.Basic`: the nodes of a document

A node is a scalar, a sequence, a mapping, or a copy of a node that has a name. The names
are numbered, and a `Document` knows the node of every number, so a copy can stand inside
the node that it copies.
-/

set_option autoImplicit false

namespace WrapperModel.Yaml

/-- A node of a document. Collections that are copied stay copies, so the tree of a document is
finite even where a node holds a copy of itself. -/
inductive Tree where
  /-- A scalar: its tag, whether it has neither quotes nor block marks, and its text. -/
  | scalar (tag : Option Tag) (plain : Bool) (text : List Char)
  /-- The node with that number. -/
  | copy (number : Nat)
  | sequence (tag : Option Tag) (items : List Tree)
  | mapping (tag : Option Tag) (entries : List (Tree × Tree))
  deriving Inhabited

/-- The scalar that stands where nothing is written (`Reader.leaveEmpty`). The readers take it for
nothing, or for a collection that holds nothing. -/
def Tree.nothing : Tree :=
  .scalar none true []

/-- A document that was read. The number of its `events` decides how many copies its readers may
look up, so that a short document cannot stand for a huge value. -/
structure Document where
  /-- The outermost node, if there is any text but comments. -/
  root : Tree
  /-- The nodes that copies refer to, by number. -/
  named : List (Nat × Tree)
  /-- The number of scalars and copies, and of the beginnings and ends of collections. -/
  events : Nat

end WrapperModel.Yaml
