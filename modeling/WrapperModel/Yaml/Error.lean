/-!
# `WrapperModel.Yaml.Error`: why a document cannot be read
-/

set_option autoImplicit false

namespace WrapperModel.Yaml

/-- Why a document cannot be read: by its characters, by its lexemes, by its structure, or because
its values are not those that were wanted. `ReadError.message` says it in words. -/
inductive ReadError where
  /-- The bytes are no text, or a character may not stand in a document. -/
  | badCharacter
  /-- A piece of the text is no lexeme where it stands. -/
  | badToken (reason : String)
  /-- The lexemes do not make up a document. -/
  | badStructure (reason : String)
  /-- A name is referred to that no node before has. -/
  | unknownAnchor (name : String)
  /-- A second document follows. -/
  | secondDocument
  /-- Collections are nested too deep. -/
  | tooDeep
  /-- Referred nodes are read too often. -/
  | tooManyRepetitions
  /-- A value of another kind was wanted. -/
  | wanted (kind : String)
  /-- The key of a field comes twice. -/
  | repeatedKey (key : String)
  /-- A choice has no such case. -/
  | unknownCase (name : String)
  deriving Repr, DecidableEq

/-- The reason in words. Where in the document it lies is not part of it, so two documents with one
fault have one message. -/
def ReadError.message : ReadError → String
  | .badCharacter => "control characters are not allowed"
  | .badToken reason => reason
  | .badStructure reason => reason
  | .unknownAnchor name => "unknown anchor " ++ name
  | .secondDocument => "more than one document"
  | .tooDeep => "recursion limit exceeded"
  | .tooManyRepetitions => "repetition limit exceeded"
  | .wanted kind => "expected " ++ kind
  | .repeatedKey key => "duplicate field " ++ key
  | .unknownCase name => "unknown variant " ++ name

end WrapperModel.Yaml
