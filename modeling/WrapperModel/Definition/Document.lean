import WrapperModel.Definition.Basic
import WrapperModel.Definition.Json
import WrapperModel.Text.Blank
import WrapperModel.Yaml.Decode
import WrapperModel.Yaml.Tree.Reader

/-!
# `WrapperModel.Definition.Document`: definitions as documents

A definition is documented as a mapping with the keys of the data form. Texts are taken
as they are written, so that a shorthand `1` or a default value `false` is a text. The
flags are resolved first: a truth value has to be one, and a version without quotes that
looks like a number is refused.

`CommandDefinition.ofDocument` reads a document and stamps where it was found. A document that
names no command is no definition.
-/

set_option autoImplicit false

namespace WrapperModel.Definition

open WrapperModel.Model (Flags)
open WrapperModel.Text (isBlankText)
open WrapperModel.Yaml (Tree Reading ReadError Document)

/-- The flags among the entries of a record that are no fields of its own. All of these entries are
resolved, also those that are no flags, so any of them can be refused. -/
def flagsOfEntries (depth : Nat) (others : List (String × Tree)) : Reading Flags := do
  let fields ← Reading.contentFields Flags.keys (← Reading.contents depth others)
  return {
    deprecated := ← Reading.field fields "deprecated" Reading.contentBool false
    experimental := ← Reading.field fields "experimental" Reading.contentBool false
    experimentalCli := ← Reading.field fields "experimentalcli" Reading.contentBool false
    kubernetes := ← Reading.field fields "kubernetes" Reading.contentBool false
    swarm := ← Reading.field fields "swarm" Reading.contentBool false
    minApiVersion := ← Reading.field fields "min_api_version" Reading.contentOptionalText none }

/-- The option that a node describes. Its own fields are taken as they are written, and
`flagsOfEntries` reads the rest. -/
def OptionDefinition.ofTree (depth : Nat) (tree : Tree) : Reading OptionDefinition := do
  let (entries, depth) ← Reading.entries depth tree
  let (fields, others) ← Reading.splitFields OptionDefinition.keys entries
  return {
    name := ← Reading.field fields "option" Reading.text ""
    shorthand := ← Reading.field fields "shorthand" Reading.optionalText none
    valueType := ← Reading.field fields "value_type" Reading.optionalText none
    defaultValue := ← Reading.field fields "default_value" Reading.optionalText none
    description := ← Reading.field fields "description" Reading.optionalText none
    flags := ← flagsOfEntries depth others }

/-- A list of options, of which the first that cannot be read decides the error. None is left
out. -/
def optionsOfTree (depth : Nat) (tree : Tree) : Reading (List OptionDefinition) := do
  let (items, depth) ← Reading.items depth tree
  items.mapM (OptionDefinition.ofTree depth)

/-- The command that a node describes. As of an option, its own fields are taken as they are
written, and `flagsOfEntries` reads the rest. -/
def CommandDefinition.ofTree (depth : Nat) (tree : Tree) : Reading CommandDefinition := do
  let (entries, depth) ← Reading.entries depth tree
  let (fields, others) ← Reading.splitFields CommandDefinition.keys entries
  return {
    command := ← Reading.field fields "command" Reading.text ""
    aliases := ← Reading.field fields "aliases" Reading.optionalText none
    short := ← Reading.field fields "short" Reading.optionalText none
    long := ← Reading.field fields "long" Reading.optionalText none
    usage := ← Reading.field fields "usage" Reading.text ""
    parentName := ← Reading.field fields "pname" Reading.optionalText none
    parentLink := ← Reading.field fields "plink" Reading.optionalText none
    examples := ← Reading.field fields "examples" Reading.optionalText none
    options := ← Reading.field fields "options" (optionsOfTree depth) []
    inheritedOptions := ← Reading.field fields "inherited_options" (optionsOfTree depth) []
    childNames := ← Reading.field fields "cname" (Reading.texts depth) []
    childLinks := ← Reading.field fields "clink" (Reading.texts depth) []
    flags := ← flagsOfEntries depth others }

/-- Why a document is no definition: it cannot be read as one, or it names no command. -/
inductive DefinitionError where
  /-- It cannot be read as one. -/
  | unreadable (reason : ReadError)
  /-- It names no command. -/
  | missingCommand
  deriving Repr, DecidableEq

/-- The reason in words, which `invalidDefinition` puts behind the name of the file. -/
def DefinitionError.message : DefinitionError → String
  | .unreadable reason => reason.message
  | .missingCommand => "missing command"

/-- The definition in a document that was found at `reference`. A blank path is as good as none. -/
def CommandDefinition.ofDocument (text reference : String) :
    Except DefinitionError CommandDefinition :=
  match (Document.ofText text).bind (Reading.ofDocument · CommandDefinition.ofTree) with
  | .ok d =>
    if isBlankText d.command then .error .missingCommand else .ok (d.withReference reference)
  | .error reason => .error (.unreadable reason)

/-- What is said of a document that is no definition, with the file that it is in. -/
def invalidDefinition (file : String) (reason : DefinitionError) : String :=
  "invalid definition " ++ file ++ ": " ++ reason.message

end WrapperModel.Definition
