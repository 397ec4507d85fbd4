import WrapperModel.Configuration.Document
import WrapperModel.Proofs.Yaml.Reading
import WrapperModel.Proofs.Yaml.Tree

/-!
# `WrapperModel.Proofs.Configuration.Sections`: sections of a configuration read back

Every section of a configuration is a record: it writes all its fields under keys of its own
in a fixed order. The parts of a record say as which lexemes and trees its fields are
written, so a section needs one fact for each field.

* `IsRecord.ofText_document`: the document of a record gives its trees.
* `ToolProfile.gives_ofTree`, `SourceSettings.gives_ofTree`, `OutputSettings.gives_ofTree`,
  `Configuration.gives_ofTree`: the sections and the whole.
-/

set_option autoImplicit false

namespace WrapperModel

open WrapperModel.Model (OutputFormat textNodes)
open WrapperModel.Yaml (Part Reads Reading IsKey Tree Token textToken textTree)
open WrapperModel.Yaml.Reading (Gives gives_text gives_optionalText gives_optionalText_null
  gives_texts gives_field)

/-! ### Fields -/

/-- A field that is a text, with the lexeme and the tree that it is written as (`textToken`,
`textTree`). -/
def textPart (key s : String) : Part :=
  ⟨key, .text s, [textToken s], textTree s⟩

/-- A field that is a text or nothing. Nothing is written as a word, which no text that `styleOf`
writes plainly can be. -/
def optionalPart (key : String) (s : Option String) : Part :=
  ⟨key, optionalNode s, [s.elim (.scalar true "null".toList) textToken],
    s.elim (.scalar none true "null".toList) textTree⟩

/-- A field that is a list of texts. An empty list has brackets, any other is a block with a dash
for each text. -/
def textsPart (key : String) (items : List String) : Part :=
  ⟨key, textNodes items,
    if items.isEmpty then [.flowSequenceStart, .flowSequenceEnd]
    else items.flatMap fun s => [.blockEntry, textToken s],
    .sequence none (items.map textTree)⟩

/-- A field that is a record of its own, a block one level deeper, made of its own `Part`s. A
configuration has three of them. -/
def sectionPart (key : String) (parts : List Part) : Part :=
  ⟨key, .mapping (parts.map Part.member),
    .blockMappingStart :: (parts.flatMap Part.lexemes ++ [.blockEnd]),
    .mapping none (parts.map Part.entry)⟩

/-- A text or nothing is written as such: the `Reads` of its part holds in both cases. -/
theorem reads_optionalPart (key : String) (s : Option String) :
    Reads (optionalPart key s).node (optionalPart key s).tokens (optionalPart key s).tree := by
  cases s with
  | some s => exact .text s
  | none => exact .word (Yaml.isPlainLine_of_plainAllowed (by decide) (by decide))

/-- A list of texts is written as such (`Reads`), with brackets where it is empty or else with
dashes. -/
theorem reads_textsPart (key : String) (items : List String) :
    Reads (textsPart key items).node (textsPart key items).tokens (textsPart key items).tree := by
  cases items with
  | nil => exact .noTexts
  | cons s items => exact .texts (List.cons_ne_nil s items)

/-- A text or nothing is read as it is written, by `gives_optionalText` and
`gives_optionalText_null`. -/
theorem gives_optionalPart (key : String) (s : Option String) :
    Gives (Reading.optionalText (optionalPart key s).tree) s := by
  cases s with
  | some s => exact gives_optionalText s
  | none => exact gives_optionalText_null

/-! ### Records -/

/-- The parts are written as the fields of a record with these keys. The keys are plain words and
differ, so that each part is found under its own. It is all that the reading of a record needs. -/
structure IsRecord (keys : List String) (parts : List Part) : Prop where
  map_key : parts.map Part.key = keys
  isKey : ∀ key ∈ keys, IsKey key.toList
  nodup : keys.Nodup
  reads : ∀ part ∈ parts, Reads part.node part.tokens part.tree

namespace IsRecord

variable {keys : List String} {parts : List Part}

/-- The parts have the keys, and the keys are plain words (`IsKey`). -/
theorem isKey_part (h : IsRecord keys parts) : ∀ part ∈ parts, IsKey part.key.toList := by
  intro part hpart
  refine h.isKey part.key ?_
  rw [← h.map_key]
  exact List.mem_map_of_mem hpart

/-- The fields of a section are read, with the depth that is left for them. One level of depth is
used up by the section itself, and keys that are unknown do not occur. -/
theorem gives_sectionFields (h : IsRecord keys parts) (depth : Nat) :
    Gives (sectionFields keys (depth + 1) (.mapping none (parts.map Part.entry)))
      (parts.map Part.field, depth) := by
  have hmem : ∀ part ∈ parts, part.key ∈ keys := by
    intro part hpart
    rw [← h.map_key]
    exact List.mem_map_of_mem hpart
  -- The keys of a record are all different, so each of them takes its own entry.
  have hnodup : (parts.map Part.key).Nodup := by
    rw [h.map_key]
    exact h.nodup
  exact (Reading.gives_entries depth _).bind
    ((Reading.gives_splitFields_of_mem hmem hnodup).bind (.pure _))

/-- A record in a record is written as such (`Reads`). It has to have a field, since a block cannot
be empty. -/
theorem reads_sectionPart (h : IsRecord keys parts) (hne : parts ≠ []) (key : String) :
    Reads (sectionPart key parts).node (sectionPart key parts).tokens
      (sectionPart key parts).tree :=
  .mapping hne h.isKey_part h.reads

/-- A record that is written as a document is read as the mapping of its trees. It has to have a
field, like a section. -/
theorem ofText_document (h : IsRecord keys parts) (hne : parts ≠ []) :
    ∃ events, Yaml.Document.ofText (Yaml.document (parts.map Part.member)) =
      .ok ⟨.mapping none (parts.map Part.entry), [], events⟩ :=
  Yaml.ofText_document hne h.isKey_part h.reads

end IsRecord

/-! ### The profile of a tool -/

/-- The fields of a profile, in the order of `ToolProfile.keys`, in which they are written. -/
def ToolProfile.parts (profile : ToolProfile) : List Part :=
  [textPart "name" profile.name,
    textPart "executable" profile.executable,
    optionalPart "help" profile.help,
    optionalPart "official_url" profile.officialUrl,
    textsPart "license" profile.license,
    textPart "options_marker" profile.optionsMarker]

/-- A profile is a record (`IsRecord`), whatever its texts are. -/
theorem ToolProfile.isRecord (profile : ToolProfile) :
    IsRecord ToolProfile.keys profile.parts where
  map_key := rfl
  isKey := by decide
  nodup := by decide
  reads := by
    simp only [ToolProfile.parts, List.forall_mem_cons]
    exact ⟨.text _, .text _, reads_optionalPart _ _, reads_optionalPart _ _, reads_textsPart _ _,
      .text _, by simp⟩

/-- A profile is read by `ToolProfile.ofTree` from its section, at any depth with room for the
section and its list. -/
theorem ToolProfile.gives_ofTree (profile : ToolProfile) (depth : Nat) :
    Gives (ToolProfile.ofTree (depth + 2) (.mapping none (profile.parts.map Part.entry)))
      profile := by
  unfold ToolProfile.ofTree
  refine (profile.isRecord.gives_sectionFields (depth + 1)).bind ?_
  -- Each field is found under its key, in the order in which the reader asks for them.
  refine (gives_field rfl (gives_text _) _).bind ?_
  refine (gives_field rfl (gives_text _) _).bind ?_
  refine (gives_field rfl (gives_optionalPart "help" _) _).bind ?_
  refine (gives_field rfl (gives_optionalPart "official_url" _) _).bind ?_
  refine (gives_field rfl (gives_texts depth _) _).bind ?_
  exact (gives_field rfl (gives_text _) _).bind (.pure profile)

/-! ### The settings for definitions -/

/-- The keys of the settings for definitions, in the order in which they are written. -/
def SourceSettings.keys : List String :=
  ["path", "reference", "reference_url", "skip"]

/-- The fields of the settings for definitions, in the order of `SourceSettings.keys`. -/
def SourceSettings.parts (source : SourceSettings) : List Part :=
  [textPart "path" source.path,
    textPart "reference" source.reference,
    textPart "reference_url" source.referenceUrl,
    textsPart "skip" source.skip]

/-- The settings for definitions are a record (`IsRecord`). -/
theorem SourceSettings.isRecord (source : SourceSettings) :
    IsRecord SourceSettings.keys source.parts where
  map_key := rfl
  isKey := by decide
  nodup := by decide
  reads := by
    simp only [SourceSettings.parts, List.forall_mem_cons]
    exact ⟨.text _, .text _, .text _, reads_textsPart _ _, by simp⟩

/-- The settings for definitions are read from their section, at any depth with room for the section
and its list. -/
theorem SourceSettings.gives_ofTree (source : SourceSettings) (depth : Nat) :
    Gives (SourceSettings.ofTree (depth + 2) (.mapping none (source.parts.map Part.entry)))
      source := by
  unfold SourceSettings.ofTree
  refine (source.isRecord.gives_sectionFields (depth + 1)).bind ?_
  refine (gives_field rfl (gives_text _) _).bind ?_
  refine (gives_field rfl (gives_text _) _).bind ?_
  refine (gives_field rfl (gives_text _) _).bind ?_
  exact (gives_field rfl (gives_texts depth _) _).bind (.pure source)

/-! ### The settings for the model -/

/-- The keys of the settings for the model, in the order in which they are written. -/
def OutputSettings.keys : List String :=
  ["path", "format"]

/-- The fields of the settings for the model, in the order of `OutputSettings.keys`. -/
def OutputSettings.parts (output : OutputSettings) : List Part :=
  [optionalPart "path" output.path, textPart "format" output.format.word]

/-- The settings for the model are a record (`IsRecord`). -/
theorem OutputSettings.isRecord (output : OutputSettings) :
    IsRecord OutputSettings.keys output.parts where
  map_key := rfl
  isKey := by decide
  nodup := by decide
  reads := by
    simp only [OutputSettings.parts, List.forall_mem_cons]
    exact ⟨reads_optionalPart _ _, .text _, by simp⟩

/-- The word of a form gives the form. Every form has its own word, which `OutputFormat.word`
writes. -/
theorem gives_formatOfTree (format : OutputFormat) :
    Gives (formatOfTree (textTree format.word)) format := by
  have hword : formatOfTree (textTree format.word) =
      formatOfWord (String.ofList format.word.toList) := rfl
  rw [hword, String.ofList_toList, formatOfWord, OutputFormat.ofWord?_word]
  exact .pure format

/-- The settings for the model are read by `OutputSettings.ofTree` from their section, at any depth
with room for the section. -/
theorem OutputSettings.gives_ofTree (output : OutputSettings) (depth : Nat) :
    Gives (OutputSettings.ofTree (depth + 1) (.mapping none (output.parts.map Part.entry)))
      output := by
  unfold OutputSettings.ofTree
  refine (output.isRecord.gives_sectionFields depth).bind ?_
  refine (gives_field rfl (gives_optionalPart "path" _) _).bind ?_
  exact (gives_field rfl (gives_formatOfTree _) _).bind (.pure output)

/-! ### Configurations -/

namespace Configuration

/-- The keys of a configuration, which are those of its three sections (`sectionPart`). -/
def keys : List String :=
  ["version", "tool", "definitions", "output"]

/-- The fields of a configuration, three of them sections (`sectionPart`). -/
def parts (configuration : Configuration) : List Part :=
  [textPart "version" configuration.version,
    sectionPart "tool" configuration.tool.parts,
    sectionPart "definitions" configuration.source.parts,
    sectionPart "output" configuration.output.parts]

/-- A configuration is a record (`IsRecord`), as its sections are. -/
theorem isRecord (configuration : Configuration) : IsRecord keys configuration.parts where
  map_key := rfl
  isKey := by decide
  nodup := by decide
  reads := by
    simp only [parts, List.forall_mem_cons]
    exact ⟨.text _, configuration.tool.isRecord.reads_sectionPart (List.cons_ne_nil _ _) _,
      configuration.source.isRecord.reads_sectionPart (List.cons_ne_nil _ _) _,
      configuration.output.isRecord.reads_sectionPart (List.cons_ne_nil _ _) _, by simp⟩

/-- A configuration is read by `ofTree` from the mapping of its fields, at any depth with room for
three levels: the document, a section, and a list in it. -/
theorem gives_ofTree (configuration : Configuration) (depth : Nat) :
    Gives (ofTree (depth + 3) (.mapping none (configuration.parts.map Part.entry)))
      configuration := by
  unfold ofTree
  refine (configuration.isRecord.gives_sectionFields (depth + 2)).bind ?_
  refine (gives_field rfl (gives_text _) _).bind ?_
  refine (gives_field rfl (configuration.tool.gives_ofTree depth) _).bind ?_
  refine (gives_field rfl (configuration.source.gives_ofTree depth) _).bind ?_
  exact (gives_field rfl (configuration.output.gives_ofTree (depth + 1)) _).bind
    (.pure configuration)

/-- The document of a configuration is read as that configuration. It is `ofText_document` with the
readings of the three sections behind it. -/
theorem ofText_document_self (configuration : Configuration) :
    ofText configuration.document = .ok configuration := by
  obtain ⟨events, hdocument⟩ := configuration.isRecord.ofText_document (List.cons_ne_nil _ _)
  have hwritten : configuration.document =
      Yaml.document (configuration.parts.map Part.member) := rfl
  rw [ofText, hwritten, hdocument]
  show Reading.ofDocument ⟨.mapping none (configuration.parts.map Part.entry), [], events⟩
    ofTree = _
  -- Three collections are nested, so 125 of the 128 levels are left below.
  have hread := configuration.gives_ofTree 125
    ⟨.mapping none (configuration.parts.map Part.entry), [], events⟩ (events * 100)
  show (fun result => result.1) <$> ofTree 128 (.mapping none (configuration.parts.map Part.entry))
    ⟨.mapping none (configuration.parts.map Part.entry), [], events⟩ (events * 100) = _
  rw [hread]
  rfl

end Configuration

end WrapperModel
