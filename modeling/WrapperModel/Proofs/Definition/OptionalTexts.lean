import WrapperModel.Definition.Document
import WrapperModel.Proofs.Yaml.Reading
import WrapperModel.Proofs.Yaml.Tree

/-!
# `WrapperModel.Proofs.Definition.OptionalTexts`: optional texts without quotes

The aliases of a command and the version that it needs are optional texts, and a document may
write both without quotes. The aliases are a field of the command and are taken as they are
written. The version is one of the flags, whose entries are resolved first, and a text without
quotes may stand for a number or a truth value then.

* `ofDocument_aliases`, `ofDocument_version`: what the two lines give.
* `readAlike_iff`: the two are read alike exactly if the text stands for nothing or for itself.
* `not_readAlike_version`: a version such as `1.25` is refused.
-/

set_option autoImplicit false

namespace WrapperModel.Definition

open WrapperModel.Model (Flags)
open WrapperModel.Text (isBlankText)
open WrapperModel.Yaml (Document IsKey IsPlainLine Part ReadError Reading Reads Resolved isNullWord
  isPlainLine_of_plainAllowed resolve)
open WrapperModel.Yaml.Reading (ComesTo Content gives_entries gives_field
  gives_field_default gives_key gives_splitFields gives_splitFields_of_mem)

/-! ### Documents of two lines -/

/-- A document that names a command, with one line more. The text in that line is written without
quotes, and so is the command. -/
def lineDocument (command key written : String) : String :=
  "command: " ++ command ++ "\n" ++ key ++ ": " ++ written ++ "\n"

/-- A key with a text that is written without quotes, as the reader of documents takes it: a plain
scalar without a tag. -/
def linePart (key written : String) : Part :=
  ⟨key, .word written, [.scalar true written.toList], .scalar none true written.toList⟩

/-- The lines of `lineDocument` are written as a record with two keys would be. -/
theorem lineDocument_eq (command key written : String) :
    lineDocument command key written =
      Yaml.document ([linePart "command" command, linePart key written].map Part.member) := by
  rw [← String.toList_inj]
  simp [lineDocument, Yaml.document, linePart, Part.member, Yaml.membersChars, Yaml.memberChars,
    Yaml.valueChars, Yaml.spaces]

/-- The document of two lines is read as a mapping of two texts. Both texts have to be lines that
can be written without quotes, and the key has to be one. -/
theorem ofText_lineDocument {command key written : String} (hcommand : IsPlainLine command.toList)
    (hkey : IsKey key.toList) (hwritten : IsPlainLine written.toList) :
    ∃ events, Document.ofText (lineDocument command key written) =
      .ok ⟨.mapping none ([linePart "command" command, linePart key written].map Part.entry), [],
        events⟩ := by
  rw [lineDocument_eq]
  refine Yaml.ofText_document (List.cons_ne_nil _ _) ?_ ?_
  · simp only [List.forall_mem_cons, List.not_mem_nil, false_imp_iff, implies_true, and_true]
    exact ⟨(by decide : IsKey "command".toList), hkey⟩
  · simp only [List.forall_mem_cons, List.not_mem_nil, false_imp_iff, implies_true, and_true]
    exact ⟨.word hcommand, .word hwritten⟩

/-! ### The two keys -/

/-- The text, or nothing where it is a spelling of nothing, such as `~` or `null`. It is what
`Reading.optionalText` makes of a plain scalar. -/
def textOrNothing (s : String) : Option String :=
  if isNullWord s.toList then none else some s

/-- What becomes of a text without quotes as a version: it is resolved first, and what stands for a
truth value or a number is refused. -/
def versionOutcome (s : String) : Except ReadError (Option String) :=
  match resolve s.toList with
  | .null | .text => .ok (textOrNothing s)
  | .bool _ | .number => .error (.wanted "a string")
  | .wideNumber => .error (.wanted "a number of 64 bits")

/-- A text is read as a version as it is as aliases, or it is refused. The cases are those of
`resolve`. -/
theorem versionOutcome_cases (s : String) :
    (resolve s.toList = .null ∨ resolve s.toList = .text) ∧
        versionOutcome s = .ok (textOrNothing s) ∨
      ¬(resolve s.toList = .null ∨ resolve s.toList = .text) ∧
        ∃ reason, versionOutcome s = .error reason := by
  rw [versionOutcome]
  -- Each of the five answers belongs to one side.
  cases resolve s.toList <;> simp

/-- `resolve` says that a text stands for nothing exactly if it is a spelling of nothing. The empty
text stands for nothing without being one of the spellings, so it is excluded. -/
theorem resolve_eq_null_iff {cs : List Char} (hne : cs ≠ []) :
    resolve cs = .null ↔ isNullWord cs = true := by
  rw [resolve, List.isEmpty_eq_false_iff.2 hne, Bool.false_or]
  split
  · rename_i hword
    exact iff_of_true rfl hword
  · rename_i hword
    refine iff_of_false ?_ hword
    -- None of the other answers is that the text stands for nothing.
    cases Yaml.boolWord? cs with
    | some value => exact Resolved.noConfusion
    | none =>
      show (if _ then _ else _) ≠ _
      repeat' split
      all_goals exact Resolved.noConfusion

/-- `Reading.optionalText` takes a text without quotes as it is written, unless it is a spelling of
nothing (`textOrNothing`). -/
theorem gives_optionalText_plain {s : String} (hne : s.toList ≠ []) :
    Reading.Gives (Reading.optionalText (.scalar none true s.toList)) (textOrNothing s) := by
  intro document left
  have hread : Reading.optionalText (.scalar none true s.toList) document left =
      .ok (if s.toList.isEmpty || isNullWord s.toList then none
        else some (String.ofList s.toList), left) := rfl
  rw [hread, List.isEmpty_eq_false_iff.2 hne, Bool.false_or, String.ofList_toList]
  rfl

/-- What a text without quotes is resolved to, as a value or an error. Only a whole number that is
too wide is refused here. -/
def contentOutcome (s : String) : Except ReadError Content :=
  match resolve s.toList with
  | .null => .ok .nothing
  | .bool value => .ok (.bool value)
  | .number => .ok .number
  | .wideNumber => .error (.wanted "a number of 64 bits")
  | .text => .ok (.text s)

/-- `Reading.content` of a text without quotes is what `contentOutcome` says, whatever the document
and the levels left. -/
theorem comesTo_content (depth : Nat) (s : String) :
    ComesTo (Reading.content depth (.scalar none true s.toList)) (contentOutcome s) := by
  intro document left
  have hread : Reading.content depth (.scalar none true s.toList) document left =
      Reading.resolvedContent s.toList document left := by
    unfold Reading.content
    rfl
  -- A plain scalar without a tag is what its characters resolve to.
  rw [hread, Reading.resolvedContent, contentOutcome]
  cases resolve s.toList with
  | text =>
    show Except.ok (Content.text (String.ofList s.toList), left) = _
    rw [String.ofList_toList]
    rfl
  | _ => rfl

/-- Where the entries hold the version alone, `flagsOfEntries` gives what becomes of its resolved
value. The other flags are missing and have their defaults. -/
theorem comesTo_flagsOfContent {depth : Nat} {tree : Yaml.Tree} {content : Content}
    {outcome : Except ReadError (Option String)}
    (hcontent : Reading.Gives (Reading.content depth tree) content)
    (hversion : ComesTo (Reading.contentOptionalText content) outcome) :
    ComesTo (flagsOfEntries depth [("min_api_version", tree)])
      (outcome.map fun version => { minApiVersion := version }) := by
  have hcontents : Reading.Gives (Reading.contents depth [("min_api_version", tree)])
      [("min_api_version", content)] := by
    rw [Reading.contents, List.mapM_cons, List.mapM_nil]
    refine Reading.Gives.bind (hcontent.bind (.pure ("min_api_version", content))) ?_
    exact Reading.Gives.bind (.pure []) (.pure _)
  have hfields : Reading.Gives (Reading.contentFields Flags.keys [("min_api_version", content)])
      [("min_api_version", content)] := fun _ _ => rfl
  unfold flagsOfEntries
  refine hcontents.bind_comesTo (hfields.bind_comesTo ?_)
  -- Five flags are missing and come to their defaults; the sixth is the version.
  refine (gives_field_default rfl _ _).bind_comesTo ?_
  refine (gives_field_default rfl _ _).bind_comesTo ?_
  refine (gives_field_default rfl _ _).bind_comesTo ?_
  refine (gives_field_default rfl _ _).bind_comesTo ?_
  refine (gives_field_default rfl _ _).bind_comesTo ?_
  have hfield : ComesTo (Reading.field [("min_api_version", content)] "min_api_version"
      Reading.contentOptionalText none) outcome := hversion
  exact hfield.map _

/-- The version is read by `flagsOfEntries` from its text as `versionOutcome` says. A number that is
too wide is refused before any flag is looked for, and whatever else is refused is refused by the
flag. -/
theorem comesTo_flagsOfEntries (depth : Nat) {s : String} (hne : s.toList ≠ []) :
    ComesTo (flagsOfEntries depth [("min_api_version", .scalar none true s.toList)])
      ((versionOutcome s).map fun version => { minApiVersion := version }) := by
  have hcontent := comesTo_content depth s
  have hnull := resolve_eq_null_iff hne
  rw [contentOutcome] at hcontent
  rw [versionOutcome, textOrNothing]
  cases hresolved : resolve s.toList with
  | null =>
    rw [hresolved] at hcontent hnull
    -- A word for nothing is no version, and neither reading takes it for a text.
    rw [if_pos (hnull.1 rfl)]
    exact comesTo_flagsOfContent hcontent (Reading.Gives.pure none).comesTo
  | text =>
    rw [hresolved] at hcontent hnull
    rw [if_neg fun hword => Resolved.noConfusion (hnull.2 hword)]
    exact comesTo_flagsOfContent hcontent (Reading.Gives.pure (some s)).comesTo
  | bool value =>
    rw [hresolved] at hcontent
    exact comesTo_flagsOfContent hcontent fun _ _ => rfl
  | number =>
    rw [hresolved] at hcontent
    exact comesTo_flagsOfContent hcontent fun _ _ => rfl
  | wideNumber =>
    rw [hresolved] at hcontent
    -- The entry is refused before any field is looked for.
    have hcontents : ComesTo (Reading.contents depth
        [("min_api_version", .scalar none true s.toList)])
        (.error (.wanted "a number of 64 bits")) := by
      rw [Reading.contents, List.mapM_cons]
      exact (hcontent.bind_error _).bind_error _
    unfold flagsOfEntries
    exact hcontents.bind_error _

/-! ### Commands -/

/-- `CommandDefinition.ofTree` reads a command from entries that give it no more than a path,
aliases and flags. The path and the aliases have to be readable; the flags may come to an error. -/
theorem comesTo_ofTree {depth : Nat} {entries : List (Yaml.Tree × Yaml.Tree)}
    {fields others : List (String × Yaml.Tree)} {command : String} {aliases : Option String}
    {outcome : Except ReadError Flags}
    (hsplit : Reading.Gives (Reading.splitFields CommandDefinition.keys entries) (fields, others))
    (hcommand : Reading.Gives (Reading.field fields "command" Reading.text "") command)
    (haliases : Reading.Gives (Reading.field fields "aliases" Reading.optionalText none) aliases)
    (hnone : ∀ key ∈ ["short", "long", "usage", "pname", "plink", "examples", "options",
      "inherited_options", "cname", "clink"], fields.lookup key = none)
    (hflags : ComesTo (flagsOfEntries depth others) outcome) :
    ComesTo (CommandDefinition.ofTree (depth + 1) (.mapping none entries))
      (outcome.map fun flags => { command, aliases, flags }) := by
  simp only [List.forall_mem_cons, List.not_mem_nil, false_imp_iff, implies_true, and_true]
    at hnone
  -- The fields are read in this order, and all of these come to their defaults.
  obtain ⟨hshort, hlong, husage, hparent, hparentLink, hexamples, hoptions, hinherited, hchildren,
    hchildLinks⟩ := hnone
  unfold CommandDefinition.ofTree
  refine (gives_entries depth entries).bind_comesTo (hsplit.bind_comesTo ?_)
  refine hcommand.bind_comesTo (haliases.bind_comesTo ?_)
  refine (gives_field_default hshort _ _).bind_comesTo ?_
  refine (gives_field_default hlong _ _).bind_comesTo ?_
  refine (gives_field_default husage _ _).bind_comesTo ?_
  refine (gives_field_default hparent _ _).bind_comesTo ?_
  refine (gives_field_default hparentLink _ _).bind_comesTo ?_
  refine (gives_field_default hexamples _ _).bind_comesTo ?_
  refine (gives_field_default hoptions _ _).bind_comesTo ?_
  refine (gives_field_default hinherited _ _).bind_comesTo ?_
  refine (gives_field_default hchildren _ _).bind_comesTo ?_
  refine (gives_field_default hchildLinks _ _).bind_comesTo ?_
  exact hflags.map _

/-- The aliases are a field of the command, and no entry is left for the flags. So they are read as
they are written. -/
theorem comesTo_ofTree_aliases (depth : Nat) (command : String) {s : String}
    (hne : s.toList ≠ []) :
    ComesTo (CommandDefinition.ofTree (depth + 1)
        (.mapping none ([linePart "command" command, linePart "aliases" s].map Part.entry)))
      (.ok { command, aliases := textOrNothing s }) := by
  have hsplit : Reading.Gives (Reading.splitFields CommandDefinition.keys
      ([linePart "command" command, linePart "aliases" s].map Part.entry))
      ([linePart "command" command, linePart "aliases" s].map Part.field, []) :=
    gives_splitFields_of_mem (by simp [linePart, CommandDefinition.keys]) (by simp [linePart])
  -- Both keys are fields of the command, so nothing is left for the flags.
  have hflags : ComesTo (flagsOfEntries depth []) (.ok {}) := fun _ _ => rfl
  exact comesTo_ofTree hsplit (gives_field rfl (gives_key command) _)
    (gives_field rfl (gives_optionalText_plain hne) _)
    (by simp [linePart, Part.field, List.lookup_cons]) hflags

/-- The version is no field of the command, so its entry is left for the flags, which come to what
`versionOutcome` says. -/
theorem comesTo_ofTree_version (depth : Nat) (command : String) {s : String}
    (hne : s.toList ≠ []) :
    ComesTo (CommandDefinition.ofTree (depth + 1)
        (.mapping none ([linePart "command" command, linePart "min_api_version" s].map
          Part.entry)))
      ((versionOutcome s).map fun version =>
        { command, flags := { minApiVersion := version } }) := by
  -- The key of the version is none of the fields and is left for the flags.
  have hsplit : Reading.Gives (Reading.splitFields CommandDefinition.keys
      ([linePart "command" command, linePart "min_api_version" s].map Part.entry))
      ([linePart "command" command].map Part.field,
        [linePart "min_api_version" s].map Part.field) :=
    gives_splitFields CommandDefinition.keys (by simp [linePart])
  have hread := comesTo_ofTree hsplit (gives_field rfl (gives_key command) _)
    (gives_field_default rfl _ _) (by simp [linePart, Part.field, List.lookup_cons])
    (comesTo_flagsOfEntries depth hne)
  intro document left
  rw [hread document left]
  cases versionOutcome s <;> rfl

/-- What is read from the tree of a document of two lines is what the document gives, if it names a
command. The levels of collections that may be left do not matter, so the tree may be read at any
depth. -/
theorem ofDocument_lineDocument {command key s : String}
    {outcome : Except ReadError CommandDefinition} (hcommand : IsPlainLine command.toList)
    (hkey : IsKey key.toList) (hs : IsPlainLine s.toList)
    (hread : ∀ depth, ComesTo (CommandDefinition.ofTree (depth + 1)
      (.mapping none ([linePart "command" command, linePart key s].map Part.entry))) outcome)
    (hnamed : ∀ d ∈ outcome.toOption, isBlankText d.command = false) (reference : String) :
    CommandDefinition.ofDocument (lineDocument command key s) reference =
      (outcome.map fun d => d.withReference reference).mapError .unreadable := by
  obtain ⟨events, hdocument⟩ := ofText_lineDocument hcommand hkey hs
  have houtcome : (Document.ofText (lineDocument command key s)).bind
      (Reading.ofDocument · CommandDefinition.ofTree) = outcome := by
    rw [hdocument]
    -- One of the levels that collections may take is used.
    show (fun result => result.1) <$> CommandDefinition.ofTree (127 + 1) _ _ _ = _
    rw [hread 127]
    cases outcome <;> rfl
  rw [CommandDefinition.ofDocument, houtcome]
  cases outcome with
  | error reason => rfl
  | ok d =>
    show (if isBlankText d.command then _ else _) = _
    rw [hnamed d rfl]
    rfl

/-! ### The two documents -/

section Lines

variable {command s : String}

/-- The aliases of a command may be any text: it is taken as it is written, unless it is a spelling
of nothing (`textOrNothing`). -/
theorem ofDocument_aliases (hcommand : IsPlainLine command.toList)
    (hnamed : isBlankText command = false) (hs : IsPlainLine s.toList) (reference : String) :
    CommandDefinition.ofDocument (lineDocument command "aliases" s) reference =
      .ok { command, aliases := textOrNothing s, reference } :=
  ofDocument_lineDocument hcommand (by decide) hs
    (fun depth => comesTo_ofTree_aliases depth command hs.ne_nil)
    (by rintro d ⟨⟩; exact hnamed) reference

/-- The version that a command needs may be any text that does not stand for something else, as
`versionOutcome` says. -/
theorem ofDocument_version (hcommand : IsPlainLine command.toList)
    (hnamed : isBlankText command = false) (hs : IsPlainLine s.toList) (reference : String) :
    CommandDefinition.ofDocument (lineDocument command "min_api_version" s) reference =
      ((versionOutcome s).map fun version =>
        { command, flags := { minApiVersion := version }, reference }).mapError .unreadable := by
  have hread := ofDocument_lineDocument hcommand (by decide) hs
    (fun depth => comesTo_ofTree_version depth command hs.ne_nil)
    (by cases versionOutcome s <;> rintro d ⟨⟩; exact hnamed) reference
  rw [hread]
  cases versionOutcome s <;> rfl

/-- Of two documents, one with aliases and one with a version, both give a definition or neither
does, and where both do the texts are the same. -/
def ReadAlike (withAliases withVersion : Except DefinitionError CommandDefinition) : Prop :=
  ((∃ d, withVersion = .ok d) ↔ ∃ d, withAliases = .ok d) ∧
    ∀ d d', withAliases = .ok d → withVersion = .ok d' → d'.flags.minApiVersion = d.aliases

/-- Without quotes, aliases are always read as they are written (`textOrNothing`). A version is
refused where it stands for a number or a truth value (`versionOutcome`), so the two are read alike
(`ReadAlike`) exactly if the text stands for nothing or for itself, as `resolve` says. The command
has to name something, or both documents are refused for that. -/
theorem readAlike_iff (hcommand : IsPlainLine command.toList)
    (hnamed : isBlankText command = false) (hs : IsPlainLine s.toList) (reference : String) :
    let withAliases :=
      CommandDefinition.ofDocument (lineDocument command "aliases" s) reference
    let withVersion :=
      CommandDefinition.ofDocument (lineDocument command "min_api_version" s) reference
    withAliases = .ok { command, aliases := textOrNothing s, reference } ∧
      withVersion = ((versionOutcome s).map fun version =>
        { command, flags := { minApiVersion := version }, reference }).mapError .unreadable ∧
      (ReadAlike withAliases withVersion ↔
        resolve s.toList = .null ∨ resolve s.toList = .text) := by
  intro withAliases withVersion
  have haliases : withAliases = _ := ofDocument_aliases hcommand hnamed hs reference
  have hversion : withVersion = _ := ofDocument_version hcommand hnamed hs reference
  refine ⟨haliases, hversion, ?_⟩
  -- Either both give the same text, or the version is refused and the aliases are not.
  obtain ⟨hresolved, houtcome⟩ | ⟨hresolved, reason, houtcome⟩ := versionOutcome_cases s
  · refine iff_of_true ?_ hresolved
    rw [haliases, hversion, houtcome]
    refine ⟨iff_of_true ⟨_, rfl⟩ ⟨_, rfl⟩, ?_⟩
    rintro d d' ⟨⟩ ⟨⟩
    rfl
  · refine iff_of_false ?_ hresolved
    rintro ⟨haccepted, -⟩
    obtain ⟨d, hd⟩ := haccepted.2 ⟨_, haliases⟩
    rw [hversion, houtcome] at hd
    cases hd

end Lines

/-- A command of two words and a version that is no number, for which both documents are read alike:
its text stands for itself (`resolve`). -/
theorem readAlike_dockerPs :
    ReadAlike (CommandDefinition.ofDocument "command: docker ps\naliases: v1.25 or later\n" "r")
      (CommandDefinition.ofDocument "command: docker ps\nmin_api_version: v1.25 or later\n"
        "r") := by
  have hcommand : IsPlainLine "docker ps".toList :=
    isPlainLine_of_plainAllowed (by decide) (by decide)
  have hs : IsPlainLine "v1.25 or later".toList :=
    isPlainLine_of_plainAllowed (by decide) (by decide)
  obtain ⟨-, -, halike⟩ := readAlike_iff hcommand (by decide) hs "r"
  exact halike.2 (.inr (by decide))

/-- The number 1.25 is read as aliases when it is written without quotes, and refused as a version.
So the two documents are not `ReadAlike`. -/
theorem not_readAlike_version :
    ¬ReadAlike (CommandDefinition.ofDocument "command: c\naliases: 1.25\n" "r")
      (CommandDefinition.ofDocument "command: c\nmin_api_version: 1.25\n" "r") := by
  have hcommand : IsPlainLine "c".toList :=
    isPlainLine_of_plainAllowed (by decide) (by decide)
  have hs : IsPlainLine "1.25".toList :=
    isPlainLine_of_plainAllowed (by decide) (by decide)
  have haliases : CommandDefinition.ofDocument "command: c\naliases: 1.25\n" "r" =
      .ok { command := "c", aliases := some "1.25", reference := "r" } :=
    ofDocument_aliases hcommand (by decide) hs "r"
  have hversion : CommandDefinition.ofDocument "command: c\nmin_api_version: 1.25\n" "r" =
      .error (.unreadable (.wanted "a string")) :=
    ofDocument_version hcommand (by decide) hs "r"
  rw [haliases, hversion]
  rintro ⟨haccepted, -⟩
  obtain ⟨d, hd⟩ := haccepted.2 ⟨_, rfl⟩
  cases hd

end WrapperModel.Definition
