import WrapperModel.Proofs.Assembly.Hints
import WrapperModel.Proofs.Assembly.PlaceholderNames
import WrapperModel.Proofs.Model.Rows

/-!
# `WrapperModel.Proofs.Assembly.PropertyRows`: the rows of a built model

The row of a property has four cells as long as no cell holds a bar. Names, types and forms are
made so that they hold none. The help of an option is its description, and the help of a
placeholder is the placeholder itself, with the bars between its alternatives.

* `hasPlainCells_optionProperty`, `hasPlainCells_placeholderProperty`: the cells in front of the
  help hold no bar.
* `mem_placeholderHelp_iff`: the help of a placeholder holds a bar exactly if the placeholder does
  and has no sentence of its own.
* `rowCells_markdownRow_iff`: the row of a property is read back as its four cells exactly if it
  is not that of such a placeholder.
-/

set_option autoImplicit false

namespace WrapperModel.Assembly

open WrapperModel.Text WrapperModel.Model WrapperModel.Naming WrapperModel.Usage
open WrapperModel.Definition (OptionDefinition CommandDefinition)

/-! ### Options -/

/-- Neither the name of the option nor its description holds a bar. The name goes into the name, the
form and possibly the type of its property, the description into the help. -/
def HasNoBar (o : OptionDefinition) : Prop :=
  '|' ∉ o.name.toList ∧ ∀ description ∈ o.description, '|' ∉ description.toList

/-- A text for readers holds characters of the text that `helpLine?` makes it from, and no others.
So a bar in the help comes from a bar in the description. -/
theorem mem_of_mem_helpLine? {text line : String} (h : helpLine? text = some line) {c : Char}
    (hc : c ∈ line.toList) : c ∈ text.toList := by
  simp only [helpLine?] at h
  split at h
  · simp at h
  · obtain rfl := Option.some.inj h
    -- Trimming and leaving out breaks only remove characters.
    rw [trim, trimWhere, String.toList_ofList] at hc
    have hkept := mem_of_mem_strip hc
    rw [removeNewLines, String.toList_ofList] at hkept
    exact (List.mem_filter.1 hkept).1

/-- No type of the table of tags is shown with a bar. An enumeration is shown by its name, which
comes from the option. -/
theorem not_mem_display_mapping (type : ValueType) : '|' ∉ type.mapping.type.display.toList := by
  cases type <;> simp [ValueType.mapping, PropertyType.display]

/-- Name, form and help of an option's property do not depend on its type, whichever way
`optionProperty` takes. The four cells of a row but the type are covered by it. -/
theorem optionProperty_texts (o : OptionDefinition) :
    (optionProperty o).1.name = pascalCase o.name '-' ∧
      (optionProperty o).1.format = optionFormat o.name ∧
      (optionProperty o).1.help = helpLine? (o.description.getD "") := by
  simp only [optionProperty]
  split <;> simp only [and_self]

/-- The property of an option without bars (`HasNoBar`) has none in its cells, help included. -/
theorem hasPlainCells_optionProperty {o : OptionDefinition} (h : HasNoBar o) :
    (optionProperty o).1.HasPlainCells ∧
      '|' ∉ ((optionProperty o).1.help.getD "").toList := by
  obtain ⟨hname, hdescription⟩ := h
  have hpascal : '|' ∉ (pascalCase o.name '-').toList := by
    rw [pascalCase, String.toList_ofList]
    exact mt (mem_of_mem_pascalChars (isCaseless_of_mem (by simp))) hname
  have hformat : '|' ∉ (optionFormat o.name).toList := by
    simp [optionFormat, ToolProfile.bareValue, hname]
  -- A help line consists of characters of the description, if there is one.
  have hhelp : '|' ∉ ((helpLine? (o.description.getD "")).getD "").toList := by
    cases hline : helpLine? (o.description.getD "") with
    | none => simp
    | some line =>
      intro hbar
      have htext := mem_of_mem_helpLine? hline hbar
      cases hsome : o.description with
      | none => simp [hsome] at htext
      | some description =>
        rw [hsome] at htext
        exact hdescription description hsome htext
  have htype : '|' ∉ (optionProperty o).1.type.display.toList := by
    -- an enumeration is shown by its name, which is that of the property
    rcases optionProperty_cases o with ⟨_, -, htype, -⟩ | ⟨htype, -⟩ <;> rw [htype]
    · exact hpascal
    · exact not_mem_display_mapping _
  obtain ⟨hnamed, hformed, hhelped⟩ := optionProperty_texts o
  rw [hhelped]
  exact ⟨⟨hnamed ▸ hpascal, htype, hformed ▸ hformat⟩, hhelp⟩

/-! ### Placeholders -/

/-- The placeholder is one of those whose help is a sentence. Two of them are so in one command
only, which depends on the program. -/
def HasSentence (profile : ToolProfile) (d : CommandDefinition) (p : Parameter) : Prop :=
  p.raw = "PATH|URL|-" ∨
    (p.raw = "[file|-]" ∧ (d.command = profile.executable ++ " secret create" ∨
      d.command = profile.executable ++ " config create"))

/-- The help of a placeholder is one of three sentences where it `HasSentence`, and else the
placeholder itself. The sentences hold no bar. -/
theorem placeholderHelp_cases (profile : ToolProfile) (d : CommandDefinition) (p : Parameter) :
    (HasSentence profile d p ∧ '|' ∉ (placeholderHelp profile d p).toList) ∨
      (¬HasSentence profile d p ∧ placeholderHelp profile d p = removeNewLines p.raw) := by
  unfold placeholderHelp HasSentence
  simp only [Bool.and_eq_true, decide_eq_true_eq]
  -- The three kinds of sentence in the order in which they are tried, and the item itself behind
  -- them.
  split
  · rename_i h
    exact .inl ⟨.inr ⟨h.1, .inl h.2⟩, by decide⟩
  · rename_i hsecret
    split
    · rename_i h
      exact .inl ⟨.inr ⟨h.1, .inr h.2⟩, by decide⟩
    · rename_i hconfig
      split
      · rename_i h
        exact .inl ⟨.inl h, by decide⟩
      · rename_i hpath
        refine .inr ⟨?_, rfl⟩
        rintro (h | ⟨h, h' | h'⟩)
        · exact hpath h
        · exact hsecret ⟨h, h'⟩
        · exact hconfig ⟨h, h'⟩

/-- The help of a placeholder holds a bar exactly if the placeholder does and its help is no
sentence (`HasSentence`). The sentences are fixed texts without bars. -/
theorem mem_placeholderHelp_iff {profile : ToolProfile} {d : CommandDefinition} {p : Parameter} :
    '|' ∈ (placeholderHelp profile d p).toList ↔
      '|' ∈ p.raw.toList ∧ ¬HasSentence profile d p := by
  rcases placeholderHelp_cases profile d p with ⟨hsentence, hfree⟩ | ⟨hnone, hraw⟩
  · simp [hsentence, hfree]
  · simp [hnone, hraw, removeNewLines]

/-- The property of a placeholder has no bar in front of its help: its name is cut at bars, and its
type and form are fixed words. -/
theorem hasPlainCells_placeholderProperty (profile : ToolProfile) (d : CommandDefinition)
    {p : Parameter} (hp : p ∈ ofTemplate d.usage) :
    (placeholderProperty profile d p).HasPlainCells := by
  refine ⟨not_mem_placeholderPropertyName hp (by simp), ?_, ?_⟩
  · show '|' ∉ (placeholderType p).display.toList
    unfold placeholderType
    split
    · decide
    · split <;> decide
  · show '|' ∉ ToolProfile.bareValue.toList
    decide

/-- The property is that of a placeholder which is shown with the bars between its alternatives, as
`placeholderHelp` shows all placeholders that have no sentence. -/
def FromAlternation (profile : ToolProfile) (d : CommandDefinition) (q : Property) : Prop :=
  ∃ p ∈ ofTemplate d.usage, '|' ∈ p.raw.toList ∧ ¬HasSentence profile d p ∧
    q = placeholderProperty profile d p

/-! ### Rows -/

/-- A property of a task has no bar in front of its help, and none in it unless it is that of an
alternation. The options are asked not to hold bars, because theirs would come through as well. -/
theorem bars_of_mem_properties {profile : ToolProfile} {d : CommandDefinition}
    (hfree : ∀ o ∈ d.options, HasNoBar o) {model : CommandModel}
    (hmodel : commandModel? profile d = some model) {q : Property}
    (hq : q ∈ model.task.settingsClass.properties) :
    q.HasPlainCells ∧ ('|' ∈ (q.help.getD "").toList → FromAlternation profile d q) := by
  rcases mem_properties_commandModel? hmodel hq with ⟨o, ho, rfl⟩ | ⟨p, hp, -, -, rfl⟩
  · obtain ⟨hcells, hhelp⟩ := hasPlainCells_optionProperty (hfree o ho)
    exact ⟨hcells, fun hbar => absurd hbar hhelp⟩
  · refine ⟨hasPlainCells_placeholderProperty profile d hp, fun hbar => ?_⟩
    obtain ⟨hraw, hsentence⟩ := mem_placeholderHelp_iff.1 hbar
    exact ⟨p, hp, hraw, hsentence, rfl⟩

/-- The property of an alternation has a bar in its help. With `bars_of_mem_properties` this says
exactly which properties have one. -/
theorem mem_help_of_fromAlternation {profile : ToolProfile} {d : CommandDefinition} {q : Property}
    (h : FromAlternation profile d q) : '|' ∈ (q.help.getD "").toList := by
  obtain ⟨p, -, hraw, hsentence, rfl⟩ := h
  exact mem_placeholderHelp_iff.2 ⟨hraw, hsentence⟩

/-- Where no option holds a bar in its name or description (`HasNoBar`), the rows on the page of a
built model have five bars and as many cells as the head, but for the rows of alternations
(`FromAlternation`): each bar of their help is one bar more, and they do not read back as the cells
of their property. A bar of an option would be one more as well, so nothing is said of options that
have one. -/
theorem rowCells_markdownRow_iff {profile : ToolProfile} {definitions : List CommandDefinition}
    (hfree : ∀ d ∈ definitions, ∀ o ∈ d.options, HasNoBar o) {task : Task}
    (htask : task ∈ (build profile definitions).tasks) {q : Property}
    (hq : q ∈ task.settingsClass.properties) :
    q.markdownRow.toList <:+: ((build profile definitions).render .markdown).toList ∧
      q.markdownRow.toList.count '|' = 5 + (q.help.getD "").toList.count '|' ∧
      (q.markdownRow.toList.count '|' = 5 ↔ ¬∃ d ∈ definitions, FromAlternation profile d q) ∧
      ((rowCells q.markdownRow).length = (rowCells propertyHead).length ↔
        ¬∃ d ∈ definitions, FromAlternation profile d q) ∧
      (rowCells q.markdownRow = q.cells ↔ ¬∃ d ∈ definitions, FromAlternation profile d q) := by
  obtain ⟨d, hd, model, hmodel, rfl⟩ := exists_of_mem_tasks htask
  -- A bar can only stand in the help, and only in that of an alternation.
  obtain ⟨hcells, hhelp⟩ := bars_of_mem_properties (hfree d hd) hmodel hq
  have hbar : '|' ∉ (q.help.getD "").toList ↔ ¬∃ d ∈ definitions, FromAlternation profile d q := by
    refine not_congr ⟨fun hmem => ⟨d, hd, hhelp hmem⟩, ?_⟩
    rintro ⟨d, -, h⟩
    exact mem_help_of_fromAlternation h
  refine ⟨Tool.markdownRow_isInfix htask hq, hcells.count_markdownRow, ?_,
    hcells.length_markdownRow_iff.trans hbar, ?_⟩
  · rw [hcells.count_markdownRow, ← hbar, ← List.count_eq_zero]
    omega
  · rw [Property.markdownRow_eq, rowCells_eq_iff (by simp [Property.cells]),
      hcells.forall_cells_iff, hbar]

/-- A command with an option, a placeholder whose alternatives are told in a sentence, and one that
is shown as it is. -/
def inspectNodes : CommandDefinition :=
  { CommandDefinition.ofUsage "docker inspect" "docker inspect [OPTIONS] PATH|URL|- self|NODE" with
    options := [.ofNameAndType "size-limit" "int64"] }

/-- The rows of the option of `inspectNodes` and of the sentence have five bars and read back, the
row of the other placeholder has six and does not. -/
theorem rowCells_markdownRow_inspectNodes :
    ∃ task ∈ (build {} [inspectNodes]).tasks,
      task.settingsClass.properties.map (fun q => (q.name, q.markdownRow.toList.count '|')) =
        [("SizeLimit", 5), ("Path", 5), ("Node", 6)] ∧
      ∀ q ∈ task.settingsClass.properties,
        q.markdownRow.toList <:+: ((build {} [inspectNodes]).render .markdown).toList ∧
        ((rowCells q.markdownRow).length = (rowCells propertyHead).length ↔
          q.markdownRow.toList.count '|' = 5) ∧
        (rowCells q.markdownRow = q.cells ↔ q.markdownRow.toList.count '|' = 5) := by
  have hfree : ∀ d ∈ [inspectNodes], ∀ o ∈ d.options, HasNoBar o := by
    intro d hd o ho
    obtain rfl := List.mem_singleton.1 hd
    obtain rfl := List.mem_singleton.1 ho
    exact ⟨by decide, by simp [OptionDefinition.ofNameAndType]⟩
  have hshown : (build {} [inspectNodes]).tasks.map (fun task => task.settingsClass.properties.map
      fun q => (q.name, q.markdownRow.toList.count '|')) =
        [[("SizeLimit", 5), ("Path", 5), ("Node", 6)]] := by
    decide +kernel
  obtain ⟨task, htasks, hrows⟩ := List.map_eq_singleton_iff.1 hshown
  have htask : task ∈ (build {} [inspectNodes]).tasks := htasks ▸ List.mem_singleton_self task
  refine ⟨task, htask, hrows, fun q hq => ?_⟩
  obtain ⟨hpage, -, hcount, hlength, hcells⟩ := rowCells_markdownRow_iff hfree htask hq
  exact ⟨hpage, hlength.trans hcount.symm, hcells.trans hcount.symm⟩

/-- Not every row has five bars where no option holds one: the help of `self|NODE` has the bar
that stands in the placeholder. -/
theorem count_markdownRow_ne :
    ¬∀ (profile : ToolProfile) (definitions : List CommandDefinition),
      (∀ d ∈ definitions, ∀ o ∈ d.options, HasNoBar o) →
      ∀ task ∈ (build profile definitions).tasks, ∀ q ∈ task.settingsClass.properties,
        q.markdownRow.toList.count '|' = 5 := by
  intro h
  have hrows := h {} [.ofUsage "docker node inspect" "docker node inspect self|NODE"] (by
    intro d hd o ho
    obtain rfl := List.mem_singleton.1 hd
    simp [CommandDefinition.ofUsage] at ho)
  revert hrows
  decide +kernel

end WrapperModel.Assembly
