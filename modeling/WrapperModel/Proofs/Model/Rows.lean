import WrapperModel.Model.Output
import WrapperModel.Proofs.Text.Pieces

/-!
# `WrapperModel.Proofs.Model.Rows`: the rows of tables

A line of a table stands between bars, and bars divide its cells. `rowCells` reads the cells of a
line back. A bar in a cell cannot be told from those between cells, so cells are read back exactly
if they hold none.

* `rowCells_eq_iff`: which cells can be read back from their line.
* `Property.markdownRow_eq`: the row of a property is the line of its four cells.
* `Property.HasPlainCells.count_markdownRow`, `Property.HasPlainCells.length_markdownRow_iff`: how
  many bars stand in such a row, and when it has as many cells as the head.
* `Tool.markdownRow_isInfix`: the rows of all settings stand on the page of the tool.
-/

set_option autoImplicit false

namespace WrapperModel.Model

open WrapperModel.Text

/-! ### Lines of cells -/

/-- The line of some cells: bars between them and around them, and nothing is done to bars inside.
Both `markdownRow` and `propertyHead` have this form. -/
def rowOf (cells : List String) : String :=
  "|" ++ joinWith "|" cells ++ "|\n"

/-- The cells of a line: what stands between its first bar and its last, cut at every bar. It is how
a reader of the table sees it. -/
def rowCells (line : String) : List String :=
  (split '|' line).tail.dropLast

/-- The bars of a line (`rowOf`) divide what the bars of its cells divide, so a bar in a cell
divides the cell. -/
theorem rowCells_rowOf (cells : List String) :
    rowCells (rowOf cells) = split '|' (joinWith "|" cells) := by
  have hline : (rowOf cells).toList =
      [] ++ '|' :: ((joinWith "|" cells).toList ++ '|' :: ['\n']) := by
    simp [rowOf]
  rw [rowCells, split, hline, List.splitOn_append_cons_self, List.splitOn_append_cons_self,
    split]
  -- Nothing stands in front of the first bar, and a line feed behind the last.
  simp [List.splitOn_cons_eq_if_modifyHead]

/-- A line has one cell less than it has bars (`rowCells`), wherever the bars stand. -/
theorem length_rowCells (line : String) : (rowCells line).length = line.toList.count '|' - 1 := by
  have hcells : (line.toList.splitOn '|').length = line.toList.count '|' + 1 :=
    length_splitOnP (· == '|') line.toList
  rw [rowCells, List.length_dropLast, List.length_tail, split, List.length_map, hcells,
    Nat.add_sub_cancel]

/-- The cells of a line are read back exactly if none of them holds a bar. Without any cell there is
a line as well, which is read as one empty cell. -/
theorem rowCells_eq_iff {cells : List String} (hne : cells ≠ []) :
    rowCells (rowOf cells) = cells ↔ ∀ cell ∈ cells, '|' ∉ cell.toList := by
  rw [rowCells_rowOf]
  constructor
  · intro heq cell hcell
    exact not_mem_of_mem_split (heq ▸ hcell)
  · exact split_joinWith rfl hne

/-! ### Rows of properties -/

/-- The line that heads the table of properties. It has four cells, to which the `Property.cells` of
every row should answer. -/
def propertyHead : String := "| Property | Type | Format | Description |\n"

/-- The cells of a property under `propertyHead`: its name, type and form, and its help. -/
def Property.cells (q : Property) : List String :=
  [" `" ++ q.name ++ "` ", " " ++ q.type.display ++ (if q.nullable then "?" else "") ++ " ",
    " `" ++ q.format ++ "` ", " " ++ q.help.getD "" ++ " "]

/-- The row of a property is the line of its `Property.cells`. -/
theorem Property.markdownRow_eq (q : Property) : q.markdownRow = rowOf q.cells := by
  unfold Property.markdownRow
  rw [← String.toList_inj]
  simp [rowOf, Property.cells, joinWith]

/-- Of the cells of a property all but the help hold no bar. Placeholders have such properties
always, and options do if their own texts have no bar; only the help is free text. -/
structure Property.HasPlainCells (q : Property) : Prop where
  name : '|' ∉ q.name.toList
  type : '|' ∉ q.type.display.toList
  format : '|' ∉ q.format.toList

/-- Bars in the help of a property are more bars in its `markdownRow`, beside the five that divide
the cells. -/
theorem Property.HasPlainCells.count_markdownRow {q : Property} (h : q.HasPlainCells) :
    q.markdownRow.toList.count '|' = 5 + (q.help.getD "").toList.count '|' := by
  have hnullable : (if q.nullable then "?" else "").toList.count '|' = 0 := by
    split <;> decide
  unfold Property.markdownRow
  simp only [String.toList_append, List.count_append, List.count_eq_zero.2 h.name,
    List.count_eq_zero.2 h.type, List.count_eq_zero.2 h.format, hnullable]
  -- All other bars are those of the row, one in front of each cell and one at the end.
  have hbars : "| `".toList.count '|' = 1 ∧ "` | ".toList.count '|' = 1 ∧
      " | `".toList.count '|' = 1 ∧ " |\n".toList.count '|' = 1 := by
    decide
  omega

/-- A row has as many cells as the head exactly if the help of its property holds no bar, since each
bar there is one cell more. -/
theorem Property.HasPlainCells.length_markdownRow_iff {q : Property} (h : q.HasPlainCells) :
    (rowCells q.markdownRow).length = (rowCells propertyHead).length ↔
      '|' ∉ (q.help.getD "").toList := by
  have hhead : propertyHead.toList.count '|' = 5 := by decide
  rw [length_rowCells, length_rowCells, h.count_markdownRow, hhead, ← List.count_eq_zero]
  omega

/-- The `cells` of a property hold a bar exactly if its help does, the only cell that can
(`Property.HasPlainCells`). -/
theorem Property.HasPlainCells.forall_cells_iff {q : Property} (h : q.HasPlainCells) :
    (∀ cell ∈ q.cells, '|' ∉ cell.toList) ↔ '|' ∉ (q.help.getD "").toList := by
  have hnullable : '|' ∉ (if q.nullable then "?" else "").toList := by
    split <;> decide
  simp [Property.cells, h.name, h.type, h.format, hnullable]

/-! ### Pages -/

/-- Each of some texts stands in them all together (`String.join`). -/
theorem toList_isInfix_join {texts : List String} {text : String} (h : text ∈ texts) :
    text.toList <:+: (String.join texts).toList := by
  obtain ⟨before, behind, rfl⟩ := List.append_of_mem h
  refine ⟨(String.join before).toList, (String.join behind).toList, ?_⟩
  simp [String.join_append, String.join_cons, String.toList_append]

/-- A table has the head, a rule and the rows, in the order of the properties. Without properties
there is no table. -/
theorem propertyTable_eq {properties : List Property} (h : properties ≠ []) :
    propertyTable properties = propertyHead ++ "|----------|------|--------|-------------|\n" ++
      String.join (properties.map Property.markdownRow) ++ "\n" := by
  unfold propertyTable propertyHead
  rw [if_neg (mt List.isEmpty_iff.1 h)]

/-- The row of each property of a task stands on the page of the tool, as it is. So a row that
breaks shows there. -/
theorem Tool.markdownRow_isInfix {tool : Tool} {task : Task} (htask : task ∈ tool.tasks)
    {q : Property} (hq : q ∈ task.settingsClass.properties) :
    q.markdownRow.toList <:+: (tool.render .markdown).toList := by
  have hrow := toList_isInfix_join (List.mem_map_of_mem (f := Property.markdownRow) hq)
  have htable : q.markdownRow.toList <:+: (propertyTable task.settingsClass.properties).toList := by
    rw [propertyTable_eq (List.ne_nil_of_mem hq)]
    simp only [String.toList_append]
    exact hrow.trans (List.infix_append _ _ _)
  -- The row is in its table, the table in its section, the section on the page.
  have hsection : q.markdownRow.toList <:+: (task.markdown tool.executable).toList := by
    unfold Task.markdown
    simp only [String.toList_append]
    exact htable.trans (List.suffix_append _ _).isInfix
  have hpage := toList_isInfix_join (List.mem_map_of_mem (f := Task.markdown tool.executable) htask)
  show _ <:+: tool.markdown.toList
  unfold Tool.markdown
  simp only [String.toList_append]
  exact hsection.trans (hpage.trans (List.infix_append _ _ _))

end WrapperModel.Model
