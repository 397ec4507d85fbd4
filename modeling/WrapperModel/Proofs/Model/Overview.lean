import Mathlib.Data.List.MinMax
import Mathlib.Order.Nat
import WrapperModel.Model.Output
import WrapperModel.Proofs.Text.Bytes

/-!
# `WrapperModel.Proofs.Model.Overview`: the lines of an overview

The name column of an overview is as wide as the longest task name takes bytes, but a name is filled
up by characters. No name has more characters than bytes, so every name has room in the column, and
the numbers of properties stand below each other, whatever characters the names are written in. The
column is wider than it has to be if the names hold characters of several bytes.

A column cannot be wider than `widestColumn`. A longer name leaves the tool without an overview.

* `isWidest_nameWidth`: the column is as wide as the longest name.
* `isRow_tableRow`: the line of a task in a column in which its name has room.
* `isAligned_table`: the lines of an overview.
* `overview_aligned`: which tools have an overview, and what it is.
-/

set_option autoImplicit false

namespace WrapperModel.Model

open WrapperModel.Text

/-! ### The longest name -/

/-- The longest name of a task takes that many bytes: some name does, and none takes more. -/
structure IsWidest (tasks : List Task) (width : Nat) : Prop where
  reached : ∃ task ∈ tasks, task.postfixName.utf8ByteSize = width
  bounds : ∀ task ∈ tasks, task.postfixName.utf8ByteSize ≤ width

/-- A bound of the longest name is one of all names, since the longest is one of them. -/
theorem IsWidest.le_iff {tasks : List Task} {width bound : Nat} (h : IsWidest tasks width) :
    width ≤ bound ↔ ∀ task ∈ tasks, task.postfixName.utf8ByteSize ≤ bound := by
  constructor
  · intro hwidth task htask
    exact Nat.le_trans (h.bounds task htask) hwidth
  · intro hall
    obtain ⟨task, htask, hwidth⟩ := h.reached
    exact hwidth ▸ hall task htask

/-- The name column is as wide as the longest name. Without tasks the column is zero wide and there
is no longest name. -/
theorem isWidest_nameWidth {tasks : List Task} (hsome : tasks ≠ []) :
    IsWidest tasks (nameWidth tasks) where
  reached := by
    have hsizes : (tasks.map fun task => task.postfixName.utf8ByteSize) ≠ [] :=
      mt List.map_eq_nil_iff.1 hsome
    -- The fold begins with the least of all numbers, so it comes to one of the sizes.
    exact List.mem_map.1 (List.maximum_mem (List.foldr_max_of_ne_nil hsizes).symm)
  bounds := fun _ htask =>
    List.le_max_of_le (List.mem_map_of_mem htask) (Nat.le_refl _)

/-! ### Lines -/

/-- The front of a line: two spaces, the whole name and more spaces. `filling` is the number of the
last ones. -/
def nameField (filling : Nat) (task : Task) : String :=
  "  " ++ task.postfixName ++ String.ofList (List.replicate filling ' ')

/-- The number of properties in a line, with three places. A number of four digits takes one place
more. -/
def countField (task : Task) : String :=
  padLeft 3 (toString task.settingsClass.properties.length) ++ " props"

/-- The line of a task. Its front ends at the column, counted in characters, and there the number of
properties stands. -/
def IsRow (column : Nat) (task : Task) (row : String) : Prop :=
  ∃ filling, (nameField filling task).toList.length = column ∧
    row = nameField filling task ++ countField task ++ "  " ++ task.definiteArgument ++ "\n"

/-- A name has room in a column that is as wide as the name takes bytes, since it has no more
characters than bytes. -/
theorem isRow_tableRow {width : Nat} {task : Task}
    (hroom : task.postfixName.utf8ByteSize ≤ width) :
    IsRow (2 + width + 2) task (task.tableRow width) := by
  have hchars : task.postfixName.toList.length ≤ width :=
    Nat.le_trans (length_le_utf8ByteSize task.postfixName) hroom
  -- The name is filled up to the width, and two more spaces stand before the number.
  refine ⟨width - task.postfixName.toList.length + 2, ?_, ?_⟩
  · simp only [nameField, String.toList_append, String.toList_ofList, List.length_append,
      List.length_replicate]
    have hindent : "  ".toList.length = 2 := rfl
    omega
  · have hgap : String.ofList (List.replicate 2 ' ') = "  " := rfl
    have hunit : " props  " = " props" ++ "  " := rfl
    simp only [Task.tableRow, padRight, nameField, countField, List.replicate_add,
      String.ofList_append, hgap, hunit, String.append_assoc]

/-! ### Overviews -/

/-- What stands above the lines of a tool with tasks: its name, and how many tasks and enumerations
it has. -/
def heading (tool : Tool) : String :=
  "Tool: " ++ tool.name ++ "  Tasks: " ++ toString tool.tasks.length ++ "  Enumerations: " ++
    toString tool.enumerations.length ++ "\n\nTasks:\n"

/-- The text is a heading and one line for each task, in the order of the tasks. In all lines the
number of properties stands at the same column, and each line `IsRow` of its task. -/
def IsAligned (tool : Tool) (text : String) : Prop :=
  ∃ (width : Nat) (row : Task → String), IsWidest tool.tasks width ∧
    text = heading tool ++ String.join (tool.tasks.map row) ∧
    ∀ task ∈ tool.tasks, IsRow (2 + width + 2) task (row task)

/-- The lines of `Tool.table` are aligned, whatever width the column has. Whether the table can be
written at all is another question (`Tool.fits`). -/
theorem isAligned_table {tool : Tool} (hsome : tool.tasks ≠ []) : IsAligned tool tool.table := by
  have hwidest := isWidest_nameWidth hsome
  refine ⟨nameWidth tool.tasks, Task.tableRow (nameWidth tool.tasks), hwidest, ?_, ?_⟩
  · have hbreak : "\n\nTasks:\n" = "\n" ++ "\nTasks:\n" := rfl
    rw [Tool.table, if_neg (mt List.isEmpty_iff.1 hsome), heading, hbreak]
    simp only [String.append_assoc]
  · exact fun task htask => isRow_tableRow (hwidest.bounds task htask)

/-- A tool with tasks has an overview exactly if no name takes more bytes than a column can be wide,
and the lines of its overview are aligned (`IsAligned`). The bound is that of `widestColumn`, and it
counts bytes although the column is filled up by characters. Without tasks there is no line to be
aligned. -/
theorem overview_aligned {tool : Tool} (hsome : tool.tasks ≠ []) :
    ((∃ text, tool.render? .table = some text) ↔
        ∀ task ∈ tool.tasks, task.postfixName.utf8ByteSize ≤ 65535) ∧
      ∀ text, tool.render? .table = some text → IsAligned tool text := by
  have hfits : tool.fits .table = true ↔
      ∀ task ∈ tool.tasks, task.postfixName.utf8ByteSize ≤ 65535 := by
    rw [Tool.fits, decide_eq_true_iff]
    exact (isWidest_nameWidth hsome).le_iff
  rw [← hfits, Tool.render?]
  split
  · rename_i htrue
    refine ⟨iff_of_true ⟨_, rfl⟩ htrue, ?_⟩
    rintro text ⟨⟩
    exact isAligned_table hsome
  · rename_i hfalse
    exact ⟨iff_of_false nofun hfalse, nofun⟩

/-- A tool whose names hold characters of one, two and three bytes, so that bytes and columns
differ. -/
def severalScripts : Tool :=
  { name := "Scripts"
    tasks :=
      [{ postfixName := "Build", definiteArgument := "build" }, { postfixName := "Größe" },
        { postfixName := "構築" }] }

/-- The longest name of `severalScripts` takes seven bytes, and in each line the number stands
behind eleven characters. -/
theorem overview_aligned_severalScripts :
    severalScripts.tasks ≠ [] ∧ (∃ text, severalScripts.render? .table = some text) ∧
      IsAligned severalScripts
        ("Tool: Scripts  Tasks: 3  Enumerations: 0\n\nTasks:\n" ++
          "  Build      0 props  build\n" ++
          "  Größe      0 props  \n" ++
          "  構築         0 props  \n") :=
  ⟨by decide, (overview_aligned (by decide)).1.2 (by decide),
    (overview_aligned (by decide)).2 _ (by decide +kernel)⟩

/-- A tool with one task, whose name is one letter over and over, `count` times. -/
def longName (count : Nat) : Tool :=
  { name := "T", tasks := [{ postfixName := String.ofList (List.replicate count 'a') }] }

/-- The name column of such a tool (`longName`) is as wide as its name has letters. -/
theorem nameWidth_longName (count : Nat) : nameWidth (longName count).tasks = count := by
  have hletter : 'a'.utf8Size = 1 := rfl
  rw [nameWidth, longName, List.map_singleton, utf8ByteSize_replicate, hletter, Nat.mul_one]
  exact Nat.max_zero count

/-- A tool whose only name takes one byte more than a column can be wide (`widestColumn`) has no
overview, aligned or not. -/
theorem no_overview_longName :
    (longName 65536).tasks ≠ [] ∧ (longName 65536).render? .table = none ∧
      ¬ ∃ text, (longName 65536).render? .table = some text ∧ IsAligned (longName 65536) text := by
  have hnone : (longName 65536).render? .table = none := by
    rw [Tool.render?, if_neg]
    rw [Tool.fits, nameWidth_longName]
    decide
  refine ⟨List.cons_ne_nil _ _, hnone, ?_⟩
  rintro ⟨text, hsome, -⟩
  exact Option.some_ne_none text (hsome.symm.trans hnone)

end WrapperModel.Model
