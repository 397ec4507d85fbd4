import WrapperModel.Proofs.Assembly.Incremental

/-!
# `WrapperModel.Proofs.Assembly.Reordering`: the order of the definitions

The task and the reference of a definition are its own, wherever it stands among others. So
definitions in another order give the same tasks and references in that order. Enumerations
of one name are merged, and there the order decides which values are the last, but only where
the values differ.

* `tasks_build`, `references_build`: each definition gives what it gives alone.
* `minedEnumerations_perm`: reordered definitions list the same enumerations.
* `names_build_perm`, `findEnumeration?_eq_of_perm`: what the registry makes of them.
* `build_perm`: two models of the same definitions.
-/

set_option autoImplicit false

namespace WrapperModel.Assembly

open WrapperModel.Model WrapperModel.Naming
open WrapperModel.Definition (CommandDefinition)
open WrapperModel.Enumeration (IsUnanimous latest? latest?_cons latest?_eq_of_perm names
  nodup_eraseDups)

/-! ### Each definition alone -/

/-- The tasks of a model are those that each definition gives alone, side by side. No definition
looks at another. -/
theorem tasks_build (profile : ToolProfile) (definitions : List CommandDefinition) :
    (build profile definitions).tasks = definitions.flatMap fun d => (build profile [d]).tasks := by
  have htasks : ∀ ds : List CommandDefinition, (build profile ds).tasks =
      (ds.flatMap fun d => (commandModel? profile d).toList).map (·.task) := by
    intro ds
    rw [← List.filterMap_eq_flatMap_toList]
    rfl
  simp only [htasks, List.map_flatMap, List.flatMap_singleton]

/-- The references of a model are those that each definition gives alone, side by side like the
tasks. -/
theorem references_build (profile : ToolProfile) (definitions : List CommandDefinition) :
    (build profile definitions).references =
      definitions.flatMap fun d => (build profile [d]).references := by
  show references definitions = definitions.flatMap fun d => references [d]
  induction definitions with
  | nil => rfl
  | cons d rest ih =>
    rw [List.flatMap_cons, ← ih]
    simp only [references, ← List.filter_append, ← List.map_append, List.singleton_append]

/-! ### All definitions together -/

/-- Reordered definitions list the same enumerations in another order, since `minedEnumerations`
goes from definition to definition. -/
theorem minedEnumerations_perm (profile : ToolProfile)
    {definitions reordered : List CommandDefinition} (h : definitions.Perm reordered) :
    (minedEnumerations profile definitions).Perm (minedEnumerations profile reordered) :=
  ((h.filter _).flatMap_right _).filterMap _

/-- Reordered definitions give enumerations of the same names, in another order as a rule: the names
stand in the order in which they first came. -/
theorem names_build_perm (profile : ToolProfile)
    {definitions reordered : List CommandDefinition} (h : definitions.Perm reordered) :
    (names (build profile definitions).enumerations).Perm
      (names (build profile reordered).enumerations) := by
  rw [names_build, names_build, List.perm_ext_iff_of_nodup (nodup_eraseDups _) (nodup_eraseDups _)]
  intro name
  rw [List.mem_eraseDups, List.mem_eraseDups]
  exact (((minedEnumerations_perm profile h).map _).cons "LogLevel").mem_iff

/-- Under a name of which all that is listed has the same values (`IsUnanimous`), reordered
definitions give the same enumeration. The levels of logging count among what is listed, since every
model begins with them. -/
theorem findEnumeration?_eq_of_perm (profile : ToolProfile)
    {definitions reordered : List CommandDefinition} (h : definitions.Perm reordered)
    {name : String}
    (hname : IsUnanimous (ToolProfile.logLevel :: minedEnumerations profile definitions) name) :
    (build profile definitions).findEnumeration? name =
      (build profile reordered).findEnumeration? name := by
  -- Both models have what came last in their histories, and these are reordered, too.
  have hlatest : ∀ ds : List CommandDefinition, (build profile ds).findEnumeration? name =
      latest? (ToolProfile.logLevel :: minedEnumerations profile ds) name := by
    intro ds
    rw [findEnumeration?_build, latest?_cons]
    simp only [ToolProfile.logLevel, eq_comm]
  rw [hlatest, hlatest]
  exact latest?_eq_of_perm ((minedEnumerations_perm profile h).cons _) hname

/-- Definitions in another order give the same model but for the order of what belongs to single
definitions, and for enumerations about which they disagree. Tasks and references are what `build`
gives of each definition alone, in the order of the definitions. The enumerations have the same
names, and the same values wherever all that is listed under a name, the levels of logging included,
has the same values (`IsUnanimous`). Where definitions disagree, the last one decides, and which one
is last depends on the order. All else is the same. -/
theorem build_perm (profile : ToolProfile) {definitions reordered : List CommandDefinition}
    (h : definitions.Perm reordered) :
    let built := build profile definitions
    let other := build profile reordered
    (built.tasks = definitions.flatMap (fun d => (build profile [d]).tasks) ∧
      other.tasks = reordered.flatMap (fun d => (build profile [d]).tasks) ∧
      built.tasks.Perm other.tasks) ∧
    (built.references = definitions.flatMap (fun d => (build profile [d]).references) ∧
      other.references = reordered.flatMap (fun d => (build profile [d]).references) ∧
      built.references.Perm other.references) ∧
    (names built.enumerations).Perm (names other.enumerations) ∧
    (∀ name,
      IsUnanimous (ToolProfile.logLevel :: minedEnumerations profile definitions) name →
        built.findEnumeration? name = other.findEnumeration? name) ∧
    other = { built with
      tasks := other.tasks
      references := other.references
      enumerations := other.enumerations } := by
  intro built other
  have htasks := tasks_build profile
  have hreferences := references_build profile
  refine ⟨⟨htasks _, htasks _, ?_⟩, ⟨hreferences _, hreferences _, ?_⟩,
    names_build_perm profile h, fun name => findEnumeration?_eq_of_perm profile h, rfl⟩
  · rw [htasks definitions, htasks reordered]
    exact h.flatMap_right _
  · rw [hreferences definitions, hreferences reordered]
    exact h.flatMap_right _

/-- A command whose options list values for `Level` and for `Format`. Two of them agree about one
name and disagree about the other. -/
def showing (command formats : String) : CommandDefinition :=
  { CommandDefinition.ofUsage command (command ++ " [OPTIONS]") with
    reference := command
    options :=
      [{ name := "level", description := some "Level (\"low\"|\"high\")" },
        { name := "format", description := some formats }] }

/-- Two commands that agree about `Level` and not about `Format`, in either order: one enumeration
stays, the other changes. -/
theorem build_showing_reordered :
    let text := showing "docker a" "Format (\"text\"|\"json\")"
    let json := showing "docker b" "Format (\"json\"|\"text\")"
    [text, json].Perm [json, text] ∧
      (build {} [text, json]).tasks.Perm (build {} [json, text]).tasks ∧
      (build {} [text, json]).references = ["docker a", "docker b"] ∧
      (build {} [json, text]).references = ["docker b", "docker a"] ∧
      IsUnanimous (ToolProfile.logLevel :: minedEnumerations {} [text, json]) "Level" ∧
      (build {} [text, json]).findEnumeration? "Level" =
        (build {} [json, text]).findEnumeration? "Level" ∧
      (build {} [text, json]).findEnumeration? "Format" ≠
        (build {} [json, text]).findEnumeration? "Format" := by
  intro text json
  have hperm : [text, json].Perm [json, text] := .swap json text []
  have hlevel : IsUnanimous (ToolProfile.logLevel :: minedEnumerations {} [text, json])
      "Level" := by
    unfold IsUnanimous
    decide +kernel
  -- The two definitions disagree on one enumeration and agree on the other one.
  obtain ⟨⟨-, -, htasks⟩, -, -, hsame, -⟩ := build_perm {} hperm
  exact ⟨hperm, htasks, by decide +kernel, by decide +kernel, hlevel, hsame "Level" hlevel,
    by decide +kernel⟩

end WrapperModel.Assembly
