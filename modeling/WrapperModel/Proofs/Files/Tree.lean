import WrapperModel.Files.Tree

/-!
# `WrapperModel.Proofs.Files.Tree`: what is written can be read

The way to a place goes through directories only. So a path leads to the same place in every
tree in which these still stand, whatever happened to files. Writing a file changes what
stands at one place, where no directory stood.

* `place_mono`: a path leads to the same place wherever all directories still stand.
* `place_put`: so it does once a file stands somewhere.
* `read_write`: the path under which bytes were written gives these bytes.
* `exists_write`: whether bytes can be written depends on the path and not on the bytes.
-/

set_option autoImplicit false

namespace WrapperModel.Files.FileTree

variable {tree : FileTree} {written : Place} {content : ByteArray}

/-! ### Ways -/

/-- `stepInto` sets out from a directory, or it fails. -/
theorem get?_of_stepInto {start stop : Place} {segment : FileName}
    (h : tree.stepInto start segment = .ok stop) : tree.get? start = some .directory := by
  unfold stepInto at h
  split at h
  · cases h
  · cases h
  · assumption

/-- A step leads on to the same place wherever all directories still stand, because it looks at
nothing but the directory from which it sets out. -/
theorem stepInto_mono {changed : FileTree}
    (hdirectories : ∀ place, tree.get? place = some .directory →
      changed.get? place = some .directory)
    {start stop : Place} {segment : FileName} (h : tree.stepInto start segment = .ok stop) :
    changed.stepInto start segment = .ok stop := by
  have hstart := get?_of_stepInto h
  unfold stepInto at h ⊢
  rw [hstart] at h
  rw [hdirectories start hstart]
  exact h

/-- A way of several steps leads on to the same place wherever all directories still stand, by
`stepInto_mono` at each of them. -/
theorem foldlM_stepInto_mono {changed : FileTree}
    (hdirectories : ∀ place, tree.get? place = some .directory →
      changed.get? place = some .directory)
    (segments : List FileName) {start stop : Place}
    (h : segments.foldlM tree.stepInto start = .ok stop) :
    segments.foldlM changed.stepInto start = .ok stop := by
  induction segments generalizing start with
  | nil => exact h
  | cons segment segments ih =>
    rw [List.foldlM_cons] at h ⊢
    -- Each step is taken as before, so the induction is on the parts that are left.
    cases hstep : tree.stepInto start segment with
    | error reason =>
      rw [hstep] at h
      cases h
    | ok next =>
      rw [hstep] at h
      rw [stepInto_mono hdirectories hstep]
      exact ih h

/-- `walk` leads somewhere exactly along the parts of a path that holds something and that
`check` lets pass. -/
theorem walk_eq_ok_iff {σ : Type} {path : Path} {start stop : σ}
    {step : σ → FileName → Except FileError σ} :
    walk path start step = .ok stop ↔
      check path = .ok () ∧ path ≠ [] ∧ (segments path).foldlM step start = .ok stop := by
  unfold walk
  cases check path with
  | error reason => exact iff_of_false (fun h => nomatch h) fun h => nomatch h.1
  | ok checked =>
    -- An empty path leads nowhere, not to where the walk starts.
    by_cases hempty : path = []
    · rw [hempty]
      exact iff_of_false (fun h => nomatch h) fun h => absurd rfl h.2.1
    · simp only [hempty]
      exact ⟨fun h => ⟨trivial, hempty, h⟩, fun h => h.2.2⟩

/-- `place` leads somewhere exactly along the parts of the path, from the root or from the
directory of work. -/
theorem place_eq_ok_iff {path : Path} {stop : Place} :
    tree.place path = .ok stop ↔ check path = .ok () ∧ path ≠ [] ∧
      (segments path).foldlM tree.stepInto (tree.origin path) = .ok stop :=
  walk_eq_ok_iff

/-- A path leads to the same place in another tree in which all directories still stand and which
has the same directory of work. Files may have come or gone: none is passed on the way. -/
theorem place_mono {changed : FileTree} (hwork : changed.work = tree.work)
    (hdirectories : ∀ place, tree.get? place = some .directory →
      changed.get? place = some .directory)
    {path : Path} {stop : Place} (h : tree.place path = .ok stop) :
    changed.place path = .ok stop := by
  obtain ⟨hcheck, hsome, hway⟩ := place_eq_ok_iff.1 h
  have horigin : changed.origin path = tree.origin path := by
    rw [origin, origin, hwork]
  rw [place_eq_ok_iff, horigin]
  exact ⟨hcheck, hsome, foldlM_stepInto_mono hdirectories (segments path) hway⟩

/-- A path leads to the same place once a file was put where no directory stood. -/
theorem place_put (hwritten : tree.get? written ≠ some .directory) {path : Path} {stop : Place}
    (h : tree.place path = .ok stop) :
    (tree.put written (.file content)).place path = .ok stop := by
  have hwork : (tree.put written (.file content)).work = tree.work := rfl
  refine place_mono hwork (fun place hplace => ?_) h
  have hne : place ≠ written := by
    rintro rfl
    exact hwritten hplace
  rw [get?_put_of_ne tree _ hne, hplace]

/-! ### Files -/

/-- A path that ends in no stroke is what `withoutStrokes` leaves of it. -/
theorem withoutStrokes_of_endsInStroke {path : Path} (h : endsInStroke path = false) :
    withoutStrokes path = path := by
  have hlast : path.reverse.head? ≠ some strokeByte := by
    rw [List.head?_reverse]
    simpa [endsInStroke] using h
  unfold withoutStrokes
  cases hreversed : path.reverse with
  | nil => rfl
  | cons b rest =>
    have hne : b ≠ strokeByte := by simpa [hreversed] using hlast
    rw [List.dropWhile_cons_of_neg (by simpa using hne)]
    show (b :: rest).reverse = path
    rw [← hreversed, List.reverse_reverse]

/-- Where `write` succeeds it has put the file in the place that the path names, and no directory
stood there. -/
theorem write_eq_ok {changed : FileTree} {path : Path}
    (h : tree.write path content = .ok changed) :
    ∃ place, tree.place path = .ok place ∧ tree.get? place ≠ some .directory ∧
      changed = tree.put place (.file content) := by
  unfold write at h
  cases hcheck : check path with
  | error reason =>
    rw [hcheck] at h
    cases h
  | ok checked =>
    rw [hcheck] at h
    cases hplace : tree.place (withoutStrokes path) with
    | error reason =>
      rw [hplace] at h
      cases h
    | ok place =>
      rw [hplace] at h
      -- Writing goes on only if the path ends in no stroke and names no directory.
      by_cases hrefused : (endsInStroke path || (tree.get? place).any Entry.isDirectory) = true
      · simp only [bind, Except.bind, hrefused, if_true] at h
        cases h
      · simp only [bind, Except.bind, hrefused] at h
        simp only [Bool.or_eq_true, not_or, Bool.not_eq_true] at hrefused
        refine ⟨place, ?_, ?_, (Except.ok.inj h).symm⟩
        · rw [← withoutStrokes_of_endsInStroke hrefused.1, hplace]
        · intro hdirectory
          rw [hdirectory] at hrefused
          exact absurd hrefused.2 (by decide)

/-- Bytes that are written under a path are read under it: `place_put` brings the path to the same
place again. -/
theorem read_write {changed : FileTree} {path : Path}
    (h : tree.write path content = .ok changed) : changed.read path = .ok content := by
  obtain ⟨place, hplace, hdirectory, rfl⟩ := write_eq_ok h
  have hne : place ≠ [] := by
    rintro rfl
    exact hdirectory rfl
  rw [read, place_put hdirectory hplace]
  simp only [bind, Except.bind, get?_put_self tree (.file content) hne]
  rfl

/-- Whether bytes can be written under a path, and where, does not depend on them. `target` is the
place to which they go, or why there is none. -/
theorem write_eq_map (tree : FileTree) (path : Path) :
    ∃ target : Except FileError Place, ∀ content : ByteArray,
      tree.write path content = target.map fun place => tree.put place (.file content) := by
  -- Where a file goes is decided without a look at its content.
  refine ⟨do
    check path
    let place ← tree.place (withoutStrokes path)
    if endsInStroke path || (tree.get? place).any Entry.isDirectory then throw .isDirectory
    else return place, fun content => ?_⟩
  unfold write
  cases check path with
  | error reason => rfl
  | ok checked =>
    cases tree.place (withoutStrokes path) with
    | error reason => rfl
    | ok place =>
      simp only [bind, Except.bind]
      split <;> rfl

/-- Where some bytes can be written, any others can be. So a text that could be delivered says that
another one can be. -/
theorem exists_write {changed : FileTree} {path : Path}
    (h : tree.write path content = .ok changed) (other : ByteArray) :
    ∃ rewritten, tree.write path other = .ok rewritten := by
  obtain ⟨target, htarget⟩ := tree.write_eq_map path
  rw [htarget] at h ⊢
  cases target with
  | error reason => cases h
  | ok place => exact ⟨_, rfl⟩

/-- Nothing can be written under the empty path, because it leads nowhere. -/
theorem ne_nil_of_write {changed : FileTree} {path : Path}
    (h : tree.write path content = .ok changed) : path ≠ [] := by
  obtain ⟨place, hplace, -⟩ := write_eq_ok h
  exact (place_eq_ok_iff.1 hplace).2.1

/-- A name in an empty directory of work can be written. -/
example (content : ByteArray) :
    ({} : FileTree).write (Text.bytes "wrapper.yaml") content =
      .ok { entries := [([Text.bytes "wrapper.yaml"], .file content)] } :=
  rfl

end WrapperModel.Files.FileTree
