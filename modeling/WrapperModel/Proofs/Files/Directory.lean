import Mathlib.Data.List.Basic
import Mathlib.Data.List.Nodup
import WrapperModel.Proofs.Files.Tree
import WrapperModel.Proofs.Text.Pieces

/-!
# `WrapperModel.Proofs.Files.Directory`: the files in a directory

`FileTree.IsProper` says that a tree is what a tree of files can be: no two things stand at
one place, and places are led to by names that a path can hold. The operations keep that.

* `IsProper.write`, `IsProper.createDirectory`: operations on proper trees give proper trees.
* `place_inDirectory`, `read_inDirectory`: the path of a name in a directory leads to it.
* `isFile_inDirectory_iff`: a file of a directory is seen under its path exactly if the path is
  no longer than paths may be. This is where a file can be lost that stands in a directory.
* `entryNames_eq_ok_iff`, `IsProper.mem_namesIn_iff`, `IsProper.nodup_namesIn`: the listing of a
  directory holds each of the names that stand in it once.
* `IsProper.get?_of_perm`: the order of the things in a tree does not matter.
* `place_refilled`: what files hold does not matter to where paths lead.
-/

set_option autoImplicit false

namespace WrapperModel.Files

open WrapperModel.Text (bytes not_sep_of_mem_splitOnP mem_of_mem_splitOnP)

/-! ### Names -/

/-- A name that a path can hold: it is none of the parts of a path that say something else, holds
neither strokes nor zeros, and is short enough. -/
structure IsFileName (name : FileName) : Prop where
  ne_nil : name ≠ []
  ne_dot : name ≠ [dotByte]
  ne_dots : name ≠ [dotByte, dotByte]
  no_stroke : strokeByte ∉ name
  no_nul : 0 ∉ name
  short : isLongName name = false

instance (name : FileName) : Decidable (IsFileName name) :=
  decidable_of_iff (name ≠ [] ∧ name ≠ [dotByte] ∧ name ≠ [dotByte, dotByte] ∧
      strokeByte ∉ name ∧ 0 ∉ name ∧ isLongName name = false)
    ⟨fun ⟨h₁, h₂, h₃, h₄, h₅, h₆⟩ => ⟨h₁, h₂, h₃, h₄, h₅, h₆⟩,
      fun ⟨h₁, h₂, h₃, h₄, h₅, h₆⟩ => ⟨h₁, h₂, h₃, h₄, h₅, h₆⟩⟩

/-- The path of a name in a directory is the path of the directory and one part more. Behind
a stroke the empty part at the end makes room for the name. The name must hold no stroke, or it
would be several parts. -/
theorem segments_inDirectory (path : Path) {name : FileName} (hname : strokeByte ∉ name) :
    (∃ parts, segments path = parts ++ [[]] ∧ segments (inDirectory path name) = parts ++ [name]) ∨
      segments (inDirectory path name) = segments path ++ [name] := by
  unfold inDirectory segments
  -- A stroke at the end of the directory makes an empty last part, which the name replaces.
  split
  · rename_i hlast
    obtain ⟨before, rfl⟩ := List.getLast?_eq_some_iff.1 hlast
    refine .inl ⟨before.splitOn strokeByte, ?_, ?_⟩
    · rw [List.splitOn_append_cons_self, List.splitOn_nil]
    · rw [List.append_assoc, List.singleton_append, List.splitOn_append_cons_self,
        List.splitOn_eq_singleton hname]
  · rw [List.splitOn_append_cons_self, List.splitOn_eq_singleton hname]
    exact .inr rfl

/-- `inDirectory` puts the name behind the path of the directory, with a stroke between them if
none is there. -/
theorem exists_inDirectory_eq (path : Path) (name : FileName) :
    ∃ strokes, (∀ b ∈ strokes, b = strokeByte) ∧
      inDirectory path name = path ++ (strokes ++ name) := by
  unfold inDirectory
  split
  · exact ⟨[], by simp, rfl⟩
  · exact ⟨[strokeByte], by simp, rfl⟩

/-- A path with strokes behind it. It leads to the same directory as long as it is short enough
(`place_withStrokes`), so the length of a path can be chosen. -/
def withStrokes (path : Path) (count : Nat) : Path :=
  path ++ List.replicate count strokeByte

/-- Strokes behind a path add empty parts to its `segments`, which lead nowhere else
(`foldlM_stepInto_nil`). -/
theorem segments_withStrokes (path : Path) (count : Nat) :
    segments (withStrokes path count) = segments path ++ List.replicate count [] := by
  unfold segments withStrokes
  induction count generalizing path with
  | zero => simp
  | succ count ih =>
    -- The first stroke is taken to the path, so the rest is a path with fewer strokes.
    have hfirst : path ++ List.replicate (count + 1) strokeByte =
        path ++ [strokeByte] ++ List.replicate count strokeByte := by
      rw [List.replicate_succ, List.append_assoc, List.singleton_append]
    rw [hfirst, ih, List.splitOn_append_cons_self, List.splitOn_nil, List.replicate_succ,
      List.append_assoc, List.singleton_append]

/-- Behind a stroke a name stands without another one: `inDirectory` only appends it. -/
theorem inDirectory_withStrokes (path : Path) (name : FileName) (count : Nat) :
    inDirectory (withStrokes path (count + 1)) name = withStrokes path (count + 1) ++ name := by
  have hlast : (withStrokes path (count + 1)).getLast? = some strokeByte := by
    rw [withStrokes, List.replicate_succ', ← List.append_assoc, List.getLast?_concat]
  rw [inDirectory, if_pos hlast]

/-- The entry with another content, if it is a file. A directory stays one, so `FileTree.refilled`
changes no path. -/
def Entry.refilled (content : ByteArray) : Entry → Entry
  | .file _ => .file content
  | .directory => .directory

namespace FileTree

variable {tree : FileTree}

/-! ### Paths -/

/-- `check` lets a path pass if no byte of it is zero and it is short enough, and no other path. -/
theorem check_eq_ok_iff {path : Path} :
    check path = .ok () ↔ 0 ∉ path ∧ isLongPath path = false := by
  unfold check
  split
  · rename_i hnul
    exact iff_of_false (fun h => nomatch h) fun h => h.1 (by simpa using hnul)
  · rename_i hnul
    split
    · rename_i hlong
      exact iff_of_false (fun h => nomatch h) fun h => by simp [hlong] at h
    · rename_i hshort
      exact iff_of_true rfl ⟨by simpa using hnul, by simpa using hshort⟩

/-- A name leads from a directory to the place of that name in it, whether or not something stands
there. `stepInto` only asks where it sets out from. -/
theorem stepInto_name {directory : Place} {name : FileName}
    (hdirectory : tree.get? directory = some .directory) (hname : IsFileName name) :
    tree.stepInto directory name = .ok (directory ++ [name]) := by
  unfold stepInto
  rw [hdirectory]
  simp [hname.ne_nil, hname.ne_dot, hname.ne_dots, hname.short]

/-- An empty part of a path leads nowhere else, if it leads anywhere. It does not where a file
stands (`FileTree.stepInto`). -/
theorem eq_of_stepInto_nil {start stop : Place} (h : tree.stepInto start [] = .ok stop) :
    start = stop := by
  unfold stepInto at h
  rw [get?_of_stepInto h] at h
  exact Except.ok.inj h

/-- What stands behind a path that leads somewhere leads on from there, if the whole is a path
that `check` lets pass. Both set out from the same place, because the path in front is not empty
and so decides whether the whole begins with a stroke. -/
theorem place_append {path behind : Path} {start stop : Place}
    (hplace : tree.place path = .ok start) (hnul : 0 ∉ behind)
    (hshort : isLongPath (path ++ behind) = false)
    (hway : (segments (path ++ behind)).foldlM tree.stepInto (tree.origin path) = .ok stop) :
    tree.place (path ++ behind) = .ok stop := by
  obtain ⟨hcheck, hsome, -⟩ := place_eq_ok_iff.1 hplace
  have hnuls : 0 ∉ path ++ behind := by
    rw [List.mem_append, not_or]
    exact ⟨(check_eq_ok_iff.1 hcheck).1, hnul⟩
  -- Whether a path is absolute shows at its first byte, which stays.
  have horigin : tree.origin (path ++ behind) = tree.origin path := by
    rw [origin, origin, isAbsolute, isAbsolute, List.head?_append_of_ne_nil _ hsome]
  rw [place_eq_ok_iff, horigin]
  exact ⟨check_eq_ok_iff.2 ⟨hnuls, hshort⟩, by simp [hsome], hway⟩

/-- The path of a name in a directory leads to the place of that name, as long as it is no longer
than paths may be. Nothing has to stand there. -/
theorem place_inDirectory {path : Path} {name : FileName} {directory : Place}
    (hplace : tree.place path = .ok directory)
    (hdirectory : tree.get? directory = some .directory) (hname : IsFileName name)
    (hshort : isLongPath (inDirectory path name) = false) :
    tree.place (inDirectory path name) = .ok (directory ++ [name]) := by
  obtain ⟨-, -, hway⟩ := place_eq_ok_iff.1 hplace
  have hlast : [name].foldlM tree.stepInto directory = .ok (directory ++ [name]) := by
    rw [List.foldlM_cons, stepInto_name hdirectory hname]
    rfl
  have hjoined : (segments (inDirectory path name)).foldlM tree.stepInto (tree.origin path) =
      .ok (directory ++ [name]) := by
    rcases segments_inDirectory path hname.no_stroke with ⟨parts, hparts, hlonger⟩ | hlonger
    · -- The path ends in a stroke: its other parts lead to the directory.
      rw [hparts, List.foldlM_append] at hway
      rw [hlonger, List.foldlM_append]
      cases hbefore : parts.foldlM tree.stepInto (tree.origin path) with
      | error reason =>
        rw [hbefore] at hway
        cases hway
      | ok place =>
        rw [hbefore] at hway
        have hsame : place = directory := eq_of_stepInto_nil (by simpa using! hway)
        rw [hsame]
        exact hlast
    · rw [hlonger, List.foldlM_append, hway]
      exact hlast
  obtain ⟨strokes, hstrokes, heq⟩ := exists_inDirectory_eq path name
  have hnul : 0 ∉ strokes ++ name := by
    rw [List.mem_append, not_or]
    exact ⟨fun h => absurd (hstrokes 0 h) (by decide), hname.no_nul⟩
  rw [heq] at hjoined hshort ⊢
  exact place_append hplace hnul hshort hjoined

/-- The path of a file in a directory gives its bytes, as long as it is no longer than paths may be
(`isLongPath`). -/
theorem read_inDirectory {path : Path} {name : FileName} {directory : Place}
    {content : ByteArray} (hplace : tree.place path = .ok directory)
    (hdirectory : tree.get? directory = some .directory) (hname : IsFileName name)
    (hfile : tree.get? (directory ++ [name]) = some (.file content))
    (hshort : isLongPath (inDirectory path name) = false) :
    tree.read (inDirectory path name) = .ok content := by
  unfold read
  rw [place_inDirectory hplace hdirectory hname hshort]
  simp only [bind, Except.bind, hfile]
  rfl

/-- A file that stands in a directory is seen under its path exactly if the path is no longer
than paths may be. A longer path leads nowhere, and then `isFile` says that no file is there. -/
theorem isFile_inDirectory_iff {path : Path} {name : FileName} {directory : Place}
    (hplace : tree.place path = .ok directory)
    (hdirectory : tree.get? directory = some .directory) (hname : IsFileName name) :
    tree.isFile (inDirectory path name) = true ↔
      (∃ content, tree.get? (directory ++ [name]) = some (.file content)) ∧
        isLongPath (inDirectory path name) = false := by
  unfold isFile
  -- A path that is too long leads nowhere, even where a file stands.
  cases hlong : isLongPath (inDirectory path name) with
  | true =>
    have hnowhere : ∀ stop, tree.place (inDirectory path name) ≠ .ok stop := by
      intro stop hstop
      have hshort := (check_eq_ok_iff.1 (place_eq_ok_iff.1 hstop).1).2
      exact absurd (hlong.symm.trans hshort) (by decide)
    cases hjoined : tree.place (inDirectory path name) with
    | error reason => simp
    | ok stop => exact absurd hjoined (hnowhere stop)
  | false =>
    rw [place_inDirectory hplace hdirectory hname hlong]
    dsimp only
    cases tree.get? (directory ++ [name]) with
    | none => simp
    | some entry => cases entry <;> simp [Entry.isFile]

/-- Any number of empty parts leads from a directory nowhere else. So a path can be made as long as
one likes without leading elsewhere. -/
theorem foldlM_stepInto_nil {directory : Place}
    (hdirectory : tree.get? directory = some .directory) (count : Nat) :
    (List.replicate count []).foldlM tree.stepInto directory = .ok directory := by
  -- An empty part stays in a directory; it would fail at a file.
  have hstep : tree.stepInto directory [] = .ok directory := by
    rw [stepInto, hdirectory]
    rfl
  induction count with
  | zero => rfl
  | succ count ih =>
    rw [List.replicate_succ, List.foldlM_cons, hstep]
    exact ih

/-- The path of a directory leads to it with strokes behind it too, as long as it is not too
long. So one directory has paths of many lengths. -/
theorem place_withStrokes {path : Path} {directory : Place}
    (hplace : tree.place path = .ok directory)
    (hdirectory : tree.get? directory = some .directory) {count : Nat}
    (hshort : isLongPath (withStrokes path count) = false) :
    tree.place (withStrokes path count) = .ok directory := by
  obtain ⟨-, -, hway⟩ := place_eq_ok_iff.1 hplace
  have hnul : 0 ∉ List.replicate count strokeByte :=
    fun h => absurd (List.eq_of_mem_replicate h) (by decide)
  refine place_append hplace hnul hshort ?_
  show (segments (withStrokes path count)).foldlM tree.stepInto (tree.origin path) = _
  rw [segments_withStrokes, List.foldlM_append, hway]
  exact foldlM_stepInto_nil hdirectory count

/-! ### Proper trees -/

/-- What a tree of files can be: no two things stand at one place, and all places, that of the
directory of work among them, are led to by names that a path can hold. The operations on files keep
this, so it holds after every run that begins with a proper tree. -/
structure IsProper (tree : FileTree) : Prop where
  distinct : (tree.entries.map Prod.fst).Nodup
  named : ∀ entry ∈ tree.entries, ∀ name ∈ entry.1, IsFileName name
  working : ∀ name ∈ tree.work, IsFileName name

instance (tree : FileTree) : Decidable tree.IsProper :=
  decidable_of_iff ((tree.entries.map Prod.fst).Nodup ∧
      (∀ entry ∈ tree.entries, ∀ name ∈ entry.1, IsFileName name) ∧
        ∀ name ∈ tree.work, IsFileName name)
    ⟨fun ⟨hdistinct, hnamed, hworking⟩ => ⟨hdistinct, hnamed, hworking⟩,
      fun ⟨hdistinct, hnamed, hworking⟩ => ⟨hdistinct, hnamed, hworking⟩⟩

/-- Something stands at a place exactly if it is among the entries of the tree. This needs distinct
places: of two entries at one place only the first is found. -/
theorem IsProper.lookup_eq_some_iff (h : tree.IsProper) {place : Place} {entry : Entry} :
    tree.entries.lookup place = some entry ↔ (place, entry) ∈ tree.entries := by
  constructor
  · intro hlookup
    obtain ⟨before, after, hentries, -⟩ := List.lookup_eq_some_iff.1 hlookup
    simp [hentries]
  · have hdistinct := h.distinct
    generalize tree.entries = entries at hdistinct
    intro hmem
    -- The entry that is looked for is the first, or its place is not that of the first.
    induction entries with
    | nil => cases hmem
    | cons first rest ih =>
      obtain ⟨hfirst, hrest⟩ := List.nodup_cons.1 hdistinct
      rcases List.mem_cons.1 hmem with rfl | hmem
      · exact List.lookup_cons_self
      · have hne : place ≠ first.1 := by
          rintro rfl
          exact hfirst (List.mem_map.2 ⟨_, hmem, rfl⟩)
        rw [List.lookup_cons, beq_false_of_ne hne]
        exact ih hrest hmem

/-- What stands at the place of a name in a directory is the entry of the tree with this name. The
root is no such place, so `get?` looks among the entries. -/
theorem IsProper.get?_eq_some_iff (h : tree.IsProper) {directory : Place} {name : FileName}
    {entry : Entry} :
    tree.get? (directory ++ [name]) = some entry ↔ (directory ++ [name], entry) ∈ tree.entries := by
  rw [← h.lookup_eq_some_iff]
  cases directory <;> rfl

/-- A tree with the entries of a proper one in another order is proper, since `IsProper` says what
holds of each entry and that no two places are the same. -/
theorem IsProper.of_perm (h : tree.IsProper) {other : FileTree}
    (hperm : other.entries.Perm tree.entries) (hwork : other.work = tree.work) :
    other.IsProper where
  distinct := (hperm.map Prod.fst).nodup_iff.2 h.distinct
  named := fun entry hentry => h.named entry (hperm.mem_iff.1 hentry)
  working := hwork ▸ h.working

/-- The order of the things in a tree does not matter to what `get?` finds. It would if two of
them stood at one place, because then the first counts. -/
theorem IsProper.get?_of_perm (h : tree.IsProper) {other : FileTree}
    (hperm : other.entries.Perm tree.entries) (hwork : other.work = tree.work) :
    other.get? = tree.get? := by
  have hother := h.of_perm hperm hwork
  funext place
  cases place with
  | nil => rfl
  | cons first rest =>
    -- No place stands twice in the list, so looking one up is being a member.
    refine Option.ext fun entry => ?_
    show other.entries.lookup _ = _ ↔ tree.entries.lookup _ = _
    rw [hother.lookup_eq_some_iff, h.lookup_eq_some_iff, hperm.mem_iff]

/-- Taking entries away keeps a tree proper, whichever they are, because fewer entries are still
distinct. -/
theorem IsProper.filter (h : tree.IsProper) (kept : Place × Entry → Bool) :
    FileTree.IsProper { tree with entries := tree.entries.filter kept } where
  distinct := h.distinct.sublist (List.filter_sublist.map _)
  named := fun entry hentry => h.named entry (List.mem_filter.1 hentry).1
  working := h.working

/-- When things are taken away, the others stay in their places. The root is excluded, because it is
always there for `get?`. -/
theorem IsProper.get?_filter (h : tree.IsProper) {kept : Place × Entry → Bool} {place : Place}
    (hplace : place ≠ []) {entry : Entry} :
    FileTree.get? { tree with entries := tree.entries.filter kept } place = some entry ↔
      tree.get? place = some entry ∧ kept (place, entry) = true := by
  cases place with
  | nil => exact absurd rfl hplace
  | cons name rest =>
    show (tree.entries.filter kept).lookup _ = _ ↔ tree.entries.lookup _ = _ ∧ _
    rw [(h.filter kept).lookup_eq_some_iff, h.lookup_eq_some_iff, List.mem_filter]

/-- `place` leads to the same places whatever the order of the entries in a tree. -/
theorem IsProper.place_of_perm (h : tree.IsProper) {other : FileTree}
    (hperm : other.entries.Perm tree.entries) (hwork : other.work = tree.work) :
    other.place = tree.place := by
  have hstep : other.stepInto = tree.stepInto := by
    funext place segment
    rw [stepInto, stepInto, h.get?_of_perm hperm hwork]
  funext path
  rw [place, place, origin, origin, hstep, hwork]

/-- `put` keeps a tree proper, if the place is one that names lead to. -/
theorem IsProper.put (h : tree.IsProper) {place : Place} (hplace : ∀ name ∈ place, IsFileName name)
    (entry : Entry) : (tree.put place entry).IsProper where
  distinct := by
    rw [FileTree.put, List.map_cons, List.nodup_cons]
    refine ⟨?_, h.distinct.sublist (List.filter_sublist.map _)⟩
    intro hmem
    obtain ⟨other, hother, heq⟩ := List.mem_map.1 hmem
    simpa [heq] using (List.mem_filter.1 hother).2
  named := by
    rw [FileTree.put]
    refine List.forall_mem_cons.2 ⟨hplace, fun other hother => ?_⟩
    exact h.named other (List.mem_filter.1 hother).1
  working := h.working

/-- The parts of a path that `check` lets pass hold neither strokes nor zeros: strokes because the
path is cut at them, and zeros because there are none. -/
theorem not_mem_of_mem_segments {path : Path} {segment : FileName} (hcheck : check path = .ok ())
    (h : segment ∈ segments path) : strokeByte ∉ segment ∧ 0 ∉ segment := by
  constructor
  · intro hmem
    have hsep : (strokeByte == strokeByte) = false := not_sep_of_mem_splitOnP h _ hmem
    exact absurd hsep (by decide)
  · intro hmem
    exact (check_eq_ok_iff.1 hcheck).1 (mem_of_mem_splitOnP h 0 hmem)

/-- A step along a part of a path leads from a place of names to one. The part must hold neither
strokes nor zeros; that it is short enough is asked by `stepInto` itself. -/
theorem named_stepInto {start stop : Place} {segment : FileName}
    (hstart : ∀ name ∈ start, IsFileName name)
    (hsegment : strokeByte ∉ segment ∧ 0 ∉ segment)
    (h : tree.stepInto start segment = .ok stop) : ∀ name ∈ stop, IsFileName name := by
  have hdirectory := get?_of_stepInto h
  unfold stepInto at h
  rw [hdirectory] at h
  dsimp only at h
  -- Three kinds of parts lead on: those that say nothing, the two dots and the names.
  split at h
  · -- The part says nothing.
    cases h
    exact hstart
  · rename_i hnamed
    simp only [Bool.or_eq_true, decide_eq_true_eq, not_or] at hnamed
    split at h
    · -- The part leads up.
      cases h
      exact fun name hname => hstart name ((List.dropLast_subset start) hname)
    · rename_i hdown
      split at h
      · cases h
      · rename_i hshort
        cases h
        intro name hname
        rcases List.mem_append.1 hname with hname | hname
        · exact hstart name hname
        · rw [List.mem_singleton.1 hname]
          exact ⟨hnamed.1, hnamed.2, hdown, hsegment.1, hsegment.2, by simpa using hshort⟩

/-- What holds at the start of a path and is kept by every step along it holds at the end. The steps
may change a tree, as those of `createInto` do. -/
theorem invariant_of_walk {σ : Type} (Invariant : σ → Prop) {path : Path} {start stop : σ}
    {step : σ → FileName → Except FileError σ} (hstart : Invariant start)
    (hstep : ∀ state segment next, strokeByte ∉ segment ∧ 0 ∉ segment →
      Invariant state → step state segment = .ok next → Invariant next)
    (h : walk path start step = .ok stop) : Invariant stop := by
  obtain ⟨hcheck, -, hway⟩ := walk_eq_ok_iff.1 h
  have hsegments : ∀ segment ∈ segments path, strokeByte ∉ segment ∧ 0 ∉ segment :=
    fun segment hsegment => not_mem_of_mem_segments hcheck hsegment
  -- The parts of the path are taken one by one, and what is known of them all is kept.
  generalize segments path = parts at hway hsegments
  clear h hcheck
  induction parts generalizing start with
  | nil =>
    cases hway
    exact hstart
  | cons segment rest ih =>
    rw [List.foldlM_cons] at hway
    cases hnext : step start segment with
    | error reason =>
      rw [hnext] at hway
      cases hway
    | ok next =>
      rw [hnext] at hway
      have hkept := hstep start segment next (hsegments segment List.mem_cons_self) hstart hnext
      exact ih hkept hway fun segment h => hsegments segment (List.mem_cons_of_mem _ h)

/-- A path sets out from a place of names (`FileTree.origin`), whether that is the root or the
directory of work. The latter is what `working` is for. -/
theorem IsProper.named_origin (h : tree.IsProper) (path : Path) :
    ∀ name ∈ tree.origin path, IsFileName name := by
  unfold origin
  split
  · simp
  · exact h.working

/-- In a proper tree `place` leads to a place of names, whether or not something stands there. -/
theorem IsProper.named_place (h : tree.IsProper) {path : Path} {stop : Place}
    (hplace : tree.place path = .ok stop) : ∀ name ∈ stop, IsFileName name :=
  invariant_of_walk (∀ name ∈ ·, IsFileName name) (h.named_origin path)
    (fun _ _ _ hsegment hstart hstep => named_stepInto hstart hsegment hstep) hplace

/-- Writing a file keeps a tree proper, since the place to which its path leads is one of names. -/
theorem IsProper.write (h : tree.IsProper) {changed : FileTree} {path : Path}
    {content : ByteArray} (hwrite : tree.write path content = .ok changed) : changed.IsProper := by
  obtain ⟨place, hplace, -, rfl⟩ := write_eq_ok hwrite
  exact h.put (h.named_place hplace) _

/-- Making the directory of one part of a path keeps a tree proper and leads to a place of names.
This is the step of `IsProper.createDirectory`. -/
theorem IsProper.createInto (h : tree.IsProper) {place : Place}
    (hplace : ∀ name ∈ place, IsFileName name) {segment : FileName}
    (hsegment : strokeByte ∉ segment ∧ 0 ∉ segment) {next : FileTree × Place}
    (hcreate : FileTree.createInto (tree, place) segment = .ok next) :
    next.1.IsProper ∧ ∀ name ∈ next.2, IsFileName name := by
  cases hstep : tree.stepInto place segment with
  | error reason => simp [FileTree.createInto, hstep, bind, Except.bind] at hcreate
  | ok stop =>
    have hstop := named_stepInto hplace hsegment hstep
    simp only [FileTree.createInto, hstep, bind, Except.bind] at hcreate
    -- A directory is made only where nothing stands.
    split at hcreate
    · cases hcreate
      exact ⟨h.put hstop _, hstop⟩
    · cases hcreate
      exact ⟨h, hstop⟩

/-- Making a directory with those above it keeps a tree proper: each is put where the path leads. -/
theorem IsProper.createDirectory (h : tree.IsProper) {changed : FileTree} {path : Path}
    (hcreate : tree.createDirectory path = .ok changed) : changed.IsProper := by
  unfold FileTree.createDirectory at hcreate
  cases hwalk : walk path (tree, tree.origin path) FileTree.createInto with
  | error reason =>
    rw [hwalk] at hcreate
    cases hcreate
  | ok state =>
    -- The tree and the place change together, so the invariant is about both.
    have hkept : state.1.IsProper ∧ ∀ name ∈ state.2, IsFileName name :=
      invariant_of_walk (fun state => state.1.IsProper ∧ ∀ name ∈ state.2, IsFileName name)
        ⟨h, h.named_origin path⟩
        (fun _ _ _ hsegment hstate hnext => hstate.1.createInto hstate.2 hsegment hnext) hwalk
    simp only [hwalk, bind, Except.bind] at hcreate
    split at hcreate
    · cases hcreate
      exact hkept.1
    · cases hcreate

/-! ### Other contents -/

/-- The tree in which each file holds what `fill` says for its place. Nothing else is changed: the
same files and directories stand at the same places. -/
def refilled (tree : FileTree) (fill : Place → ByteArray) : FileTree :=
  { tree with entries := tree.entries.map fun thing => (thing.1, thing.2.refilled (fill thing.1)) }

/-- In the tree with other contents the same things stand at the same places, and what a file holds
is what `fill` says. -/
theorem get?_refilled (tree : FileTree) (fill : Place → ByteArray) (place : Place) :
    (tree.refilled fill).get? place = (tree.get? place).map (Entry.refilled (fill place)) := by
  cases place with
  | nil => rfl
  | cons name rest =>
    -- The places stay in their order, so the first match is the same one.
    show (tree.entries.map _).lookup _ = (tree.entries.lookup _).map _
    induction tree.entries with
    | nil => rfl
    | cons first others ih =>
      rw [List.map_cons, List.lookup_cons, List.lookup_cons]
      cases hfirst : name :: rest == first.1 with
      | true =>
        rw [beq_iff_eq.1 hfirst]
        rfl
      | false => exact ih

/-- A file stands in the tree with other contents exactly where one stood, and holds what `fill`
gives its place. -/
theorem get?_refilled_eq_file_iff {fill : Place → ByteArray} {place : Place}
    {content : ByteArray} :
    (tree.refilled fill).get? place = some (.file content) ↔
      (∃ old, tree.get? place = some (.file old)) ∧ content = fill place := by
  rw [get?_refilled]
  cases tree.get? place with
  | none => simp
  | some entry => cases entry <;> simp [Entry.refilled, eq_comm]

/-- Directories stand in the tree with other contents (`FileTree.refilled`) where they stood. -/
theorem get?_refilled_directory {fill : Place → ByteArray} {place : Place}
    (h : tree.get? place = some .directory) :
    (tree.refilled fill).get? place = some .directory := by
  rw [get?_refilled, h]
  rfl

/-- `place` leads to the same places whatever files hold, because `stepInto` does not look into
them. -/
theorem place_refilled (tree : FileTree) (fill : Place → ByteArray) :
    (tree.refilled fill).place = tree.place := by
  -- A step only asks whether a directory stands there.
  have hstep : (tree.refilled fill).stepInto = tree.stepInto := by
    funext place segment
    rw [stepInto, stepInto, get?_refilled]
    cases tree.get? place with
    | none => rfl
    | some entry => cases entry <;> rfl
  funext path
  show walk path (tree.origin path) _ = walk path (tree.origin path) _
  rw [hstep]

/-- Filling files with other contents keeps a tree proper, since `IsProper` looks at places
alone. -/
theorem IsProper.refilled (h : tree.IsProper) (fill : Place → ByteArray) :
    (tree.refilled fill).IsProper where
  distinct := by
    rw [FileTree.refilled, List.map_map]
    exact h.distinct
  named := by
    intro thing hthing
    obtain ⟨old, hold, rfl⟩ := List.mem_map.1 hthing
    exact h.named old hold
  working := h.working

/-! ### Listings -/

/-- `nameIn?` gives the name of a thing exactly if the thing stands in the directory itself. -/
theorem nameIn?_eq_some_iff {directory : Place} {thing : Place × Entry} {name : FileName} :
    nameIn? directory thing = some name ↔ thing.1 = directory ++ [name] := by
  unfold nameIn?
  constructor
  · intro h
    split at h
    · split at h
      · rename_i hplace
        cases h
        exact hplace
      · cases h
    · cases h
  · intro h
    simp [h]

/-- A directory does not stand in itself, so it is not among its own names (`nameIn?`). -/
theorem nameIn?_self (directory : Place) (entry : Entry) :
    nameIn? directory (directory, entry) = none := by
  apply Option.eq_none_iff_forall_ne_some.2
  intro name h
  have hself := nameIn?_eq_some_iff.1 h
  simp at hself

/-- The names of all that stands in a directory of a tree, as `entryNames` lists them where the path
leads there. -/
def namesIn (tree : FileTree) (directory : Place) : List FileName :=
  tree.entries.filterMap (nameIn? directory)

/-- `entryNames` succeeds exactly if the path leads to a directory, and lists the names that stand
in it. -/
theorem entryNames_eq_ok_iff {path : Path} {names : List FileName} :
    tree.entryNames path = .ok names ↔ ∃ directory, tree.place path = .ok directory ∧
      tree.get? directory = some .directory ∧ names = tree.namesIn directory := by
  unfold entryNames
  cases tree.place path with
  | error reason => exact iff_of_false (fun h => nomatch h) fun ⟨_, h, _⟩ => nomatch h
  | ok directory =>
    simp only [bind, Except.bind, Except.ok.injEq, exists_eq_left']
    -- Of what can stand there, only a directory has names in it.
    cases tree.get? directory with
    | none => exact iff_of_false (fun h => nomatch h) fun h => nomatch h.1
    | some entry =>
      cases entry with
      | file content => exact iff_of_false (fun h => nomatch h) fun h => nomatch h.1
      | directory =>
        constructor
        · intro h
          exact ⟨rfl, (Except.ok.inj h).symm⟩
        · rintro ⟨-, rfl⟩
          rfl

/-- `entryNames` fails if the path leads nowhere, or to nothing, or to a file, and with the error
that goes with each. -/
theorem entryNames_eq_error_iff {path : Path} {reason : FileError} :
    tree.entryNames path = .error reason ↔ tree.place path = .error reason ∨
      ∃ place, tree.place path = .ok place ∧
        ((tree.get? place = none ∧ reason = .notFound) ∨
          ∃ content, tree.get? place = some (.file content) ∧ reason = .notDirectory) := by
  unfold entryNames
  cases tree.place path with
  | error cause => simp [bind, Except.bind]
  | ok place =>
    simp only [bind, Except.bind, reduceCtorEq, false_or, Except.ok.injEq, exists_eq_left']
    cases tree.get? place with
    | none => simp [throw, throwThe, MonadExceptOf.throw, eq_comm]
    | some entry =>
      cases entry with
      | file content => simp [throw, throwThe, MonadExceptOf.throw, eq_comm]
      | directory => simp [pure, Except.pure]

/-- A name is listed in `namesIn` exactly if something stands in the directory under it, a file or a
directory. The places have to be distinct, or an entry could be hidden by another. -/
theorem IsProper.mem_namesIn_iff (h : tree.IsProper) {directory : Place} {name : FileName} :
    name ∈ tree.namesIn directory ↔ ∃ entry, tree.get? (directory ++ [name]) = some entry := by
  rw [namesIn, List.mem_filterMap]
  simp only [nameIn?_eq_some_iff, h.get?_eq_some_iff]
  constructor
  · rintro ⟨⟨place, entry⟩, hthing, rfl⟩
    exact ⟨entry, hthing⟩
  · rintro ⟨entry, hmem⟩
    exact ⟨_, hmem, rfl⟩

/-- A name that is listed is one that a path can hold, so `inDirectory` can be asked for it. -/
theorem IsProper.isFileName_of_mem (h : tree.IsProper) {directory : Place} {name : FileName}
    (hname : name ∈ tree.namesIn directory) : IsFileName name := by
  obtain ⟨entry, hentry⟩ := h.mem_namesIn_iff.1 hname
  exact h.named _ (h.get?_eq_some_iff.1 hentry) name (by simp)

/-- No name is listed twice, because no two things stand at one place (`IsProper`). -/
theorem IsProper.nodup_namesIn (h : tree.IsProper) (directory : Place) :
    (tree.namesIn directory).Nodup := by
  rw [namesIn, List.Nodup, List.pairwise_filterMap]
  refine (List.pairwise_map.1 h.distinct).imp ?_
  intro first second hne name hname other hother heq
  rw [nameIn?_eq_some_iff] at hname hother
  exact hne (by rw [hname, hother, heq])

end FileTree

end WrapperModel.Files
