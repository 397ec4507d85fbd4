import Mathlib.Data.List.Perm.Subperm
import Mathlib.Data.List.Sort
import WrapperModel.Proofs.Definition.Documents
import WrapperModel.Proofs.Definition.Names
import WrapperModel.Proofs.Files.Directory
import WrapperModel.Proofs.Files.Store

/-!
# `WrapperModel.Proofs.Definition.Catalogue`: what is loaded from a directory

The documents of a directory are its files with the names of documents. Loading parts them in
those that are read and those that are skipped, each in the order of their names.

Two things come between the documents of a directory and what is loaded from it. A document
whose own path is longer than paths may be is not found, and is neither read nor skipped. And a
document whose name is no text goes under the empty text: it is skipped if the empty text is to
be skipped, and its definition carries an address without its name. `FindsDocument` and
`nameText` say what happens, `HasDocument` and `IsWhole` what is promised.

* `loadFrom_eq`: loading leaves the files as they are.
* `ofTree_of_perm`: the order in which files are found does not matter.
* `exists_parts`: the parts of a directory, and what loading makes of them.
* `isWhole_iff`: the promise is kept exactly if every document has a short path and a name that
  is a text.
* `parts_of_loadFrom`: all of this for a directory that can be loaded.
* `lost_document`: a directory for which it is not kept.
-/

set_option autoImplicit false

namespace WrapperModel.Definition

open WrapperModel.Files
open WrapperModel.Text (bytes bytes_append bytes_eq_flatMap IsText)

variable {tree : FileTree} {path template reference : String} {skip : List String}

/-! ### Running -/

/-- Of the names of all that stands in a directory, those of documents under which `FileTree.isFile`
finds a file, in order. -/
def foundNames (tree : FileTree) (path : String) (entries : List FileName) : List FileName :=
  ((entries.filter isDocumentName).filter fun name =>
    tree.isFile (inDirectory (bytes path) name)).mergeSort

/-- The catalogue of a directory in a tree: what `Catalogue.load` gives when it runs on the tree,
written without running. -/
def Catalogue.ofTree (tree : FileTree) (path template reference : String) (skip : List String) :
    Except CatalogueError Catalogue := do
  let entries ← (tree.entryNames (bytes path)).mapError .unread
  let names := foundNames tree path entries
  ofDocuments path template reference ((names.filter (isSkipped skip)).filterMap stemText?)
    ((names.filter fun name => !isSkipped skip name).map fun name =>
      ⟨nameText name, tree.read (inDirectory (bytes path) name)⟩)

/-- Running `Catalogue.load` on a tree, with the tree that it leaves. `Catalogue.ofTree` is its
value, and the tree is the one that was looked at. -/
def Catalogue.loadFrom (tree : FileTree) (path template reference : String)
    (skip : List String) : Except CatalogueError Catalogue × FileTree :=
  (Catalogue.load path template reference skip :
    ExceptT CatalogueError (StateM FileTree) Catalogue).run tree

/-- Loading from a tree looks at it and leaves it as it is. So what `Catalogue.load` gives is said
by `Catalogue.ofTree`, in which nothing runs. -/
theorem loadFrom_eq (tree : FileTree) (path template reference : String) (skip : List String) :
    Catalogue.loadFrom tree path template reference skip =
      (Catalogue.ofTree tree path template reference skip, tree) := by
  have hnames : ((FileStore.entryNames (m := StateM FileTree) (bytes path)).adapt
      CatalogueError.unread).run tree =
        ((tree.entryNames (bytes path)).mapError .unread, tree) := run_adapt _ _ tree
  have hask : ∀ name : FileName,
      (do return ← (FileStore.isFile (inDirectory (bytes path) name) : StateM FileTree Bool) :
        ExceptT CatalogueError (StateM FileTree) Bool).run tree =
          (.ok (tree.isFile (inDirectory (bytes path) name)), tree) := fun name => rfl
  have hlook : ∀ name : FileName, (do
      let content ← (FileStore.read (m := StateM FileTree) (inDirectory (bytes path) name)).run
      return { name := nameText name, content } :
        ExceptT CatalogueError (StateM FileTree) FoundDocument).run tree =
          (.ok ⟨nameText name, tree.read (inDirectory (bytes path) name)⟩, tree) := fun name => rfl
  -- Once the names are known, what is left is a question about each of them and then one look at
  -- each of the files that are kept.
  rw [Catalogue.loadFrom, Catalogue.load, run_bind, hnames, Catalogue.ofTree]
  cases (tree.entryNames (bytes path)).mapError CatalogueError.unread with
  | error reason => rfl
  | ok entries =>
    dsimp only
    rw [run_bind, run_filterM hask]
    dsimp only
    rw [run_bind, run_mapM hlook]
    rfl

/-- The catalogue of a directory of which the names are listed: `Catalogue.ofDocuments` of those
that are kept, beside the stems of those that are skipped. -/
theorem ofTree_of_listed {entries : List FileName}
    (h : tree.entryNames (bytes path) = .ok entries) :
    Catalogue.ofTree tree path template reference skip =
      Catalogue.ofDocuments path template reference
        (((foundNames tree path entries).filter (isSkipped skip)).filterMap stemText?)
        (((foundNames tree path entries).filter fun name => !isSkipped skip name).map fun name =>
          ⟨nameText name, tree.read (inDirectory (bytes path) name)⟩) := by
  rw [Catalogue.ofTree, h]
  rfl

/-- There is no catalogue of a directory of which the names cannot be listed. The reason is that of
`FileTree.entryNames`. -/
theorem ofTree_of_unlisted {reason : FileError}
    (h : tree.entryNames (bytes path) = .error reason) :
    Catalogue.ofTree tree path template reference skip = .error (.unread reason) := by
  rw [Catalogue.ofTree, h]
  rfl

/-- What is loaded comes from a directory, to which the path leads. So the theorems on catalogues
that were loaded need no condition on the path. -/
theorem exists_directory {catalogue : Catalogue}
    (h : Catalogue.ofTree tree path template reference skip = .ok catalogue) :
    ∃ directory, tree.place (bytes path) = .ok directory ∧
      tree.get? directory = some .directory := by
  cases hnames : tree.entryNames (bytes path) with
  | error reason => cases (ofTree_of_unlisted hnames).symm.trans h
  | ok entries =>
    obtain ⟨directory, hplace, hdirectory, -⟩ := FileTree.entryNames_eq_ok_iff.1 hnames
    exact ⟨directory, hplace, hdirectory⟩

/-- The catalogue of a directory does not depend on the order in which its files are found. The
tree has to be proper: of two things at one place the first would count. -/
theorem ofTree_of_perm {other : FileTree} (htree : tree.IsProper)
    (hperm : other.entries.Perm tree.entries) (hwork : other.work = tree.work)
    (path template reference : String) (skip : List String) :
    Catalogue.ofTree other path template reference skip =
      Catalogue.ofTree tree path template reference skip := by
  have hget := htree.get?_of_perm hperm hwork
  have hplace := htree.place_of_perm hperm hwork
  cases hnames : tree.entryNames (bytes path) with
  -- Whether the path leads to a directory does not depend on the order of the entries.
  | error reason =>
    have hother : other.entryNames (bytes path) = .error reason := by
      rw [FileTree.entryNames_eq_error_iff, hplace, hget]
      exact FileTree.entryNames_eq_error_iff.1 hnames
    rw [ofTree_of_unlisted hnames, ofTree_of_unlisted hother]
  | ok entries =>
    obtain ⟨directory, hdirectory, hstands, rfl⟩ := FileTree.entryNames_eq_ok_iff.1 hnames
    have hother : other.entryNames (bytes path) = .ok (other.namesIn directory) := by
      rw [FileTree.entryNames_eq_ok_iff, hplace, hget]
      exact ⟨directory, hdirectory, hstands, rfl⟩
    have hisFile : other.isFile = tree.isFile := by
      funext file
      rw [FileTree.isFile, FileTree.isFile, hplace, hget]
    have hread : other.read = tree.read := by
      funext file
      rw [FileTree.read, FileTree.read, hplace, hget]
    -- The same names are listed in another order, which sorting takes away again.
    have hlisted : (other.namesIn directory).Perm (tree.namesIn directory) := hperm.filterMap _
    have hfound : foundNames other path (other.namesIn directory) =
        foundNames tree path (tree.namesIn directory) := by
      rw [foundNames, foundNames, hisFile]
      exact mergeSort_eq_of_perm ((hlisted.filter _).filter _)
    rw [ofTree_of_listed hnames, ofTree_of_listed hother, hread, hfound]

/-! ### The documents of a directory -/

/-- A document stands in the directory of a path: a file with the name of a document. The name is
any bytes, and nothing is asked of the length of its path. Whether it is found is a further question
(`FindsDocument`). -/
structure HasDocument (tree : FileTree) (path : String) (stem name : FileName)
    (content : ByteArray) : Prop where
  named : IsDocumentName stem name
  stands : ∃ directory, tree.place (bytes path) = .ok directory ∧
    tree.get? (directory ++ [name]) = some (.file content)

/-- A document that stands in the directory is found there: its own path is no longer than paths may
be (`isLongPath`). -/
structure FindsDocument (tree : FileTree) (path : String) (stem name : FileName)
    (content : ByteArray) : Prop extends HasDocument tree path stem name content where
  short : isLongPath (inDirectory (bytes path) name) = false

/-- A document is found in the directory (`FindsDocument`) and the text of its stem is not to be
skipped. These are the documents that are read. -/
def Remains (tree : FileTree) (path : String) (skip : List String) (name : FileName)
    (content : ByteArray) : Prop :=
  ∃ stem, FindsDocument tree path stem name content ∧ nameText stem ∉ skip

/-- Files in the order of the bytes of their names, none of them twice. Documents are read in this
order, whatever the order of the directory. -/
def IsAscending (files : List (FileName × ByteArray)) : Prop :=
  files.Pairwise fun file other => file.1 < other.1

/-- Documents, of which `stands` says what they are, are parted in those that are kept and those
that are skipped, both in order. Which are skipped depends on their stems. -/
structure Parts (stands : FileName → FileName → ByteArray → Prop) (skips : FileName → Prop)
    (kept skipped : List (FileName × ByteArray)) : Prop where
  kept_ascending : IsAscending kept
  mem_kept : ∀ name content, (name, content) ∈ kept ↔
    ∃ stem, stands stem name content ∧ ¬skips stem
  skipped_ascending : IsAscending skipped
  mem_skipped : ∀ name content, (name, content) ∈ skipped ↔
    ∃ stem, stands stem name content ∧ skips stem

/-! ### Parts in order -/

/-- Files in order (`IsAscending`) are determined by what they are: two lists in order of the same
files are one list. -/
theorem IsAscending.eq_of_mem_iff {files others : List (FileName × ByteArray)}
    (hfiles : IsAscending files) (hothers : IsAscending others)
    (h : ∀ name content, (name, content) ∈ files ↔ (name, content) ∈ others) : files = others := by
  let before := fun file other : FileName × ByteArray => file.1 < other.1
  have hirrefl : Std.Irrefl before := ⟨fun file => List.lt_irrefl _⟩
  have hantisymm : Std.Antisymm before := ⟨fun file other hlt hgt => absurd hgt (List.lt_asymm hlt)⟩
  exact List.Pairwise.eq_of_mem_iff hfiles hothers fun file => h file.1 file.2

/-- Files in order (`IsAscending`) are distinct, since no name is in front of itself. -/
theorem IsAscending.nodup {files : List (FileName × ByteArray)} (h : IsAscending files) :
    files.Nodup := by
  refine List.Pairwise.imp ?_ h
  rintro file other hlt rfl
  exact List.lt_irrefl _ hlt

section

variable {stands : FileName → FileName → ByteArray → Prop} {skips : FileName → Prop}
  {kept skipped : List (FileName × ByteArray)}

/-- Both parts together are all documents, those that `stands` says. -/
theorem Parts.mem_append_iff (h : Parts stands skips kept skipped) {name : FileName}
    {content : ByteArray} :
    (name, content) ∈ kept ++ skipped ↔ ∃ stem, stands stem name content := by
  rw [List.mem_append, h.mem_kept, h.mem_skipped, ← exists_or]
  apply exists_congr
  intro stem
  rw [← and_or_left, or_comm]
  exact and_iff_left (Classical.em _)

/-- No document stands in both parts, or in one of them twice. This needs that a document has one
stem (`IsDocumentName`), by which it is kept or skipped. -/
theorem Parts.nodup (h : Parts stands skips kept skipped)
    (hnamed : ∀ stem name content, stands stem name content → IsDocumentName stem name) :
    (kept ++ skipped).Nodup := by
  refine List.nodup_append'.2 ⟨h.kept_ascending.nodup, h.skipped_ascending.nodup, ?_⟩
  intro file hkept hskipped
  obtain ⟨stem, hstem, hno⟩ := (h.mem_kept file.1 file.2).1 hkept
  obtain ⟨other, hother, hyes⟩ := (h.mem_skipped file.1 file.2).1 hskipped
  have hsame := (hnamed _ _ _ hstem).stem_unique (hnamed _ _ _ hother)
  exact hno (hsame ▸ hyes)

/-- Parts of documents stay what they are where the same documents stand and the same of them are
skipped. -/
theorem Parts.congr {others : FileName → FileName → ByteArray → Prop}
    {drops : FileName → Prop} (h : Parts stands skips kept skipped)
    (hstands : ∀ stem name content, others stem name content ↔ stands stem name content)
    (hskips : ∀ stem name content, stands stem name content → (drops stem ↔ skips stem)) :
    Parts others drops kept skipped where
  kept_ascending := h.kept_ascending
  mem_kept name content := by
    rw [h.mem_kept]
    apply exists_congr
    intro stem
    rw [hstands]
    exact and_congr_right fun hstem => not_congr (hskips _ _ _ hstem).symm
  skipped_ascending := h.skipped_ascending
  mem_skipped name content := by
    -- Only the documents that are found need be skipped alike.
    rw [h.mem_skipped]
    apply exists_congr
    intro stem
    rw [hstands]
    exact and_congr_right fun hstem => (hskips _ _ _ hstem).symm

end

/-- Ascending names each of which has one content make up the files of that names and contents, in
order. `Holds` says which content a name has. -/
theorem exists_files {names : List FileName} (Holds : FileName → ByteArray → Prop)
    (hascending : names.Pairwise (· < ·)) (hexists : ∀ name ∈ names, ∃ content, Holds name content)
    (hunique : ∀ name content other, Holds name content → Holds name other → content = other) :
    ∃ files : List (FileName × ByteArray), files.map Prod.fst = names ∧ IsAscending files ∧
      ∀ name content, (name, content) ∈ files ↔ name ∈ names ∧ Holds name content := by
  -- A content is chosen for each name; that it is the only one matters at the end alone.
  obtain ⟨files, hnames, hholds⟩ : ∃ files : List (FileName × ByteArray),
      files.map Prod.fst = names ∧ ∀ file ∈ files, Holds file.1 file.2 := by
    clear hascending hunique
    induction names with
    | nil => exact ⟨[], rfl, by simp⟩
    | cons name rest ih =>
      obtain ⟨⟨content, hcontent⟩, hrest⟩ := List.forall_mem_cons.1 hexists
      obtain ⟨files, hfiles, hholds⟩ := ih hrest
      exact ⟨(name, content) :: files, by rw [List.map_cons, hfiles],
        List.forall_mem_cons.2 ⟨hcontent, hholds⟩⟩
  refine ⟨files, hnames, ?_, ?_⟩
  · rw [← hnames, List.pairwise_map] at hascending
    exact hascending
  · intro name content
    constructor
    · intro hmem
      exact ⟨hnames ▸ List.mem_map.2 ⟨_, hmem, rfl⟩, hholds _ hmem⟩
    · rintro ⟨hname, hcontent⟩
      rw [← hnames] at hname
      obtain ⟨⟨_, other⟩, hmem, rfl⟩ := List.mem_map.1 hname
      rw [hunique _ _ _ hcontent (hholds _ hmem)]
      exact hmem

/-! ### Finding documents -/

/-- `HasDocument` said with the place of the directory, which the path determines. The place is what
the entries of a tree are listed by. -/
theorem hasDocument_iff {stem name : FileName} {content : ByteArray} {directory : Place}
    (hplace : tree.place (bytes path) = .ok directory) :
    HasDocument tree path stem name content ↔ IsDocumentName stem name ∧
      tree.get? (directory ++ [name]) = some (.file content) := by
  constructor
  · rintro ⟨hnamed, other, hother, hstands⟩
    cases hplace.symm.trans hother
    exact ⟨hnamed, hstands⟩
  · rintro ⟨hnamed, hstands⟩
    exact ⟨hnamed, directory, hplace, hstands⟩

/-- A name is found exactly if a document of that name is. This is where `isFile` asks for a path
that is short enough. -/
theorem mem_foundNames_iff (htree : tree.IsProper) {directory : Place}
    (hplace : tree.place (bytes path) = .ok directory)
    (hdirectory : tree.get? directory = some .directory) {name : FileName} :
    name ∈ foundNames tree path (tree.namesIn directory) ↔
      ∃ stem content, FindsDocument tree path stem name content := by
  rw [foundNames, List.mem_mergeSort, List.mem_filter, List.mem_filter, isDocumentName_iff]
  constructor
  · rintro ⟨⟨hlisted, stem, hnamed⟩, hfile⟩
    have hname := htree.isFileName_of_mem hlisted
    obtain ⟨⟨content, hstands⟩, hshort⟩ :=
      (FileTree.isFile_inDirectory_iff hplace hdirectory hname).1 hfile
    exact ⟨stem, content, ⟨hnamed, directory, hplace, hstands⟩, hshort⟩
  · rintro ⟨stem, content, hfound, hshort⟩
    obtain ⟨hnamed, hstands⟩ := (hasDocument_iff hplace).1 hfound
    have hlisted : name ∈ tree.namesIn directory := htree.mem_namesIn_iff.2 ⟨_, hstands⟩
    have hname := htree.isFileName_of_mem hlisted
    exact ⟨⟨hlisted, stem, hnamed⟩,
      (FileTree.isFile_inDirectory_iff hplace hdirectory hname).2 ⟨⟨content, hstands⟩, hshort⟩⟩

/-- The documents that are found in a directory and whose names are chosen, as files in order.
Choosing those to be skipped gives the one part and choosing the others gives the other. -/
theorem exists_chosen (htree : tree.IsProper) {directory : Place}
    (hplace : tree.place (bytes path) = .ok directory)
    (hdirectory : tree.get? directory = some .directory) (chosen : FileName → Bool) :
    ∃ files : List (FileName × ByteArray),
      files.map Prod.fst = (foundNames tree path (tree.namesIn directory)).filter chosen ∧
      IsAscending files ∧ ∀ name content, (name, content) ∈ files ↔
        ∃ stem, FindsDocument tree path stem name content ∧ chosen name = true := by
  have hascending : (foundNames tree path (tree.namesIn directory)).Pairwise (· < ·) :=
    pairwise_lt_mergeSort (((htree.nodup_namesIn directory).filter _).filter _)
  have hfound : ∀ name, name ∈ foundNames tree path (tree.namesIn directory) ↔
      ∃ stem content, FindsDocument tree path stem name content :=
    fun name => mem_foundNames_iff htree hplace hdirectory
  -- Every name that is listed stands for one document, whose content goes with it.
  obtain ⟨files, hnames, hfiles_ascending, hfiles⟩ :=
    exists_files (fun name content => tree.get? (directory ++ [name]) = some (.file content))
      (hascending.filter chosen)
      (fun name hname => by
        obtain ⟨stem, content, h⟩ := (hfound name).1 (List.mem_filter.1 hname).1
        exact ⟨content, ((hasDocument_iff hplace).1 h.toHasDocument).2⟩)
      (fun name content other h hother => Entry.file.inj (Option.some.inj (h.symm.trans hother)))
  refine ⟨files, hnames, hfiles_ascending, fun name content => ?_⟩
  rw [hfiles, List.mem_filter, hfound]
  constructor
  · rintro ⟨⟨⟨stem, other, h⟩, hchosen⟩, hstands⟩
    have hnamed := h.named
    exact ⟨stem, ⟨⟨hnamed, directory, hplace, hstands⟩, h.short⟩, hchosen⟩
  · rintro ⟨stem, h, hchosen⟩
    exact ⟨⟨⟨stem, content, h⟩, hchosen⟩, ((hasDocument_iff hplace).1 h.toHasDocument).2⟩

/-- The path of a document that is found gives its bytes: it leads to the place of the directory and
the name behind it. -/
theorem FindsDocument.read_eq (htree : tree.IsProper) {stem name : FileName} {content : ByteArray}
    {directory : Place} (hplace : tree.place (bytes path) = .ok directory)
    (hdirectory : tree.get? directory = some .directory)
    (h : FindsDocument tree path stem name content) :
    tree.read (inDirectory (bytes path) name) = .ok content := by
  obtain ⟨-, hstands⟩ := (hasDocument_iff hplace).1 h.toHasDocument
  have hname := htree.named _ (htree.get?_eq_some_iff.1 hstands) name (by simp)
  exact FileTree.read_inDirectory hplace hdirectory hname hstands h.short

/-- Reading the files that are kept gives their bytes, each under the text of its name
(`nameText`). -/
theorem map_read_eq (htree : tree.IsProper) {directory : Place}
    (hplace : tree.place (bytes path) = .ok directory)
    (hdirectory : tree.get? directory = some .directory) {files : List (FileName × ByteArray)}
    (hfiles : ∀ name content, (name, content) ∈ files → Remains tree path skip name content) :
    (files.map Prod.fst).map (fun name =>
        FoundDocument.mk (nameText name) (tree.read (inDirectory (bytes path) name))) =
      documentsOf files := by
  rw [documentsOf, List.map_map]
  apply List.map_congr_left
  intro file hfile
  obtain ⟨stem, h, -⟩ := hfiles file.1 file.2 hfile
  rw [Function.comp_apply, h.read_eq htree hplace hdirectory]

/-- The texts of the stems of documents, one for each of them. No document is without a stem, so
`filterMap` drops none. -/
theorem forall₂_filterMap_stemText? {files : List (FileName × ByteArray)}
    (h : ∀ file ∈ files, ∃ stem, IsDocumentName stem file.1) :
    List.Forall₂ (fun file stem => stemText? file.1 = some stem) files
      (files.filterMap fun file => stemText? file.1) := by
  induction files with
  | nil => exact .nil
  | cons file rest ih =>
    obtain ⟨⟨stem, hstem⟩, hrest⟩ := List.forall_mem_cons.1 h
    simp only [List.filterMap_cons, hstem.stemText?_eq]
    exact .cons hstem.stemText?_eq (ih hrest)

/-- The documents that are found in a directory are parted in those that are read and those that are
skipped, and the catalogue is made of what the former give and the stems of the latter. Nothing is
said yet of whether they can all be read. -/
theorem exists_parts (htree : tree.IsProper) {directory : Place}
    (hplace : tree.place (bytes path) = .ok directory)
    (hdirectory : tree.get? directory = some .directory)
    (template reference : String) (skip : List String) :
    ∃ kept skipped stems,
      Parts (FindsDocument tree path) (fun stem => nameText stem ∈ skip) kept skipped ∧
      List.Forall₂ (fun file stem => stemText? file.1 = some stem) skipped stems ∧
      Catalogue.ofTree tree path template reference skip =
        Catalogue.ofDocuments path template reference stems (documentsOf kept) := by
  -- Both parts are chosen by their names, so only the choice has to be said by stems.
  obtain ⟨kept, hkept, hkept_ascending, hmem_kept⟩ :=
    exists_chosen htree hplace hdirectory fun name => !isSkipped skip name
  obtain ⟨skipped, hskipped, hskipped_ascending, hmem_skipped⟩ :=
    exists_chosen htree hplace hdirectory (isSkipped skip)
  have hremains : ∀ name content, (name, content) ∈ kept ↔
      Remains tree path skip name content := by
    intro name content
    rw [hmem_kept]
    apply exists_congr
    intro stem
    apply and_congr_right
    intro h
    rw [← h.named.isSkipped_iff, Bool.not_eq_true', Bool.not_eq_true]
  have hskips : ∀ name content, (name, content) ∈ skipped ↔
      ∃ stem, FindsDocument tree path stem name content ∧ nameText stem ∈ skip := by
    intro name content
    rw [hmem_skipped]
    exact exists_congr fun stem => and_congr_right fun h => h.named.isSkipped_iff
  -- Each document that is skipped has a stem, so no name is lost when the stems are taken.
  have hstems : List.Forall₂ (fun file stem => stemText? file.1 = some stem) skipped
      ((skipped.map Prod.fst).filterMap stemText?) := by
    rw [List.filterMap_map]
    apply forall₂_filterMap_stemText?
    intro file hfile
    obtain ⟨stem, h, -⟩ := (hskips file.1 file.2).1 hfile
    exact ⟨stem, h.named⟩
  have hread := map_read_eq htree hplace hdirectory fun name content => (hremains name content).1
  refine ⟨kept, skipped, _, ⟨hkept_ascending, hremains, hskipped_ascending, hskips⟩, hstems, ?_⟩
  rw [← hread, hkept, hskipped]
  exact ofTree_of_listed (FileTree.entryNames_eq_ok_iff.2 ⟨directory, hplace, hdirectory, rfl⟩)

/-! ### What is promised -/

/-- The promise that is made of a catalogue: every document that stands in the directory is
loaded, only those whose stems are to be skipped are left out, and each definition carries the
address that its own name gives. Here names are compared as they are, byte by byte. -/
def IsWhole (tree : FileTree) (path template reference : String) (skip : List String)
    (catalogue : Catalogue) : Prop :=
  ∃ kept skipped, Parts (HasDocument tree path) (· ∈ skip.map bytes) kept skipped ∧
    List.Forall₂ (fun file d =>
        ∃ name, file.1 = bytes name ∧ Gives template reference name file.2 d)
      kept catalogue.definitions ∧
    List.Forall₂ (fun file stem => IsDocumentName (bytes stem) file.1) skipped catalogue.skipped

/-- In a catalogue that keeps the promise all names are texts: those of definitions because they
stand in addresses, and those that are skipped because they are listed. -/
theorem IsWhole.isText {catalogue : Catalogue}
    (h : IsWhole tree path template reference skip catalogue) {stem name : FileName}
    {content : ByteArray} (hdocument : HasDocument tree path stem name content) : IsText name := by
  obtain ⟨kept, skipped, hparts, hgives, hstems⟩ := h
  rcases List.mem_append.1 (hparts.mem_append_iff.2 ⟨stem, hdocument⟩) with hmem | hmem
  · obtain ⟨d, text, hname, -⟩ := exists_of_mem_of_forall₂ hgives hmem
    exact ⟨text, hname⟩
  · obtain ⟨text, hnamed⟩ := exists_of_mem_of_forall₂ hstems hmem
    exact hnamed.isText_iff.2 ⟨text, rfl⟩

section

variable {kept skipped : List (FileName × ByteArray)} {catalogue : Catalogue}
  (hparts : Parts (FindsDocument tree path) (fun stem => nameText stem ∈ skip) kept skipped)
  (hgives : List.Forall₂ (fun file d => Gives template reference (nameText file.1) file.2 d)
    kept catalogue.definitions)
  (hstems : List.Forall₂ (fun file stem => stemText? file.1 = some stem)
    skipped catalogue.skipped)

include hparts hgives hstems

/-- Where the promise is kept, every document is found. As many documents are found as there are
definitions and skipped stems, and so many are promised, none of them twice. -/
theorem IsWhole.short (h : IsWhole tree path template reference skip catalogue)
    {stem name : FileName} {content : ByteArray}
    (hdocument : HasDocument tree path stem name content) :
    isLongPath (inDirectory (bytes path) name) = false := by
  obtain ⟨promised, ignored, hpromised, hgiven, hlisted⟩ := h
  have hsubset : kept ++ skipped ⊆ promised ++ ignored := by
    intro file hfile
    obtain ⟨other, hfound⟩ := hparts.mem_append_iff.1 hfile
    exact hpromised.mem_append_iff.2 ⟨other, hfound.toHasDocument⟩
  -- Promised and found are counted by the same catalogue, so nothing more can be promised.
  have hlength : (promised ++ ignored).length ≤ (kept ++ skipped).length := by
    rw [List.length_append, List.length_append, hgiven.length_eq, hlisted.length_eq,
      hgives.length_eq, hstems.length_eq]
  have hnodup : (kept ++ skipped).Nodup := hparts.nodup fun _ _ _ hfound => hfound.named
  have hperm := (hnodup.subperm hsubset).perm_of_length_le hlength
  have hmem : (name, content) ∈ kept ++ skipped :=
    hperm.mem_iff.2 (hpromised.mem_append_iff.2 ⟨stem, hdocument⟩)
  obtain ⟨other, hfound⟩ := hparts.mem_append_iff.1 hmem
  exact hfound.short

/-- The promise is kept of what was loaded exactly if each document that stands in the directory
has a path that is short enough and a name that is a text. The documents with longer paths are
those that are lost, and the ones whose names are no texts go under the empty text. -/
theorem isWhole_iff : IsWhole tree path template reference skip catalogue ↔
    ∀ stem name content, HasDocument tree path stem name content →
      isLongPath (inDirectory (bytes path) name) = false ∧ IsText name := by
  constructor
  · intro h stem name content hdocument
    exact ⟨h.short hparts hgives hstems hdocument, h.isText hdocument⟩
  · intro h
    have hpromised : Parts (HasDocument tree path) (· ∈ skip.map bytes) kept skipped := by
      refine hparts.congr ?_ ?_
      · intro stem name content
        exact ⟨fun hdocument => ⟨hdocument, (h _ _ _ hdocument).1⟩, fun h => h.toHasDocument⟩
      · intro stem name content hfound
        have htext := (h _ _ _ hfound.toHasDocument).2
        exact (nameText_mem_iff (hfound.named.isText_iff.1 htext)).symm
    -- All names are texts, so the text by which a document is called is its name.
    have hkept : ∀ file ∈ kept, IsText file.1 := by
      intro file hfile
      obtain ⟨stem, hdocument, -⟩ := (hpromised.mem_kept _ _).1 hfile
      exact (h _ _ _ hdocument).2
    have hskipped : ∀ file ∈ skipped, ∃ stem, IsDocumentName (bytes stem) file.1 := by
      intro file hfile
      obtain ⟨stem, hdocument, hstem⟩ := (hpromised.mem_skipped _ _).1 hfile
      obtain ⟨text, -, rfl⟩ := List.mem_map.1 hstem
      exact ⟨text, hdocument.named⟩
    refine ⟨kept, skipped, hpromised, ?_, ?_⟩
    · refine ((List.forall₂_and_left _ _).2 ⟨hkept, hgives⟩).imp ?_
      intro file d ⟨htext, hgive⟩
      exact ⟨nameText file.1, isText_iff_eq_bytes.1 htext, hgive⟩
    · refine ((List.forall₂_and_left _ _).2 ⟨hskipped, hstems⟩).imp ?_
      rintro file stem ⟨⟨text, hnamed⟩, hstem⟩
      rw [hnamed.stemText?_eq, nameText_bytes] at hstem
      exact Option.some.inj hstem ▸ hnamed

end

/-! ### What is loaded -/

/-- A catalogue that was loaded from a directory has a definition for each document that was kept
and a stem for each that was skipped. -/
theorem exists_parts_of_ofTree (htree : tree.IsProper) {catalogue : Catalogue}
    (h : Catalogue.ofTree tree path template reference skip = .ok catalogue) :
    ∃ kept skipped,
      Parts (FindsDocument tree path) (fun stem => nameText stem ∈ skip) kept skipped ∧
      List.Forall₂ (fun file d => Gives template reference (nameText file.1) file.2 d)
        kept catalogue.definitions ∧
      List.Forall₂ (fun file stem => stemText? file.1 = some stem) skipped catalogue.skipped := by
  obtain ⟨directory, hplace, hdirectory⟩ := exists_directory h
  obtain ⟨kept, skipped, stems, hparts, hstems, hmade⟩ :=
    exists_parts htree hplace hdirectory template reference skip
  rw [hmade, ofDocuments_eq_ok_iff, mapM_definition_eq_ok_iff] at h
  obtain ⟨hgives, -, -, rfl⟩ := h
  exact ⟨kept, skipped, hparts, hgives, hstems⟩

/-- What is loaded from a directory. The documents that are found there (`FindsDocument`) are parted
in those that are kept and those that are skipped, both in the order of their names (`Parts`). The
definitions are what the former give, stamped with the addresses of the texts of their names
(`Gives`), and of the latter the texts of the stems are listed.

A document is found if its path is short enough. So the promise `IsWhole` is kept exactly if every
document that stands in the directory has a short path and a name that is a text. The order in which
the files are found does not matter, as long as no two things stand at one place, which is what
`FileTree.IsProper` asks for. -/
theorem parts_of_loadFrom {tree after : FileTree} (htree : tree.IsProper)
    {path template reference : String} {skip : List String} {catalogue : Catalogue}
    (h : Catalogue.loadFrom tree path template reference skip = (.ok catalogue, after)) :
    (∃ kept skipped,
      Parts (FindsDocument tree path) (fun stem => nameText stem ∈ skip) kept skipped ∧
      List.Forall₂ (fun file d => Gives template reference (nameText file.1) file.2 d)
        kept catalogue.definitions ∧
      List.Forall₂ (fun file stem => stemText? file.1 = some stem) skipped catalogue.skipped) ∧
    (IsWhole tree path template reference skip catalogue ↔
      ∀ stem name content, HasDocument tree path stem name content →
        isLongPath (inDirectory (bytes path) name) = false ∧ IsText name) ∧
    ∀ other : FileTree, other.entries.Perm tree.entries → other.work = tree.work →
      Catalogue.loadFrom other path template reference skip = (.ok catalogue, other) := by
  rw [loadFrom_eq, Prod.mk.injEq] at h
  obtain ⟨hloaded, -⟩ := h
  obtain ⟨kept, skipped, hparts, hgives, hstems⟩ := exists_parts_of_ofTree htree hloaded
  refine ⟨⟨kept, skipped, hparts, hgives, hstems⟩, isWhole_iff hparts hgives hstems, ?_⟩
  intro other hperm hwork
  rw [loadFrom_eq, ofTree_of_perm htree hperm hwork, hloaded]

/-- A value of which something was seen is there. It takes the examples, which are decided, to the
form of the theorems. -/
theorem exists_ok_of_map_toOption {ε α β : Type} {result : Except ε α} {look : α → β} {seen : β}
    (h : result.toOption.map look = some seen) :
    ∃ value, result = .ok value ∧ look value = seen := by
  cases result with
  | error reason => cases h
  | ok value => exact ⟨value, rfl, Option.some.inj h⟩

/-- The bytes of a name that is no text, with the extension of a document. `nameText` makes the
empty text of it. -/
def rawName : FileName :=
  0xFF :: bytes ".yaml"

/-- A directory with documents, one of them to be skipped and one whose name is no text, and with
a file and a directory whose names only look like those of documents. -/
def commandFiles : FileTree where
  entries :=
    [([bytes "d"], .directory),
      ([bytes "d", bytes "ps.yml"], .file "command: docker ps".toUTF8),
      ([bytes "d", bytes "cp.yaml"], .file "command: [".toUTF8),
      ([bytes "d", bytes "ls.yaml"], .directory),
      ([bytes "d", rawName], .file "command: docker raw".toUTF8),
      ([bytes "d", bytes ".yaml"], .file "command: docker".toUTF8),
      ([bytes "d", bytes "a.ps.yaml"], .file "command: docker a ps".toUTF8)]

/-- The names under which documents are found in it. `List.mergeSort` does not run in proofs, so
the order is checked instead. -/
theorem foundNames_commandFiles :
    foundNames commandFiles "d" (commandFiles.namesIn [bytes "d"]) =
      [bytes "a.ps.yaml", bytes "cp.yaml", bytes "ps.yml", rawName] :=
  mergeSort_eq (by decide +kernel) (by decide +kernel)

/-- What `foundNames` finds in it makes the catalogue. -/
theorem ofTree_commandFiles (template reference : String) (skip : List String) :
    Catalogue.ofTree commandFiles "d" template reference skip =
      let names := [bytes "a.ps.yaml", bytes "cp.yaml", bytes "ps.yml", rawName]
      Catalogue.ofDocuments "d" template reference
        ((names.filter (isSkipped skip)).filterMap stemText?)
        ((names.filter fun name => !isSkipped skip name).map fun name =>
          ⟨nameText name, commandFiles.read (inDirectory (bytes "d") name)⟩) := by
  have hlisted : commandFiles.entryNames (bytes "d") =
      .ok (commandFiles.namesIn [bytes "d"]) :=
    FileTree.entryNames_eq_ok_iff.2 ⟨[bytes "d"], rfl, rfl, rfl⟩
  rw [ofTree_of_listed hlisted, foundNames_commandFiles]

/-- Three definitions are loaded from `commandFiles` and one document is skipped. The address of the
third lacks the name of its document (`rawName`), so the promise is not kept. -/
theorem parts_of_commandFiles :
    ∃ catalogue : Catalogue,
      catalogue.definitions.map (fun d => (d.command, d.reference)) =
        [("docker a ps", "v1/a.ps.yaml"), ("docker ps", "v1/ps.yml"), ("docker raw", "v1/")] ∧
      catalogue.skipped = ["cp"] ∧
      (∃ kept skipped,
        Parts (FindsDocument commandFiles "d") (fun stem => nameText stem ∈ ["cp", "cp"])
          kept skipped ∧
        List.Forall₂ (fun file d =>
          Gives (referenceMark ++ "/" ++ fileMark) "v1" (nameText file.1) file.2 d)
          kept catalogue.definitions ∧
        List.Forall₂ (fun file stem => stemText? file.1 = some stem) skipped catalogue.skipped) ∧
      ¬IsWhole commandFiles "d" (referenceMark ++ "/" ++ fileMark) "v1" ["cp", "cp"] catalogue ∧
      ∀ other : FileTree, other.entries.Perm commandFiles.entries → other.work = [] →
        Catalogue.loadFrom other "d" (referenceMark ++ "/" ++ fileMark) "v1" ["cp", "cp"] =
          (.ok catalogue, other) := by
  have hseen : (Catalogue.ofTree commandFiles "d" (referenceMark ++ "/" ++ fileMark) "v1"
      ["cp", "cp"]).toOption.map (fun catalogue =>
        (catalogue.definitions.map fun d => (d.command, d.reference), catalogue.skipped)) =
      some ([("docker a ps", "v1/a.ps.yaml"), ("docker ps", "v1/ps.yml"), ("docker raw", "v1/")],
        ["cp"]) := by
    rw [ofTree_commandFiles]
    decide +kernel
  obtain ⟨catalogue, hcatalogue, hread⟩ := exists_ok_of_map_toOption hseen
  obtain ⟨hdefinitions, hskipped⟩ := Prod.mk.inj hread
  have hloaded : Catalogue.loadFrom commandFiles "d" (referenceMark ++ "/" ++ fileMark) "v1"
      ["cp", "cp"] = (.ok catalogue, commandFiles) := by
    rw [loadFrom_eq, hcatalogue]
  have hproper : commandFiles.IsProper := by
    decide +kernel
  obtain ⟨hparts, hwhole, hperm⟩ := parts_of_loadFrom hproper hloaded
  refine ⟨catalogue, hdefinitions, hskipped, hparts, fun h => ?_, hperm⟩
  -- The name of this document is no text, which a whole catalogue excludes.
  have hraw : HasDocument commandFiles "d" [0xFF] rawName "command: docker raw".toUTF8 :=
    ⟨by decide, [bytes "d"], rfl, rfl⟩
  exact absurd (hwhole.1 h _ _ _ hraw).2 (by decide)

/-! ### Paths that are too long -/

/-- A directory with two documents, `a.yaml` and `aa.yaml`, the second of which may hold
anything. -/
def twoDocuments (content : ByteArray) : FileTree where
  entries :=
    [([bytes "d"], .directory),
      ([bytes "d", bytes "a.yaml"], .file "command: docker a".toUTF8),
      ([bytes "d", bytes "aa.yaml"], .file content)]

/-- A path of the directory that is so long that only the shorter name can stand behind it: one byte
for the name of the directory and 4088 strokes. -/
def longPath : String :=
  "d" ++ String.ofList (List.replicate 4088 '/')

/-- The long path is that of the directory with strokes behind it (`withStrokes`), which change
nothing but its length. -/
theorem bytes_longPath : bytes longPath = withStrokes (bytes "d") 4088 := by
  have hstroke : String.utf8EncodeChar '/' = [strokeByte] := by decide
  have hstrokes : bytes (String.ofList (List.replicate 4088 '/')) =
      List.replicate 4088 strokeByte := by
    rw [bytes_eq_flatMap, String.toList_ofList, List.flatMap_replicate, hstroke,
      List.flatten_replicate_singleton]
  rw [longPath, bytes_append, hstrokes, withStrokes]

/-- The `longPath` leads to the directory, as strokes at the end of a path name nothing. -/
theorem place_longPath (content : ByteArray) :
    (twoDocuments content).place (bytes longPath) = .ok [bytes "d"] := by
  have hshort : isLongPath (withStrokes (bytes "d") 4088) = false := by
    rw [isLongPath, withStrokes, List.length_append, List.length_replicate]
    decide
  rw [bytes_longPath]
  exact FileTree.place_withStrokes rfl rfl hshort

/-- With the long path in front of it, a name of six bytes is short enough and longer ones are
not: the path takes 4089 bytes and ends in a stroke. -/
theorem isLongPath_longPath (name : FileName) :
    isLongPath (inDirectory (bytes longPath) name) = decide (7 ≤ name.length) := by
  rw [bytes_longPath, inDirectory_withStrokes, isLongPath, withStrokes, List.length_append,
    List.length_append, List.length_replicate]
  have hlength : (bytes "d").length = 1 := by decide
  rw [hlength, decide_eq_decide]
  omega

/-- Loading from the long path passes over the document with the longer name, whatever it holds:
`isLongPath` is asked of each name before anything is read. -/
theorem ofTree_twoDocuments (content : ByteArray) (template reference : String) :
    Catalogue.ofTree (twoDocuments content) longPath template reference [] =
      Catalogue.ofDocuments longPath template reference []
        [⟨"a.yaml", .ok "command: docker a".toUTF8⟩] := by
  have hplace := place_longPath content
  have hlisted : (twoDocuments content).entryNames (bytes longPath) =
      .ok [bytes "a.yaml", bytes "aa.yaml"] :=
    FileTree.entryNames_eq_ok_iff.2 ⟨[bytes "d"], hplace, rfl, rfl⟩
  have hfirst : (twoDocuments content).isFile (inDirectory (bytes longPath) (bytes "a.yaml")) =
      true := by
    rw [FileTree.isFile_inDirectory_iff hplace rfl (by decide), isLongPath_longPath]
    exact ⟨⟨_, rfl⟩, by decide⟩
  -- The path to the second document is longer by one byte, and that is too long.
  have hsecond : (twoDocuments content).isFile
      (inDirectory (bytes longPath) (bytes "aa.yaml")) = false := by
    rw [← Bool.not_eq_true, FileTree.isFile_inDirectory_iff hplace rfl (by decide),
      isLongPath_longPath]
    exact fun h => absurd h.2 (by decide)
  have hnames : foundNames (twoDocuments content) longPath [bytes "a.yaml", bytes "aa.yaml"] =
      [bytes "a.yaml"] := by
    have hdocuments : [bytes "a.yaml", bytes "aa.yaml"].filter isDocumentName =
        [bytes "a.yaml", bytes "aa.yaml"] := by decide
    rw [foundNames, hdocuments]
    simp [hfirst, hsecond]
  have hread : (twoDocuments content).read (inDirectory (bytes longPath) (bytes "a.yaml")) =
      .ok "command: docker a".toUTF8 := by
    refine FileTree.read_inDirectory hplace rfl (by decide) rfl ?_
    rw [isLongPath_longPath]
    decide
  have hkept : [bytes "a.yaml"].filter (fun name => !isSkipped [] name) = [bytes "a.yaml"] := by
    decide
  have hskipped : [bytes "a.yaml"].filter (isSkipped []) = [] := by
    decide
  rw [ofTree_of_listed hlisted, hnames, hkept, hskipped, List.map_singleton, hread, nameText_bytes]
  rfl

/-- What the first document of `twoDocuments` gives is loaded from the long path, whatever the
second one holds. -/
theorem exists_ofTree_twoDocuments (content : ByteArray) :
    ∃ catalogue : Catalogue, Catalogue.ofTree (twoDocuments content) longPath "" "" [] =
        .ok catalogue ∧
      catalogue.definitions.map (fun d => d.command) = ["docker a"] ∧ catalogue.skipped = [] := by
  have hseen : (Catalogue.ofDocuments longPath "" "" []
      [⟨"a.yaml", .ok "command: docker a".toUTF8⟩]).toOption.map (fun catalogue =>
        (catalogue.definitions.map fun d => d.command, catalogue.skipped)) =
      some (["docker a"], []) := by
    decide +kernel
  obtain ⟨catalogue, hcatalogue, hread⟩ := exists_ok_of_map_toOption hseen
  obtain ⟨hdefinitions, hskipped⟩ := Prod.mk.inj hread
  exact ⟨catalogue, (ofTree_twoDocuments content "" "").trans hcatalogue, hdefinitions, hskipped⟩

/-- So of two documents in a directory one is neither loaded nor skipped, and the promise `IsWhole`
is not kept: one definition is loaded where there are two documents and nothing is to be skipped. -/
theorem lost_document :
    ∃ catalogue : Catalogue,
      (Catalogue.loadFrom (twoDocuments "command: docker aa".toUTF8) longPath "" "" []).1 =
        .ok catalogue ∧
      catalogue.definitions.map (fun d => d.command) = ["docker a"] ∧ catalogue.skipped = [] ∧
      HasDocument (twoDocuments "command: docker aa".toUTF8) longPath (bytes "aa")
        (bytes "aa.yaml") "command: docker aa".toUTF8 ∧
      ¬IsWhole (twoDocuments "command: docker aa".toUTF8) longPath "" "" [] catalogue := by
  obtain ⟨catalogue, hcatalogue, hdefinitions, hskipped⟩ :=
    exists_ofTree_twoDocuments "command: docker aa".toUTF8
  have hloaded : (Catalogue.loadFrom (twoDocuments "command: docker aa".toUTF8) longPath "" ""
      []).1 = .ok catalogue := by
    rw [loadFrom_eq, hcatalogue]
  have hplace := place_longPath "command: docker aa".toUTF8
  have hsecond : HasDocument (twoDocuments "command: docker aa".toUTF8) longPath (bytes "aa")
      (bytes "aa.yaml") "command: docker aa".toUTF8 :=
    ⟨by decide, [bytes "d"], hplace, rfl⟩
  have hproper : (twoDocuments "command: docker aa".toUTF8).IsProper := by
    decide +kernel
  refine ⟨catalogue, hloaded, hdefinitions, hskipped, hsecond, fun hwhole => ?_⟩
  obtain ⟨kept, skipped, hparts, hgives, hstems⟩ := exists_parts_of_ofTree hproper hcatalogue
  -- Were the catalogue whole, the path to the lost document would be short enough.
  have hshort := hwhole.short hparts hgives hstems hsecond
  rw [isLongPath_longPath] at hshort
  exact absurd hshort (by decide)

end WrapperModel.Definition
