import WrapperModel.Proofs.Definition.Catalogue

/-!
# `WrapperModel.Proofs.Definition.Skipping`: skipping documents and the first that fails

What is loaded from a directory, or the error, depends on the documents alone that remain when
those to be skipped are taken away. Among these the first that gives no definition decides.

A document remains if it is found and the text of its stem is not to be skipped. The promise
that is made is about all documents that stand in the directory and about their names as they
are. It is kept, whatever the files hold, where each document that is not to be skipped has a
short path and a name that is a text.

* `outcome_eq_of_remains`: directories in which the same documents remain have one outcome.
* `decides_outcomeOf`, `outcomeOf_eq_of_decides`: the outcome is the one that they decide.
* `outcome_withoutFiles`, `outcome_refilled`: skipping is taking away, and other files have no
  influence.
* `asPromised_of_documents`, `short_isText_of_asPromised`: where the promise is kept.
* `outcome_depends_on_remaining`: all of this together.
* `outcome_lost`: a directory for which the promise is not kept.
-/

set_option autoImplicit false

namespace WrapperModel.Definition

open WrapperModel.Files
open WrapperModel.Text (bytes isBlankText IsText)

variable {tree : FileTree} {path template reference : String} {skip : List String}

/-! ### Outcomes -/

/-- The definitions that a directory gives, or why it gives none. What was skipped is left out of
it, since skipping is to be like taking away. -/
def outcome (tree : FileTree) (path template reference : String) (skip : List String) :
    Except CatalogueError (List CommandDefinition) :=
  (Catalogue.loadFrom tree path template reference skip).1.map Catalogue.definitions

/-- What the documents that remain decide: that there are no definitions if none of them is
there, the error of the first that fails, or the definitions of all of them in their order. Which
documents remain is said by `remains`, and by which text each is called that is stamped or
reported, by `called`. -/
inductive Decides (remains : FileName → ByteArray → Prop) (called : FileName → String → Prop)
    (path template reference : String) : Except CatalogueError (List CommandDefinition) → Prop
  | nothing (h : ∀ name content, ¬remains name content) :
    Decides remains called path template reference (.error (.noDefinitions path))
  | first {name : FileName} {text : String} {content : ByteArray} {reason : CatalogueError}
    (h : remains name content) (hcalled : called name text)
    (hfails : Fails template reference text content reason)
    (hbefore : ∀ other held, remains other held → other < name →
      ∃ text d, called other text ∧ Gives template reference text held d) :
    Decides remains called path template reference (.error reason)
  | all {files : List (FileName × ByteArray)} {definitions : List CommandDefinition}
    (hsome : files ≠ []) (hascending : IsAscending files)
    (hmem : ∀ name content, (name, content) ∈ files ↔ remains name content)
    (hgives : List.Forall₂ (fun file d =>
        ∃ text, called file.1 text ∧ Gives template reference text file.2 d)
      files definitions) :
    Decides remains called path template reference (.ok definitions)

/-- What decides depends on the documents that remain and on what these are called. It carries
`Decides` from one directory to another. -/
theorem Decides.congr {remains others : FileName → ByteArray → Prop}
    {called named : FileName → String → Prop}
    {result : Except CatalogueError (List CommandDefinition)}
    (h : Decides remains called path template reference result)
    (hremains : ∀ name content, others name content ↔ remains name content)
    (hcalled : ∀ name content, remains name content →
      ∀ text, called name text → named name text) :
    Decides others named path template reference result := by
  -- Each way to decide speaks of the documents that remain, and of nothing else.
  cases h with
  | nothing hnone =>
    refine .nothing fun name content hother => ?_
    exact hnone name content ((hremains name content).1 hother)
  | @first name text content reason hfirst hfirst_called hfails hbefore =>
    refine .first ((hremains name content).2 hfirst)
      (hcalled name content hfirst text hfirst_called) hfails fun other held hother hlt => ?_
    have hstands := (hremains other held).1 hother
    obtain ⟨said, d, hsaid, hgives⟩ := hbefore other held hstands hlt
    exact ⟨said, d, hcalled other held hstands said hsaid, hgives⟩
  | @all files definitions hsome hascending hmem hgives =>
    refine .all hsome hascending (fun name content => ?_) ?_
    · rw [hmem, hremains]
    · have hall : ∀ file ∈ files, remains file.1 file.2 := fun file => (hmem file.1 file.2).1
      refine ((List.forall₂_and_left _ _).2 ⟨hall, hgives⟩).imp ?_
      rintro file d ⟨hfile, text, htext, hgive⟩
      exact ⟨text, hcalled file.1 file.2 hfile text htext, hgive⟩

/-- The outcome of reading documents, of which there have to be some. It is `Catalogue.ofDocuments`
without what that only carries along. -/
def outcomeOf (path template reference : String) (files : List (FileName × ByteArray)) :
    Except CatalogueError (List CommandDefinition) :=
  match (documentsOf files).mapM (FoundDocument.definition template reference) with
  | .ok [] => .error (.noDefinitions path)
  | .ok definitions => .ok definitions
  | .error reason => .error reason

/-- The outcome for a directory is that of reading the documents that remain, in order
(`outcomeOf`). -/
theorem exists_outcome_eq (htree : tree.IsProper) {directory : Place}
    (hplace : tree.place (bytes path) = .ok directory)
    (hdirectory : tree.get? directory = some .directory) :
    ∃ kept, IsAscending kept ∧
      (∀ name content, (name, content) ∈ kept ↔ Remains tree path skip name content) ∧
      outcome tree path template reference skip = outcomeOf path template reference kept := by
  obtain ⟨kept, skipped, stems, hparts, -, hmade⟩ :=
    exists_parts htree hplace hdirectory template reference skip
  refine ⟨kept, hparts.kept_ascending, hparts.mem_kept, ?_⟩
  rw [outcome, loadFrom_eq, hmade, Catalogue.ofDocuments, outcomeOf]
  cases (documentsOf kept).mapM (FoundDocument.definition template reference) with
  | error reason => rfl
  | ok definitions => cases definitions <;> rfl

/-- There is no outcome for a directory of which the names cannot be listed but the error of listing
them. Nothing is skipped then. -/
theorem outcome_of_unlisted {reason : FileError}
    (h : tree.entryNames (bytes path) = .error reason) :
    outcome tree path template reference skip = .error (.unread reason) := by
  rw [outcome, loadFrom_eq, ofTree_of_unlisted h]
  rfl

/-- Directories in which the same documents remain (`Remains`) have the same outcome, whatever else
stands in them. -/
theorem outcome_eq_of_remains {other : FileTree} {otherSkip : List String} (htree : tree.IsProper)
    (hother : other.IsProper) {directory : Place}
    (hplace : tree.place (bytes path) = .ok directory)
    (hdirectory : tree.get? directory = some .directory)
    (hplace_other : other.place (bytes path) = .ok directory)
    (hdirectory_other : other.get? directory = some .directory)
    (hremains : ∀ name content,
      Remains other path otherSkip name content ↔ Remains tree path skip name content) :
    outcome other path template reference otherSkip =
      outcome tree path template reference skip := by
  obtain ⟨kept, hkept, hmem, heq⟩ := exists_outcome_eq htree hplace hdirectory
  obtain ⟨others, hothers, hmem_others, heq_other⟩ :=
    exists_outcome_eq hother hplace_other hdirectory_other
  -- An ascending list is fixed by its members, so both runs read the same documents.
  have hsame : others = kept := by
    apply hothers.eq_of_mem_iff hkept
    intro name content
    rw [hmem_others, hmem, hremains]
  rw [heq, heq_other, hsame]

/-! ### The first that fails -/

/-- In a list of documents in order, those in front of one are those whose names come before its
name. So "the first that fails" can be said without the list. -/
theorem IsAscending.mem_before_iff {before after : List (FileName × ByteArray)}
    {file other : FileName × ByteArray} (h : IsAscending (before ++ file :: after)) :
    other ∈ before ↔ other ∈ before ++ file :: after ∧ other.1 < file.1 := by
  obtain ⟨-, hafter, hbefore⟩ := List.pairwise_append.1 h
  constructor
  · intro hother
    exact ⟨List.mem_append_left _ hother, hbefore other hother file List.mem_cons_self⟩
  · rintro ⟨hother, hlt⟩
    rcases List.mem_append.1 hother with hother | hother
    · exact hother
    · -- The file itself and what stands behind it are not below it.
      rcases List.mem_cons.1 hother with rfl | hother
      · exact absurd hlt (List.lt_irrefl _)
      · exact absurd ((List.pairwise_cons.1 hafter).1 other hother) (List.lt_asymm hlt)

section

variable {remains : FileName → ByteArray → Prop} {files : List (FileName × ByteArray)}
  (hascending : IsAscending files)
  (hmem : ∀ name content, (name, content) ∈ files ↔ remains name content)

include hascending hmem

/-- Reading the documents that remain, in order, has an outcome that they decide (`Decides`). -/
theorem decides_outcomeOf :
    Decides remains (fun name text => nameText name = text) path template reference
      (outcomeOf path template reference files) := by
  unfold outcomeOf
  split
  · -- Reading gave no definition and did not fail, so no document was there.
    rename_i hread
    rw [mapM_definition_eq_ok_iff, List.forall₂_nil_right_iff] at hread
    apply Decides.nothing
    intro name content h
    have hfile := (hmem name content).2 h
    rw [hread] at hfile
    cases hfile
  · rename_i definitions hsome hread
    rw [mapM_definition_eq_ok_iff] at hread
    refine .all ?_ hascending hmem (hread.imp fun file d hgives => ⟨_, rfl, hgives⟩)
    rintro rfl
    exact hsome (List.forall₂_nil_left_iff.1 hread)
  · rename_i reason hread
    -- Reading stopped at the first document that failed, and the list is ascending.
    obtain ⟨before, file, after, rfl, hbefore, hfails⟩ := mapM_definition_eq_error_iff.1 hread
    refine .first ((hmem file.1 file.2).1 (by simp)) rfl hfails ?_
    intro other held hother hlt
    obtain ⟨d, hgives⟩ :=
      hbefore (other, held) (hascending.mem_before_iff.2 ⟨(hmem other held).2 hother, hlt⟩)
    exact ⟨_, d, rfl, hgives⟩

/-- No other outcome is decided by the documents that remain, so `Decides` determines it. -/
theorem outcomeOf_eq_of_decides {result : Except CatalogueError (List CommandDefinition)}
    (h : Decides remains (fun name text => nameText name = text) path template reference result) :
    outcomeOf path template reference files = result := by
  -- What decides fixes how far reading comes: over nothing, up to the first, or to the end.
  unfold outcomeOf
  cases h with
  | nothing hnone =>
    have hfiles : files = [] := by
      apply List.eq_nil_iff_forall_not_mem.2
      intro file hfile
      exact hnone file.1 file.2 ((hmem file.1 file.2).1 hfile)
    rw [hfiles]
    rfl
  | @first name text content reason hremains hcalled hfails hbefore =>
    obtain ⟨before, after, hsplit⟩ := List.append_of_mem ((hmem name content).2 hremains)
    subst hsplit hcalled
    have hgive : ∀ other ∈ before, ∃ d, Gives template reference (nameText other.1) other.2 d := by
      intro other hother
      obtain ⟨hfile, hlt⟩ := hascending.mem_before_iff.1 hother
      obtain ⟨_, d, rfl, hgives⟩ :=
        hbefore other.1 other.2 ((hmem other.1 other.2).1 hfile) hlt
      exact ⟨d, hgives⟩
    rw [mapM_definition_eq_error_iff.2 ⟨before, (name, content), after, rfl, hgive, hfails⟩]
  | @all others definitions hsome hothers hmem_others hgives =>
    have hsame : others = files := by
      apply hothers.eq_of_mem_iff hascending
      intro name content
      rw [hmem_others, hmem]
    subst hsame
    have hread : List.Forall₂ (fun file d => Gives template reference (nameText file.1) file.2 d)
        others definitions := hgives.imp fun file d ⟨_, htext, hgive⟩ => htext ▸ hgive
    rw [mapM_definition_eq_ok_iff.2 hread]
    cases hgives with
    | nil => exact absurd rfl hsome
    | cons => rfl

end

/-- The outcome for a directory is the one that the documents decide which remain, each called by
the text of its name. -/
theorem outcome_eq_iff (htree : tree.IsProper) {directory : Place}
    (hplace : tree.place (bytes path) = .ok directory)
    (hdirectory : tree.get? directory = some .directory)
    {result : Except CatalogueError (List CommandDefinition)} :
    outcome tree path template reference skip = result ↔
      Decides (Remains tree path skip) (fun name text => nameText name = text)
        path template reference result := by
  obtain ⟨kept, hascending, hmem, heq⟩ := exists_outcome_eq htree hplace hdirectory
  rw [heq]
  constructor
  · rintro rfl
    exact decides_outcomeOf hascending hmem
  · exact outcomeOf_eq_of_decides hascending hmem

/-! ### Taking documents away -/

/-- The tree in which those files of a directory are taken away whose names are `dropped`.
Directories and files elsewhere stay. -/
def withoutFiles (tree : FileTree) (path : String) (dropped : FileName → Bool) : FileTree :=
  match tree.place (bytes path) with
  | .ok directory =>
    { tree with entries := tree.entries.filter fun thing =>
        !(thing.2.isFile && (FileTree.nameIn? directory thing).any dropped) }
  | .error _ => tree

section

variable {directory : Place} {dropped : FileName → Bool} (htree : tree.IsProper)
  (hplace : tree.place (bytes path) = .ok directory)

include hplace in
/-- The files that are taken away are those of the directory to which the path leads, said with its
place. -/
theorem withoutFiles_eq : withoutFiles tree path dropped =
    { tree with entries := tree.entries.filter fun thing =>
        !(thing.2.isFile && (FileTree.nameIn? directory thing).any dropped) } := by
  rw [withoutFiles, hplace]

include htree hplace

/-- A directory stands in the tree of `withoutFiles` where it stood: only files are taken away. -/
theorem get?_withoutFiles_directory {place : Place} (h : tree.get? place = some .directory) :
    (withoutFiles tree path dropped).get? place = some .directory := by
  rw [withoutFiles_eq hplace]
  cases place with
  | nil => rfl
  | cons name rest => exact (htree.get?_filter (by simp)).2 ⟨h, rfl⟩

/-- The path leads to the same place without the files (`withoutFiles`), since it goes through
directories alone. -/
theorem place_withoutFiles :
    (withoutFiles tree path dropped).place (bytes path) = .ok directory := by
  have hwork : (withoutFiles tree path dropped).work = tree.work := by
    rw [withoutFiles_eq hplace]
  exact FileTree.place_mono hwork (fun _ h => get?_withoutFiles_directory htree hplace h) hplace

/-- What stands at the end of the path stands there still (`withoutFiles`), as it is a directory. -/
theorem get?_withoutFiles_self :
    (withoutFiles tree path dropped).get? directory = tree.get? directory := by
  -- The root has no name, and stands whatever is taken away.
  by_cases hroot : directory = []
  · rw [hroot]
    rfl
  · rw [withoutFiles_eq hplace]
    apply Option.ext
    intro entry
    rw [htree.get?_filter hroot, FileTree.nameIn?_self]
    simp

/-- A file of the directory is taken away by `withoutFiles` exactly if its name is dropped. -/
theorem get?_withoutFiles_file {name : FileName} {content : ByteArray} :
    (withoutFiles tree path dropped).get? (directory ++ [name]) = some (.file content) ↔
      tree.get? (directory ++ [name]) = some (.file content) ∧ dropped name = false := by
  have hlisted : FileTree.nameIn? directory (directory ++ [name], .file content) = some name :=
    FileTree.nameIn?_eq_some_iff.2 rfl
  rw [withoutFiles_eq hplace, htree.get?_filter (by simp), hlisted]
  simp [Entry.isFile]

/-- The documents that are found after files were taken away (`withoutFiles`) are those that were
found, without the ones that are dropped. -/
theorem findsDocument_withoutFiles_iff {stem name : FileName} {content : ByteArray} :
    FindsDocument (withoutFiles tree path dropped) path stem name content ↔
      FindsDocument tree path stem name content ∧ dropped name = false := by
  constructor
  · rintro ⟨hdocument, hshort⟩
    obtain ⟨hnamed, hstands⟩ := (hasDocument_iff (place_withoutFiles htree hplace)).1 hdocument
    -- A file stands in the smaller tree if it stood before and is not dropped.
    obtain ⟨hstood, hkept⟩ := (get?_withoutFiles_file htree hplace).1 hstands
    exact ⟨⟨(hasDocument_iff hplace).2 ⟨hnamed, hstood⟩, hshort⟩, hkept⟩
  · rintro ⟨⟨hdocument, hshort⟩, hkept⟩
    obtain ⟨hnamed, hstands⟩ := (hasDocument_iff hplace).1 hdocument
    have hstill := (get?_withoutFiles_file htree hplace).2 ⟨hstands, hkept⟩
    exact ⟨(hasDocument_iff (place_withoutFiles htree hplace)).2 ⟨hnamed, hstill⟩, hshort⟩

end

/-- What cannot be listed cannot be listed without some files (`withoutFiles`), and the error is the
same: it is met on the way to the directory. -/
theorem entryNames_withoutFiles_of_error {dropped : FileName → Bool} (htree : tree.IsProper)
    {reason : FileError} (h : tree.entryNames (bytes path) = .error reason) :
    (withoutFiles tree path dropped).entryNames (bytes path) = .error reason := by
  rw [FileTree.entryNames_eq_error_iff] at h
  -- A path that leads nowhere leaves the tree as it is.
  rcases h with hnowhere | ⟨place, hplace, hother⟩
  · have hsame : withoutFiles tree path dropped = tree := by
      rw [withoutFiles, hnowhere]
    rw [hsame, FileTree.entryNames_eq_error_iff]
    exact .inl hnowhere
  · rw [FileTree.entryNames_eq_error_iff]
    refine .inr ⟨place, place_withoutFiles htree hplace, ?_⟩
    rw [get?_withoutFiles_self htree hplace]
    exact hother

/-- Skipping documents is taking files away (`withoutFiles`), as long as of the documents that are
found those are taken away that are skipped. What is taken away beside them makes no difference. -/
theorem outcome_withoutFiles (htree : tree.IsProper) {dropped : FileName → Bool}
    (hdropped : ∀ stem name content, FindsDocument tree path stem name content →
      (dropped name = true ↔ nameText stem ∈ skip)) :
    outcome (withoutFiles tree path dropped) path template reference [] =
      outcome tree path template reference skip := by
  cases hnames : tree.entryNames (bytes path) with
  | error reason =>
    -- The path leads to no directory, and does not once files are taken away.
    rw [outcome_of_unlisted hnames,
      outcome_of_unlisted (entryNames_withoutFiles_of_error htree hnames)]
  | ok names =>
    obtain ⟨directory, hplace, hdirectory, -⟩ := FileTree.entryNames_eq_ok_iff.1 hnames
    have hproper : (withoutFiles tree path dropped).IsProper := by
      rw [withoutFiles_eq hplace]
      exact htree.filter _
    -- The smaller tree is read with nothing to skip, and the same documents remain.
    refine outcome_eq_of_remains htree hproper hplace hdirectory
      (place_withoutFiles htree hplace) (get?_withoutFiles_directory htree hplace hdirectory) ?_
    intro name content
    apply exists_congr
    intro stem
    rw [findsDocument_withoutFiles_iff htree hplace]
    constructor
    · rintro ⟨⟨hfound, hkept⟩, -⟩
      refine ⟨hfound, fun hskipped => ?_⟩
      rw [(hdropped _ _ _ hfound).2 hskipped] at hkept
      cases hkept
    · rintro ⟨hfound, hkept⟩
      refine ⟨⟨hfound, ?_⟩, by simp⟩
      rw [← Bool.not_eq_true, hdropped _ _ _ hfound]
      exact hkept

/-! ### Other contents -/

/-- The documents of a directory whose files are filled anew (`FileTree.refilled`) are the same
names with other contents. -/
theorem hasDocument_refilled_iff {fill : Place → ByteArray} {directory : Place}
    (hplace : tree.place (bytes path) = .ok directory) {stem name : FileName}
    {content : ByteArray} :
    HasDocument (tree.refilled fill) path stem name content ↔
      (∃ old, HasDocument tree path stem name old) ∧ content = fill (directory ++ [name]) := by
  have hplace_refilled : (tree.refilled fill).place (bytes path) = .ok directory := by
    rw [FileTree.place_refilled, hplace]
  -- The same files stand in the same places, with other contents.
  rw [hasDocument_iff hplace_refilled, FileTree.get?_refilled_eq_file_iff]
  simp only [hasDocument_iff hplace]
  constructor
  · rintro ⟨hnamed, ⟨old, hold⟩, hcontent⟩
    exact ⟨⟨old, hnamed, hold⟩, hcontent⟩
  · rintro ⟨⟨old, hnamed, hold⟩, hcontent⟩
    exact ⟨hnamed, ⟨old, hold⟩, hcontent⟩

/-- What files hold that do not remain (`Remains`) has no influence, whether they are to be skipped,
are no documents, or stand elsewhere. -/
theorem outcome_refilled (htree : tree.IsProper) {directory : Place}
    (hplace : tree.place (bytes path) = .ok directory)
    (hdirectory : tree.get? directory = some .directory) {fill : Place → ByteArray}
    (hfill : ∀ name content, Remains tree path skip name content →
      fill (directory ++ [name]) = content) :
    outcome (tree.refilled fill) path template reference skip =
      outcome tree path template reference skip := by
  have hplace_refilled : (tree.refilled fill).place (bytes path) = .ok directory := by
    rw [FileTree.place_refilled, hplace]
  refine outcome_eq_of_remains htree (htree.refilled fill) hplace hdirectory hplace_refilled
    (FileTree.get?_refilled_directory hdirectory) ?_
  intro name content
  apply exists_congr
  intro stem
  constructor
  · rintro ⟨⟨hdocument, hshort⟩, hkept⟩
    obtain ⟨⟨old, hold⟩, rfl⟩ := (hasDocument_refilled_iff hplace).1 hdocument
    -- The content of a document that remains is what it was, by the hypothesis.
    rw [hfill name old ⟨stem, ⟨hold, hshort⟩, hkept⟩]
    exact ⟨⟨hold, hshort⟩, hkept⟩
  · rintro ⟨⟨hdocument, hshort⟩, hkept⟩
    have hcontent := hfill name content ⟨stem, ⟨hdocument, hshort⟩, hkept⟩
    exact ⟨⟨(hasDocument_refilled_iff hplace).2 ⟨⟨content, hdocument⟩, hcontent.symm⟩, hshort⟩,
      hkept⟩

/-! ### What is promised -/

/-- The name is that of a document whose stem is to be skipped, byte by byte. Here nothing is made
of a stem that is no text, unlike `isSkipped`. -/
def IsSkippedName (skip : List String) (name : FileName) : Prop :=
  ∃ stem ∈ skip, IsDocumentName (bytes stem) name

instance (skip : List String) (name : FileName) : Decidable (IsSkippedName skip name) :=
  inferInstanceAs (Decidable (∃ stem ∈ skip, _))

/-- A document has the name of one to be skipped (`IsSkippedName`) exactly if its stem is to be
skipped, since it has one stem only. -/
theorem IsDocumentName.isSkippedName_iff {stem name : FileName} (h : IsDocumentName stem name) :
    IsSkippedName skip name ↔ stem ∈ skip.map bytes := by
  rw [List.mem_map]
  constructor
  · rintro ⟨text, htext, hname⟩
    exact ⟨text, htext, hname.stem_unique h⟩
  · rintro ⟨text, htext, rfl⟩
    exact ⟨text, htext, h⟩

/-- The promise that is made of a directory: skipping is taking away the documents whose stems are
to be skipped, and all the others decide, each of them called by its own name (`Decides`). -/
def AsPromised (tree : FileTree) (path template reference : String) (skip : List String) : Prop :=
  outcome tree path template reference skip =
      outcome (withoutFiles tree path fun name => decide (IsSkippedName skip name))
        path template reference [] ∧
    Decides (fun name content =>
        ∃ stem, HasDocument tree path stem name content ∧ stem ∉ skip.map bytes)
      (fun name text => name = bytes text) path template reference
      (outcome tree path template reference skip)

/-- The promise is kept where each document that is not to be skipped has a short path and a name
that is a text. Of a document to be skipped neither is asked: its stem is a text anyhow, and it
makes no difference whether it is found. -/
theorem asPromised_of_documents (htree : tree.IsProper) {directory : Place}
    (hplace : tree.place (bytes path) = .ok directory)
    (hdirectory : tree.get? directory = some .directory)
    (h : ∀ stem name content, HasDocument tree path stem name content → stem ∉ skip.map bytes →
      isLongPath (inDirectory (bytes path) name) = false ∧ IsText name) :
    AsPromised tree path template reference skip := by
  -- A stem that is no text is not on the list, so the hypothesis makes its name a text after all.
  have htext : ∀ stem name content, HasDocument tree path stem name content → IsText name := by
    intro stem name content hdocument
    refine hdocument.named.isText_iff.2 (Classical.not_not.1 fun hno => hno ?_)
    have hname := (h _ _ _ hdocument (not_mem_map_bytes hno skip)).2
    exact hdocument.named.isText_iff.1 hname
  have hskips : ∀ stem name content, HasDocument tree path stem name content →
      (stem ∈ skip.map bytes ↔ nameText stem ∈ skip) := by
    intro stem name content hdocument
    exact (nameText_mem_iff (hdocument.named.isText_iff.1 (htext _ _ _ hdocument))).symm
  constructor
  · refine (outcome_withoutFiles htree fun stem name content hfound => ?_).symm
    rw [decide_eq_true_iff, hfound.named.isSkippedName_iff]
    exact hskips _ _ _ hfound.toHasDocument
  · refine Decides.congr ((outcome_eq_iff htree hplace hdirectory).1 rfl) ?_ ?_
    · intro name content
      apply exists_congr
      intro stem
      constructor
      · rintro ⟨hdocument, hkept⟩
        have hshort := (h _ _ _ hdocument hkept).1
        exact ⟨⟨hdocument, hshort⟩, fun hskipped => hkept ((hskips _ _ _ hdocument).2 hskipped)⟩
      · rintro ⟨hfound, hkept⟩
        exact ⟨hfound.toHasDocument,
          fun hskipped => hkept ((hskips _ _ _ hfound.toHasDocument).1 hskipped)⟩
    · rintro name content ⟨stem, hfound, -⟩ text rfl
      exact isText_iff_eq_bytes.1 (htext _ _ _ hfound.toHasDocument)

/-- Contents of files of which all are definitions but the one at a place. They single one document
out, whose error then has to be the outcome. -/
def spoiled (place : Place) : Place → ByteArray := fun other =>
  if other = place then "command: [".toUTF8 else "command: c".toUTF8

/-- The file at the spoiled place gives no definition, whatever it is called, and its error
mentions what it is called. -/
theorem invalid_of_fails_spoiled {place : Place} {text : String} {reason : CatalogueError}
    (h : Fails template reference text (spoiled place place) reason) :
    ∃ cause, reason = .invalid text cause := by
  have hcontent : spoiled place place = "command: [".toUTF8 := if_pos rfl
  rw [hcontent] at h
  cases h with
  | notText hno => exact absurd rfl (hno _)
  | malformed => exact ⟨_, rfl⟩
  | nameless => exact ⟨_, rfl⟩

/-- The file at the spoiled place gives no definition (`Gives`), since its text is no document at
all. -/
theorem not_gives_spoiled {place : Place} {text : String} {d : CommandDefinition} :
    ¬Gives template reference text (spoiled place place) d := by
  have hcontent : spoiled place place = "command: [".toUTF8 := if_pos rfl
  have hbad : described "command: [" =
      .error (.badStructure "did not find expected node content") := by
    decide +kernel
  rw [hcontent]
  exact fun hgives => hgives.not_fails (.malformed rfl hbad)

/-- The files at other places than the spoiled one do not fail, so an error (`Fails`) tells the
place. -/
theorem eq_of_fails_spoiled {place other : Place} {text : String} {reason : CatalogueError}
    (h : Fails template reference text (spoiled place other) reason) : other = place := by
  by_contra hother
  have hcontent : spoiled place other = "command: c".toUTF8 := if_neg hother
  -- Every other place holds a document that can be read.
  have hgood : (described "command: c").toOption.map (fun d => isBlankText d.command) =
      some false := by
    decide +kernel
  obtain ⟨d, hdescribed, hcommand⟩ := exists_ok_of_map_toOption hgood
  rw [hcontent] at h
  exact (Gives.described rfl hdescribed hcommand).not_fails h

/-- Where the promise is kept whatever the files hold, each document that is not to be skipped has
a short path and a name that is a text. To see this for a document, all other files are filled
with definitions and it alone with what is none: then its error has to be the outcome, so it has
to be found, and the error has to mention its name. -/
theorem short_isText_of_asPromised (htree : tree.IsProper) {directory : Place}
    (hplace : tree.place (bytes path) = .ok directory)
    (hdirectory : tree.get? directory = some .directory)
    (h : ∀ fill, AsPromised (tree.refilled fill) path template reference skip)
    {stem name : FileName} {content : ByteArray}
    (hdocument : HasDocument tree path stem name content) (hkept : stem ∉ skip.map bytes) :
    isLongPath (inDirectory (bytes path) name) = false ∧ IsText name := by
  let fill := spoiled (directory ++ [name])
  have hplace_refilled : (tree.refilled fill).place (bytes path) = .ok directory := by
    rw [FileTree.place_refilled, hplace]
  -- Of all documents only this one fails.
  have hsame : ∀ {other : FileName} {held : ByteArray} {text : String} {reason : CatalogueError}
      {front : FileName}, HasDocument (tree.refilled fill) path front other held →
      Fails template reference text held reason → other = name := by
    intro other held text reason front hother hfails
    obtain ⟨-, rfl⟩ := (hasDocument_refilled_iff hplace).1 hother
    have hplaces := eq_of_fails_spoiled hfails
    simpa using hplaces
  have hspoiled : HasDocument (tree.refilled fill) path stem name (fill (directory ++ [name])) :=
    (hasDocument_refilled_iff hplace).2 ⟨⟨content, hdocument⟩, rfl⟩
  obtain ⟨text, reason, hname, hcause, hdecided⟩ : ∃ text reason, name = bytes text ∧
      (∃ cause, reason = CatalogueError.invalid text cause) ∧
      outcome (tree.refilled fill) path template reference skip = .error reason := by
    obtain ⟨-, hpromised⟩ := h fill
    generalize outcome (tree.refilled fill) path template reference skip = result at hpromised
    cases hpromised with
    | nothing hnone =>
      exact absurd ⟨stem, hspoiled, hkept⟩ (hnone name (fill (directory ++ [name])))
    | @first other text held reason hfirst hcalled hfails hbefore =>
      obtain ⟨front, hother, -⟩ := hfirst
      obtain rfl := hsame hother hfails
      obtain ⟨-, rfl⟩ := (hasDocument_refilled_iff hplace).1 hother
      exact ⟨text, reason, hcalled, invalid_of_fails_spoiled hfails, rfl⟩
    | @all files definitions hsome hascending hmem hgives =>
      have hfile : (name, fill (directory ++ [name])) ∈ files :=
        (hmem _ _).2 ⟨stem, hspoiled, hkept⟩
      obtain ⟨d, text, -, hgive⟩ := exists_of_mem_of_forall₂ hgives hfile
      exact absurd hgive not_gives_spoiled
  obtain ⟨cause, rfl⟩ := hcause
  refine ⟨?_, text, hname⟩
  have hactual := (outcome_eq_iff (htree.refilled fill) hplace_refilled
    (FileTree.get?_refilled_directory hdirectory)).1 hdecided
  cases hactual with
  | first hfirst hcalled hfails hbefore =>
    obtain ⟨front, hfound, -⟩ := hfirst
    rw [← hsame hfound.toHasDocument hfails]
    exact hfound.short

/-! ### What has an influence -/

/-- The outcome of loading from a directory depends on the documents alone that remain. It is
that of loading from the directory without the files that are skipped. What files hold that do
not remain has no influence. And it is what the documents that remain decide: the first of them
that fails decides the error, whatever the later ones hold.

A document remains if its path is short enough and the text of its stem is not to be skipped, and
it is reported by the text of its name. So the promise `AsPromised`, which speaks of all documents
and of their own names, is kept whatever the files hold exactly if each document that is not to be
skipped has a short path and a name that is a text. -/
theorem outcome_depends_on_remaining (htree : tree.IsProper) (path template reference : String)
    (skip : List String) :
    outcome tree path template reference skip =
      outcome (withoutFiles tree path (isSkipped skip)) path template reference [] ∧
    ∀ directory, tree.place (bytes path) = .ok directory →
      tree.get? directory = some .directory →
      (∀ fill : Place → ByteArray,
        (∀ name content, Remains tree path skip name content →
          fill (directory ++ [name]) = content) →
        outcome (tree.refilled fill) path template reference skip =
          outcome tree path template reference skip) ∧
      (∀ result, outcome tree path template reference skip = result ↔
        Decides (Remains tree path skip) (fun name text => nameText name = text)
          path template reference result) ∧
      ((∀ fill, AsPromised (tree.refilled fill) path template reference skip) ↔
        ∀ stem name content, HasDocument tree path stem name content →
          stem ∉ skip.map bytes →
          isLongPath (inDirectory (bytes path) name) = false ∧ IsText name) := by
  refine ⟨?_, fun directory hplace hdirectory => ⟨?_, ?_, ?_⟩⟩
  · refine (outcome_withoutFiles htree fun stem name content hfound => ?_).symm
    exact hfound.named.isSkipped_iff
  · intro fill hfill
    exact outcome_refilled htree hplace hdirectory hfill
  · intro result
    exact outcome_eq_iff htree hplace hdirectory
  · -- Necessity spoils one document at a time; sufficiency holds for every filling at once.
    constructor
    · intro h stem name content hdocument hkept
      exact short_isText_of_asPromised htree hplace hdirectory h hdocument hkept
    · intro h fill
      have hplace_refilled : (tree.refilled fill).place (bytes path) = .ok directory := by
        rw [FileTree.place_refilled, hplace]
      refine asPromised_of_documents (htree.refilled fill) hplace_refilled
        (FileTree.get?_refilled_directory hdirectory) ?_
      intro stem name content hdocument hkept
      obtain ⟨⟨old, hold⟩, -⟩ := (hasDocument_refilled_iff hplace).1 hdocument
      exact h stem name old hold hkept

/-- A document of `commandFiles` that is no definition can be skipped, whatever it holds. If it is
not, its error is that of the directory. The promise `AsPromised` is not kept, because the name of
one document is no text. -/
theorem outcome_commandFiles :
    outcome commandFiles "d" defaultTemplate "v1" ["cp"] =
      outcome (withoutFiles commandFiles "d" (isSkipped ["cp"])) "d" defaultTemplate "v1" [] ∧
    (∀ fill : Place → ByteArray,
      (∀ name held, name ≠ bytes "cp.yaml" →
        commandFiles.get? [bytes "d", name] = some (.file held) → fill [bytes "d", name] = held) →
      outcome (commandFiles.refilled fill) "d" defaultTemplate "v1" ["cp"] =
        outcome commandFiles "d" defaultTemplate "v1" ["cp"]) ∧
    Decides (Remains commandFiles "d" []) (fun name text => nameText name = text)
      "d" defaultTemplate "v1" (.error (.invalid "cp.yaml"
        (.unreadable (.badStructure "did not find expected node content")))) ∧
    ¬∀ fill, AsPromised (commandFiles.refilled fill) "d" defaultTemplate "v1" ["cp"] := by
  have hproper : commandFiles.IsProper := by
    decide +kernel
  obtain ⟨hdeleted, hdirectory⟩ :=
    outcome_depends_on_remaining hproper "d" defaultTemplate "v1" ["cp"]
  obtain ⟨hcontents, -, hpromised⟩ := hdirectory [bytes "d"] rfl rfl
  obtain ⟨-, hunskipped⟩ := outcome_depends_on_remaining hproper "d" defaultTemplate "v1" []
  refine ⟨hdeleted, fun fill hfill => ?_, ?_, fun hkept => ?_⟩
  · refine hcontents fill fun name content ⟨stem, hfound, hstem⟩ => ?_
    obtain ⟨hnamed, hstands⟩ := (hasDocument_iff rfl).1 hfound.toHasDocument
    refine hfill name content ?_ hstands
    -- A document that remains is not the one that is skipped.
    rintro rfl
    rw [hnamed.stem_unique (by decide : IsDocumentName (bytes "cp") (bytes "cp.yaml")),
      nameText_bytes] at hstem
    exact hstem List.mem_cons_self
  · refine ((hunskipped [bytes "d"] rfl rfl).2.1 _).1 ?_
    rw [outcome, loadFrom_eq, ofTree_commandFiles]
    decide +kernel
  · have hraw : HasDocument commandFiles "d" [0xFF] rawName "command: docker raw".toUTF8 :=
      ⟨by decide, [bytes "d"], rfl, rfl⟩
    exact absurd (hpromised.1 hkept _ _ _ hraw (by decide)).2 (by decide)

/-- The document whose name is no text is skipped with the empty text. -/
example : (outcome commandFiles "d" defaultTemplate "v1" ["cp", ""]).toOption.map
    (fun definitions => definitions.map fun d => d.command) =
      some ["docker a ps", "docker ps"] := by
  rw [outcome, loadFrom_eq, ofTree_commandFiles]
  decide +kernel

/-- A document that fails is passed over if its path is too long. The directory gives the other
definition, though nothing is to be skipped, so the promise `AsPromised` is not kept. -/
theorem outcome_lost :
    ∃ definitions, outcome (twoDocuments "command: [unterminated".toUTF8) longPath "" "" [] =
        .ok definitions ∧
      HasDocument (twoDocuments "command: [unterminated".toUTF8) longPath (bytes "aa")
        (bytes "aa.yaml") "command: [unterminated".toUTF8 ∧
      (∃ reason, Fails "" "" "aa.yaml" "command: [unterminated".toUTF8 reason) ∧
      ¬AsPromised (twoDocuments "command: [unterminated".toUTF8) longPath "" "" [] := by
  obtain ⟨catalogue, hcatalogue, -⟩ :=
    exists_ofTree_twoDocuments "command: [unterminated".toUTF8
  have houtcome : outcome (twoDocuments "command: [unterminated".toUTF8) longPath "" "" [] =
      .ok catalogue.definitions := by
    rw [outcome, loadFrom_eq, hcatalogue]
    rfl
  have hbad : described "command: [unterminated" =
      .error (.badStructure "did not find expected ','") := by
    decide +kernel
  have hlost : HasDocument (twoDocuments "command: [unterminated".toUTF8) longPath (bytes "aa")
      (bytes "aa.yaml") "command: [unterminated".toUTF8 :=
    ⟨by decide, [bytes "d"], place_longPath _, rfl⟩
  refine ⟨catalogue.definitions, houtcome, hlost, ⟨_, .malformed rfl hbad⟩, ?_⟩
  rintro ⟨-, hdecides⟩
  rw [houtcome] at hdecides
  -- All documents would have to give definitions, and this one does not.
  cases hdecides with
  | all hsome hascending hmem hgives =>
    have hfile := (hmem (bytes "aa.yaml") "command: [unterminated".toUTF8).2
      ⟨_, hlost, List.not_mem_nil⟩
    obtain ⟨d, text, -, hgive⟩ := exists_of_mem_of_forall₂ hgives hfile
    exact hgive.not_fails (.malformed rfl hbad)

end WrapperModel.Definition
