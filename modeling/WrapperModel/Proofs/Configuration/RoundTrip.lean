import WrapperModel.Proofs.Configuration.Sections
import WrapperModel.Proofs.Files.Store
import WrapperModel.Proofs.Files.Tree

/-!
# `WrapperModel.Proofs.Configuration.RoundTrip`: a configuration reads back from its file

A configuration is saved as its document, and the bytes of a document are those of a text,
so loading comes down to reading the document.

* `save_load`: loading what was saved gives the configuration, and the only failure is that
  of the store to write the file.
-/

set_option autoImplicit false

namespace WrapperModel.Configuration

open WrapperModel.Files (FileStore FileTree FileError run_adapt run_bind)
open WrapperModel.Text (bytes)

/-- The bytes of a configuration's `document` give the configuration, whatever its texts hold. -/
theorem ofBytes_document (configuration : Configuration) :
    ofBytes configuration.document.toUTF8 = .ok configuration := by
  have htext : (Files.textOfBytes configuration.document.toUTF8).mapError
      ConfigurationError.unread = .ok configuration.document := by
    rw [Files.textOfBytes_toUTF8]
    rfl
  -- The text is read back by the round trip; bytes and text are one and the same for it.
  have hread : (ofText configuration.document).mapError ConfigurationError.unreadable =
      .ok configuration := by
    rw [ofText_document_self]
    rfl
  simp only [ofBytes, htext, hread, bind, Except.bind]

/-- Loading from a tree reads the bytes of a file and leaves the tree as it is. The reasons for a
failure are those of the file or those of its document. -/
theorem run_load (path : String) (tree : FileTree) :
    (load path : ExceptT ConfigurationError (StateM FileTree) Configuration).run tree =
      (((tree.read (bytes path)).mapError ConfigurationError.ofFileError).bind ofBytes, tree) := by
  have hread : ((FileStore.read (m := StateM FileTree) (bytes path)).adapt
      ConfigurationError.ofFileError).run tree =
        ((tree.read (bytes path)).mapError ConfigurationError.ofFileError, tree) :=
    run_adapt _ _ tree
  rw [load, run_bind, hread]
  cases tree.read (bytes path) with
  | ok content => rfl
  | error reason => rfl

/-- Saving into a tree writes the `document`, or leaves the tree as it is. The directory above has
to be there. -/
theorem run_save (configuration : Configuration) (path : String) (tree : FileTree) :
    (configuration.save path : ExceptT ConfigurationError (StateM FileTree) Unit).run tree =
      match tree.write (bytes path) configuration.document.toUTF8 with
      | .ok changed => (.ok (), changed)
      | .error reason => (.error (.unopened reason), tree) := by
  have hwrite :
      (FileStore.write (m := StateM FileTree) (bytes path) configuration.document).run tree =
      (match tree.write (bytes path) configuration.document.toUTF8 with
        | .ok changed => (.ok (), changed)
        | .error reason => (.error reason, tree) : Except FileError Unit × FileTree) := rfl
  rw [save, run_adapt, hwrite]
  cases tree.write (bytes path) configuration.document.toUTF8 with
  | ok changed => rfl
  | error reason => rfl

/-- Every configuration is read back from its `document` by `ofText`, and loading the file into
which it was saved gives it again. Where `FileTree.write` refuses the file, saving fails with the
reason and nothing is changed. There is no condition on the configuration: its texts may hold any
characters, since `Yaml.styleOf` finds a form for each of them. -/
theorem save_load (configuration : Configuration) (path : String) (tree : FileTree) :
    ofText configuration.document = .ok configuration ∧
      (do
        configuration.save path
        load path : ExceptT ConfigurationError (StateM FileTree) Configuration).run tree =
        match tree.write (bytes path) configuration.document.toUTF8 with
        | .ok changed => (.ok configuration, changed)
        | .error reason => (.error (.unopened reason), tree) := by
  refine ⟨configuration.ofText_document_self, ?_⟩
  rw [run_bind, run_save]
  cases hwrite : tree.write (bytes path) configuration.document.toUTF8 with
  | ok changed =>
    show (load path : ExceptT ConfigurationError (StateM FileTree) Configuration).run changed = _
    -- The tree that is read is the one that saving left.
    rw [run_load, FileTree.read_write hwrite]
    show (ofBytes configuration.document.toUTF8, changed) = _
    rw [ofBytes_document]
  | error reason => rfl

end WrapperModel.Configuration
