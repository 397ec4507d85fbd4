import Mathlib.Data.List.Forall2
import WrapperModel.Definition.Catalogue

/-!
# `WrapperModel.Proofs.Definition.Documents`: what documents give

A document gives a definition, or it fails: its bytes are no text, or the text describes
nothing, or it names no command. Documents are read one after the other, up to the first that
fails.

* `Gives`, `Fails`: what a document of some bytes gives and how it fails.
* `definition_eq_ok_iff`, `definition_eq_error_iff`: reading a document shows just that.
* `mapM_definition_eq_ok_iff`, `mapM_definition_eq_error_iff`: reading many documents gives all
  that they give, or fails as the first that fails.
* `ofDocuments_eq_ok_iff`: a catalogue is made of documents if there are any.
-/

set_option autoImplicit false

namespace WrapperModel.Definition

open WrapperModel.Files (FileError FileName nameText textOfBytes textOfBytes_toUTF8)
open WrapperModel.Text (isBlankText)
open WrapperModel.Yaml (Reading ReadError Document)

/-! ### One after the other -/

section

variable {ε α β : Type} {read : α → Except ε β}

/-- One thing and others are all read with `mapM` if it can be read and they can. -/
theorem mapM_cons_eq_ok_iff {x : α} {xs : List α} {ys : List β} :
    (x :: xs).mapM read = .ok ys ↔
      ∃ y rest, read x = .ok y ∧ xs.mapM read = .ok rest ∧ ys = y :: rest := by
  rw [List.mapM_cons]
  cases read x with
  | error reason => exact iff_of_false (fun h => nomatch h) fun ⟨_, _, h, _⟩ => nomatch h
  | ok y =>
    cases xs.mapM read with
    | error reason => exact iff_of_false (fun h => nomatch h) fun ⟨_, _, _, h, _⟩ => nomatch h
    | ok rest => simp [bind, Except.bind, pure, Except.pure, eq_comm]

/-- Reading one thing and others with `mapM` fails if it cannot be read, or if it can and they
cannot. The first failure is the one that counts. -/
theorem mapM_cons_eq_error_iff {x : α} {xs : List α} {reason : ε} :
    (x :: xs).mapM read = .error reason ↔
      read x = .error reason ∨ (∃ y, read x = .ok y) ∧ xs.mapM read = .error reason := by
  rw [List.mapM_cons]
  cases read x with
  | error first => simp [bind, Except.bind]
  | ok y => cases xs.mapM read <;> simp [bind, Except.bind, pure, Except.pure]

/-- Reading one after the other with `mapM` gives what each of them gives, in their order. It is the
run lemma for `mapM_cons_eq_ok_iff`. -/
theorem mapM_eq_ok_iff {xs : List α} {ys : List β} :
    xs.mapM read = .ok ys ↔ List.Forall₂ (fun x y => read x = .ok y) xs ys := by
  induction xs generalizing ys with
  | nil => simp [pure, Except.pure, List.forall₂_nil_left_iff, eq_comm]
  | cons x xs ih => simp only [mapM_cons_eq_ok_iff, List.forall₂_cons_left_iff, ih]

/-- Where one list answers to another item by item, each item of the first has its answer in the
second. -/
theorem exists_of_mem_of_forall₂ {R : α → β → Prop} {xs : List α} {ys : List β}
    (h : List.Forall₂ R xs ys) {x : α} (hx : x ∈ xs) : ∃ y, R x y := by
  induction h with
  | nil => cases hx
  | @cons first answer xs ys hfirst hrest ih =>
    rcases List.mem_cons.1 hx with rfl | hx
    · exact ⟨answer, hfirst⟩
    · exact ih hx

/-- Reading one after the other with `mapM` fails as the first that cannot be read, whatever stands
behind it. -/
theorem mapM_eq_error_iff {xs : List α} {reason : ε} :
    xs.mapM read = .error reason ↔ ∃ before x after, xs = before ++ x :: after ∧
      (∀ y ∈ before, ∃ value, read y = .ok value) ∧ read x = .error reason := by
  induction xs with
  | nil => simp [pure, Except.pure]
  | cons x xs ih =>
    rw [mapM_cons_eq_error_iff, ih]
    constructor
    · rintro (hx | ⟨hx, before, y, after, rfl, hbefore, hy⟩)
      · exact ⟨[], x, xs, rfl, by simp, hx⟩
      · exact ⟨x :: before, y, after, rfl, List.forall_mem_cons.2 ⟨hx, hbefore⟩, hy⟩
    · rintro ⟨before, y, after, hsplit, hbefore, hy⟩
      -- What fails is the first of all or one of the others.
      cases before with
      | nil =>
        obtain ⟨rfl, rfl⟩ := List.cons.inj hsplit
        exact .inl hy
      | cons first rest =>
        obtain ⟨rfl, rfl⟩ := List.cons.inj hsplit
        obtain ⟨hx, hrest⟩ := List.forall_mem_cons.1 hbefore
        exact .inr ⟨hx, rest, y, after, rfl, hrest, hy⟩

end

/-! ### Single documents -/

/-- `textOfBytes` gives a text for its own bytes and for no others, so the bytes of a document
determine its text. -/
theorem textOfBytes_eq_ok_iff {content : ByteArray} {text : String} :
    textOfBytes content = .ok text ↔ content = text.toUTF8 := by
  constructor
  · intro h
    unfold textOfBytes String.fromUTF8? at h
    split at h
    · rename_i hsome
      split at hsome
      · cases hsome
        cases h
        rfl
      · cases hsome
    · cases h
  · rintro rfl
    exact textOfBytes_toUTF8 text

/-- `textOfBytes` refuses bytes that are those of no text, with no other error than
`FileError.notText`. -/
theorem textOfBytes_eq_error_iff {content : ByteArray} {reason : FileError} :
    textOfBytes content = .error reason ↔
      (∀ text : String, content ≠ text.toUTF8) ∧ reason = .notText := by
  cases htext : textOfBytes content with
  | ok text =>
    refine iff_of_false (fun h => nomatch h) fun h => h.1 text ?_
    exact textOfBytes_eq_ok_iff.1 htext
  | error cause =>
    -- There is only one way in which bytes are no text.
    have hcause : cause = .notText := by
      unfold textOfBytes at htext
      split at htext
      · cases htext
      · exact (Except.error.inj htext).symm
    have hno : ∀ text : String, content ≠ text.toUTF8 := by
      intro text heq
      rw [textOfBytes_eq_ok_iff.2 heq] at htext
      cases htext
    rw [hcause, Except.error.injEq]
    exact ⟨fun h => ⟨hno, h.symm⟩, fun h => h.2.symm⟩

/-- The definition that a text describes, wherever it was found. It carries no address yet, and may
name no command, which is asked afterwards. -/
def described (text : String) : Except ReadError CommandDefinition :=
  (Document.ofText text).bind (Reading.ofDocument · CommandDefinition.ofTree)

/-- What a document gives: its bytes are a text that describes a command, and the definition carries
the address that `referenceUrl` makes of the name of the document. -/
inductive Gives (template reference name : String) (content : ByteArray) :
    CommandDefinition → Prop
  | described {text : String} {d : CommandDefinition} (htext : content = text.toUTF8)
    (h : described text = .ok d) (hcommand : isBlankText d.command = false) :
    Gives template reference name content (d.withReference (referenceUrl template reference name))

/-- Why a document gives nothing: its bytes are no text, or the text is no definition, or it names
no command. In the latter two cases the error mentions the name of the document; in the first it
does not. -/
inductive Fails (template reference name : String) (content : ByteArray) : CatalogueError → Prop
  | notText (h : ∀ text : String, content ≠ text.toUTF8) :
    Fails template reference name content (.unread .notText)
  | malformed {text : String} {reason : ReadError} (htext : content = text.toUTF8)
    (h : described text = .error reason) :
    Fails template reference name content (.invalid name (.unreadable reason))
  | nameless {text : String} {d : CommandDefinition} (htext : content = text.toUTF8)
    (h : described text = .ok d) (hcommand : isBlankText d.command = true) :
    Fails template reference name content (.invalid name .missingCommand)

/-- `FoundDocument.definition` of a document whose bytes are a text, case by case. -/
theorem definition_of_text (template reference name : String) {content : ByteArray}
    {text : String} (htext : content = text.toUTF8) :
    FoundDocument.definition template reference ⟨name, .ok content⟩ =
      match described text with
      | .ok d =>
        if isBlankText d.command then .error (.invalid name .missingCommand)
        else .ok (d.withReference (referenceUrl template reference name))
      | .error reason => .error (.invalid name (.unreadable reason)) := by
  have hread : (Except.ok content : Except FileError ByteArray).bind textOfBytes = .ok text :=
    textOfBytes_eq_ok_iff.2 htext
  -- With the text in hand, the error only gets the name of the document.
  rw [FoundDocument.definition, hread]
  show (CommandDefinition.ofDocument text _).mapError (CatalogueError.invalid name) = _
  rw [CommandDefinition.ofDocument, ← described]
  cases described text with
  | error reason => rfl
  | ok d =>
    dsimp only
    split <;> rfl

/-- `FoundDocument.definition` of a document whose bytes are no text, which is an error without a
name. -/
theorem definition_of_noText (template reference name : String) {content : ByteArray}
    (hno : ∀ text : String, content ≠ text.toUTF8) :
    FoundDocument.definition template reference ⟨name, .ok content⟩ =
      .error (.unread .notText) := by
  have hread : (Except.ok content : Except FileError ByteArray).bind textOfBytes =
      .error .notText := textOfBytes_eq_error_iff.2 ⟨hno, rfl⟩
  rw [FoundDocument.definition, hread]
  rfl

/-- A document `Gives` a definition or `Fails`, and reading it shows which. The two `iff` below are
read off from this, since reading has one result. -/
theorem gives_or_fails (template reference name : String) (content : ByteArray) :
    (∃ d, Gives template reference name content d ∧
      FoundDocument.definition template reference ⟨name, .ok content⟩ = .ok d) ∨
    ∃ reason, Fails template reference name content reason ∧
      FoundDocument.definition template reference ⟨name, .ok content⟩ = .error reason := by
  -- A document is read in three stages, and each of them has one way to fail.
  by_cases htext : ∃ text : String, content = text.toUTF8
  · obtain ⟨text, htext⟩ := htext
    have hread := definition_of_text template reference name htext
    cases hdescribed : described text with
    | error reason =>
      rw [hdescribed] at hread
      exact .inr ⟨_, .malformed htext hdescribed, hread⟩
    | ok d =>
      rw [hdescribed] at hread
      cases hcommand : isBlankText d.command with
      | true =>
        exact .inr ⟨_, .nameless htext hdescribed hcommand, by simpa [hcommand] using hread⟩
      | false =>
        exact .inl ⟨_, .described htext hdescribed hcommand, by simpa [hcommand] using hread⟩
  · rw [not_exists] at htext
    exact .inr ⟨_, .notText htext, definition_of_noText template reference name htext⟩

/-- Reading a document gives what it `Gives`, and nothing else. With `definition_eq_error_iff` the
two predicates describe the reading completely. -/
theorem definition_eq_ok_iff {template reference name : String} {content : ByteArray}
    {d : CommandDefinition} :
    FoundDocument.definition template reference ⟨name, .ok content⟩ = .ok d ↔
      Gives template reference name content d := by
  constructor
  · intro hread
    -- Reading has one result, so the alternative that contradicts it is excluded.
    rcases gives_or_fails template reference name content with ⟨other, h, hother⟩ | ⟨_, _, hother⟩
    · cases hread.symm.trans hother
      exact h
    · cases hread.symm.trans hother
  · rintro ⟨htext, hdescribed, hcommand⟩
    simp [definition_of_text template reference name htext, hdescribed, hcommand]

/-- Reading a document fails exactly as it `Fails`, with the same reason. -/
theorem definition_eq_error_iff {template reference name : String} {content : ByteArray}
    {reason : CatalogueError} :
    FoundDocument.definition template reference ⟨name, .ok content⟩ = .error reason ↔
      Fails template reference name content reason := by
  constructor
  · intro hread
    rcases gives_or_fails template reference name content with ⟨_, _, hother⟩ | ⟨other, h, hother⟩
    · cases hread.symm.trans hother
    · cases hread.symm.trans hother
      exact h
  · rintro (hno | ⟨htext, hdescribed⟩ | ⟨htext, hdescribed, hcommand⟩)
    · exact definition_of_noText template reference name hno
    · rw [definition_of_text template reference name htext, hdescribed]
    · simp [definition_of_text template reference name htext, hdescribed, hcommand]

/-- No document both gives a definition and fails, since reading it is a function. -/
theorem Gives.not_fails {template reference name : String} {content : ByteArray}
    {d : CommandDefinition} (h : Gives template reference name content d)
    {reason : CatalogueError} : ¬Fails template reference name content reason := by
  intro hfails
  cases (definition_eq_ok_iff.2 h).symm.trans (definition_eq_error_iff.2 hfails)

/-! ### Many documents -/

/-- The documents of files that could all be read, each under the text of its name (`nameText`). -/
def documentsOf (files : List (FileName × ByteArray)) : List FoundDocument :=
  files.map fun file => ⟨nameText file.1, .ok file.2⟩

/-- Reading documents one after the other gives what each of them `Gives`, in their order, and
succeeds only if each does. -/
theorem mapM_definition_eq_ok_iff {template reference : String}
    {files : List (FileName × ByteArray)} {definitions : List CommandDefinition} :
    (documentsOf files).mapM (FoundDocument.definition template reference) = .ok definitions ↔
      List.Forall₂ (fun file d => Gives template reference (nameText file.1) file.2 d)
        files definitions := by
  rw [documentsOf, mapM_eq_ok_iff, List.forall₂_map_left_iff]
  simp only [definition_eq_ok_iff]

/-- Reading documents one after the other fails as the first of them that `Fails`, whatever stands
behind it. -/
theorem mapM_definition_eq_error_iff {template reference : String}
    {files : List (FileName × ByteArray)} {reason : CatalogueError} :
    (documentsOf files).mapM (FoundDocument.definition template reference) = .error reason ↔
      ∃ before file after, files = before ++ file :: after ∧
        (∀ other ∈ before, ∃ d, Gives template reference (nameText other.1) other.2 d) ∧
        Fails template reference (nameText file.1) file.2 reason := by
  rw [documentsOf, List.mapM_map, mapM_eq_error_iff]
  simp only [Function.comp_apply, definition_eq_ok_iff, definition_eq_error_iff]

/-- `Catalogue.ofDocuments` makes a catalogue of documents if there are any and they can all be
read. The stems and the path are only carried along. -/
theorem ofDocuments_eq_ok_iff {path template reference : String} {stems : List String}
    {documents : List FoundDocument} {catalogue : Catalogue} :
    Catalogue.ofDocuments path template reference stems documents = .ok catalogue ↔
      documents.mapM (FoundDocument.definition template reference) = .ok catalogue.definitions ∧
      catalogue.definitions ≠ [] ∧ catalogue.path = path ∧ catalogue.skipped = stems := by
  unfold Catalogue.ofDocuments
  cases documents.mapM (FoundDocument.definition template reference) with
  | error reason => exact iff_of_false (fun h => nomatch h) fun h => nomatch h.1
  | ok definitions =>
    cases definitions with
    -- Without any definition the catalogue is refused.
    | nil =>
      refine iff_of_false (fun h => nomatch h) fun h => h.2.1 (Except.ok.inj h.1).symm
    | cons d rest =>
      constructor
      · intro h
        cases h
        exact ⟨rfl, by simp, rfl, rfl⟩
      · rintro ⟨h, -, rfl, rfl⟩
        cases catalogue
        cases h
        rfl

end WrapperModel.Definition
