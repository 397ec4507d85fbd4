import WrapperModel.Files.Tree

/-!
# `WrapperModel.Proofs.Files.Store`: how operations on a tree run

An operation on a tree of files gives a value or an error, and the tree that it leaves.

* `run_andThen`, `run_bind`: one operation after the other, the second unless the first one
  fails.
* `run_createDirectory`, `run_write`: changes that fail leave the tree as it is.
* `run_mapM`: the same look at many things gives the list of what is seen.
* `run_filterM`: the same question about many things picks some of them.
-/

set_option autoImplicit false

namespace WrapperModel.Files

/-- Running one action after the other runs the second on the tree that the first one leaves. -/
theorem run_andThen {α β : Type} (first : StateM FileTree α) (next : α → StateM FileTree β)
    (tree : FileTree) : (first >>= next).run tree = (next (first tree).1).run (first tree).2 :=
  rfl

/-- `ExceptT.adapt` gives another name to an error and changes neither the value nor the tree. -/
theorem run_adapt {ε ε' α : Type} (f : ε → ε') (action : ExceptT ε (StateM FileTree) α)
    (tree : FileTree) :
    (action.adapt f).run tree = ((action.run tree).1.mapError f, (action.run tree).2) :=
  rfl

/-- Running one action after the other runs the second on the tree that the first one leaves, unless
the first one fails. Then its error and the tree are all there is. Runs are taken apart with this
lemma, one action at a time. -/
theorem run_bind {ε α β : Type} (first : ExceptT ε (StateM FileTree) α)
    (next : α → ExceptT ε (StateM FileTree) β) (tree : FileTree) :
    (first >>= next).run tree =
      match first.run tree with
      | (.ok value, changed) => (next value).run changed
      | (.error reason, changed) => (.error reason, changed) := by
  cases hfirst : first.run tree with
  | mk result changed =>
    have hrun : (first >>= next).run tree =
        ExceptT.bindCont next (first.run tree).1 (first.run tree).2 := rfl
    rw [hrun, hfirst]
    cases result with
    | ok value => rfl
    | error reason => rfl

/-- Looking at many things, each of which gives a value and leaves the tree as it is, gives their
values and leaves the tree as it is. It is `run_bind` along a list. -/
theorem run_mapM {ε α β : Type} {look : α → ExceptT ε (StateM FileTree) β} {seen : α → β}
    {tree : FileTree} (h : ∀ thing, (look thing).run tree = (.ok (seen thing), tree))
    (things : List α) : (things.mapM look).run tree = (.ok (things.map seen), tree) := by
  induction things with
  | nil => rfl
  | cons thing rest ih =>
    rw [List.mapM_cons, run_bind, h]
    show (rest.mapM look >>= fun values => pure (seen thing :: values)).run tree = _
    rw [run_bind, ih]
    rfl

/-- Asking a question about many things, which leaves the tree as it is, picks those of them for
which the answer is yes, in their order. -/
theorem run_filterM {ε α : Type} {ask : α → ExceptT ε (StateM FileTree) Bool} {answer : α → Bool}
    {tree : FileTree} (h : ∀ thing, (ask thing).run tree = (.ok (answer thing), tree))
    (things : List α) : (things.filterM ask).run tree = (.ok (things.filter answer), tree) := by
  -- The library picks from the front and reverses at the end, so the induction is on the things
  -- with any that were picked before.
  have hpicked : ∀ picked : List α, (things.filterAuxM ask picked).run tree =
      (.ok ((things.filter answer).reverse ++ picked), tree) := by
    induction things with
    | nil => exact fun picked => rfl
    | cons thing rest ih =>
      intro picked
      rw [List.filterAuxM, run_bind, h]
      show (rest.filterAuxM ask (cond (answer thing) (thing :: picked) picked)).run tree = _
      rw [ih, List.filter_cons]
      cases answer thing with
      | true => simp
      | false => rfl
  rw [List.filterM, run_bind, hpicked]
  show (Except.ok (List.reverse _), tree) = _
  rw [List.append_nil, List.reverse_reverse]

/-- Making a directory in the store runs `FileTree.createDirectory`, and leaves the tree as it is
where that fails. -/
theorem run_createDirectory (path : Path) (tree : FileTree) :
    (FileStore.createDirectory (m := StateM FileTree) path).run tree =
      match tree.createDirectory path with
      | .ok changed => (.ok (), changed)
      | .error reason => (.error reason, tree) :=
  rfl

/-- Writing a text in the store runs `FileTree.write` with its bytes, and leaves the tree as it is
where that fails. -/
theorem run_write (path : Path) (text : String) (tree : FileTree) :
    (FileStore.write (m := StateM FileTree) path text).run tree =
      match tree.write path text.toUTF8 with
      | .ok changed => (.ok (), changed)
      | .error reason => (.error reason, tree) :=
  rfl

end WrapperModel.Files
