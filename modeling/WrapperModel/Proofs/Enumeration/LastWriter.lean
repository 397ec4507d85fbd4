import Mathlib.Data.Finset.Card
import WrapperModel.Proofs.Enumeration.Mining
import WrapperModel.Proofs.Enumeration.Registry

/-!
# `WrapperModel.Proofs.Enumeration.LastWriter`: a registry is a map of the last values

The reference for a registry is the list of all enumerations that were ever inserted, its
history. Nothing is replaced in a history: a name has the values that came last, and its
place is where it came first. `Records` says that a registry shows its history in this way.

* `latest?_eq_of_perm`: the order of a history matters only for names of which it holds
  different values.
* `Records.insert`, `Records.insertAll`, `records_ofList`: an insertion appends to the
  history, so a run of insertions does.
* `Records.entries_eq`, `records_self`: the history determines the entries, and the entries
  of a registry are a history of it. So a registry made anew from them is like the old one.
* `answer_run`, `answers_run`: every use of a registry answers what the history says, and so
  does every run of uses.
* `run_ofList`: all of it for a seed and any run of uses.
-/

set_option autoImplicit false

namespace WrapperModel.Enumeration

open WrapperModel.Model (Enumeration)

/-! ### Histories -/

/-- The enumeration of that name that came last in a history. It is the reference for
`Registry.get?`, and knows nothing of an index. -/
def latest? (history : List Enumeration) (name : String) : Option Enumeration :=
  history.reverse.find? fun entry => entry.name = name

/-- What comes at the end of a history is the latest of its name, and nothing changes for other
names. It is what one insertion does to the reference. -/
theorem latest?_concat (history : List Enumeration) (new : Enumeration) (name : String) :
    latest? (history ++ [new]) name =
      if new.name = name then some new else latest? history name := by
  rw [latest?, List.reverse_append, List.reverse_singleton, List.singleton_append,
    List.find?_cons]
  split
  · rename_i h
    rw [if_pos (of_decide_eq_true h)]
  · rename_i h
    rw [if_neg (of_decide_eq_false h), latest?]

/-- What comes in front of a history is the latest of its name where the name does not come again.
It takes a history apart from its beginning, as `answers` does. -/
theorem latest?_cons (first : Enumeration) (rest : List Enumeration) (name : String) :
    latest? (first :: rest) name =
      (latest? rest name).or (if first.name = name then some first else none) := by
  rw [latest?, List.reverse_cons, List.find?_append, ← latest?, List.find?_singleton]
  simp only [decide_eq_true_eq]

/-- The latest enumeration of a name is one of the history and carries the name, so nothing is made
up. -/
theorem mem_of_latest? {history : List Enumeration} {name : String} {entry : Enumeration}
    (h : latest? history name = some entry) : entry ∈ history ∧ entry.name = name := by
  rw [latest?] at h
  exact ⟨List.mem_reverse.1 (List.mem_of_find?_eq_some h), by simpa using List.find?_some h⟩

/-- There is no latest enumeration exactly of the names that never came (`names`). -/
theorem latest?_eq_none_iff {history : List Enumeration} {name : String} :
    latest? history name = none ↔ name ∉ names history := by
  simp [latest?, names]

/-- All that a history holds of a name has the same values. Of a name that never came this holds as
well. -/
def IsUnanimous (history : List Enumeration) (name : String) : Prop :=
  ∀ entry ∈ history, ∀ other ∈ history, entry.name = name → other.name = name →
    entry.values = other.values

/-- Where the history `IsUnanimous` about a name, what came last of the name does not depend on the
order of the history. -/
theorem latest?_eq_of_perm {history reordered : List Enumeration} (h : history.Perm reordered)
    {name : String} (hname : IsUnanimous history name) :
    latest? history name = latest? reordered name := by
  have hnames : name ∈ names history ↔ name ∈ names reordered := (h.map _).mem_iff
  -- Whether the name is there at all does not depend on the order.
  cases hlatest : latest? history name with
  | none => exact (latest?_eq_none_iff.2 fun hmem =>
      latest?_eq_none_iff.1 hlatest (hnames.2 hmem)).symm
  | some entry =>
    cases hother : latest? reordered name with
    | none =>
      obtain ⟨hentry, hentryName⟩ := mem_of_latest? hlatest
      have hmem : name ∈ names history := List.mem_map.2 ⟨entry, hentry, hentryName⟩
      exact absurd (hnames.1 hmem) (latest?_eq_none_iff.1 hother)
    | some other =>
      -- Both carry the name, so they agree in their values and are the same.
      obtain ⟨hentry, hentryName⟩ := mem_of_latest? hlatest
      obtain ⟨hmem, hotherName⟩ := mem_of_latest? hother
      have hvalues := hname entry hentry other (h.mem_iff.2 hmem) hentryName hotherName
      cases entry
      cases other
      simp_all

/-- The registry shows the history: the names stand in the order in which they first came, and the
latest enumeration is found under each. It is the invariant of all runs below. -/
structure Records (registry : Registry) (history : List Enumeration) : Prop where
  order : names registry.entries = (names history).eraseDups
  latest : ∀ name, registry.get? name = latest? history name

/-- The empty registry has the empty history (`Records`). -/
theorem records_empty : Records Registry.empty [] :=
  ⟨rfl, fun _ => rfl⟩

/-- An insertion appends to the history. This is the step of all runs, and the one place that looks
into `Registry.insert`. -/
theorem Records.insert {registry : Registry} {history : List Enumeration}
    (h : Records registry history) (new : Enumeration) :
    Records (registry.insert new).1 (history ++ [new]) where
  order := by
    have hnames : names (history ++ [new]) = names history ++ [new.name] := by simp [names]
    rw [Registry.names_insert, hnames, eraseDups_concat, h.order]
    simp only [List.mem_eraseDups]
  latest name := by rw [Registry.get?_insert, latest?_concat, h.latest]

/-- A run of insertions appends to the history, by `Records.insert` at each of them. -/
theorem Records.insertAll {registry : Registry} {history : List Enumeration}
    (h : Records registry history) (new : List Enumeration) :
    Records (registry.insertAll new).1 (history ++ new) := by
  induction new generalizing registry history with
  | nil => rwa [List.append_nil]
  | cons first rest ih => simpa [Registry.insertAll] using ih (h.insert first)

/-- The history of a registry is the list that it was made from (`Registry.ofList`), the seed of
later uses. -/
theorem records_ofList (seed : List Enumeration) : Records (Registry.ofList seed).1 seed :=
  records_empty.insertAll seed

/-- Registries of the same history have the same entries, for the history determines the names in
order and what is found. -/
theorem Records.entries_eq {registry other : Registry} {history : List Enumeration}
    (h : Records registry history) (hother : Records other history) :
    registry.entries = other.entries :=
  Registry.entries_ext (h.order.trans hother.order.symm) fun name =>
    (h.latest name).trans (hother.latest name).symm

/-- The entries of a registry are a history of it (`Records`): no name stands twice, so each is its
own latest. So a registry can be made anew from them. -/
theorem records_self (registry : Registry) : Records registry registry.entries where
  order := (eraseDups_eq_self registry.nodup).symm
  latest name := by
    cases hlatest : latest? registry.entries name with
    | none => rw [Registry.get?_eq_none_iff, ← latest?_eq_none_iff, hlatest]
    | some entry => exact Registry.get?_eq_some_iff.2 (mem_of_latest? hlatest)

/-- The `size` is the number of the distinct names that came, however often each of them did. -/
theorem Records.size_eq {registry : Registry} {history : List Enumeration}
    (h : Records registry history) : registry.size = (names history).toFinset.card := by
  have hset : (names history).toFinset = (names registry.entries).toFinset := by
    ext name
    rw [List.mem_toFinset, List.mem_toFinset, h.order, List.mem_eraseDups]
  rw [hset, List.toFinset_card_of_nodup registry.nodup]
  simp [names, Registry.size]

/-- A registry `isEmpty` exactly when nothing came. An enumeration without values counts as well. -/
theorem Records.isEmpty_iff {registry : Registry} {history : List Enumeration}
    (h : Records registry history) : registry.isEmpty = true ↔ history = [] := by
  have horder := h.order
  rw [Registry.isEmpty, List.isEmpty_iff]
  cases history with
  | nil => simpa [names] using horder
  | cons first rest =>
    refine iff_of_false ?_ (List.cons_ne_nil first rest)
    intro hnil
    simp [hnil, names, List.eraseDups_cons] at horder

/-! ### Runs of uses -/

/-- A use of a registry. `register` and `insert` change it, and `get` only asks. -/
inductive Operation where
  | register (name : String) (values : List String)
  | insert (new : Enumeration)
  | get (name : String)
  deriving Repr, DecidableEq

/-- What a use answers. The registration tells whether it overwrote values; an insertion by itself
tells nothing. -/
inductive Answer where
  /-- Whether other values were overwritten. -/
  | overwrote (collided : Bool)
  /-- What is found. -/
  | found (entry : Option Enumeration)
  deriving Repr, DecidableEq

/-- What a use answers, and the registry after it, by the functions of `Registry`. -/
def Operation.run (registry : Registry) : Operation → Answer × Registry
  | .register name values =>
    let (next, collision) := registry.register name values
    (.overwrote collision.isSome, next)
  | .insert new =>
    let (next, collision) := registry.insert new
    (.overwrote collision.isSome, next)
  | .get name => (.found (registry.get? name), registry)

/-- What uses answer one after the other, and the registry after them. It is `Operation.run` at each
step. -/
def run (registry : Registry) : List Operation → List Answer × Registry
  | [] => ([], registry)
  | operation :: rest =>
    let (answer, next) := operation.run registry
    let (answers, final) := run next rest
    (answer :: answers, final)

/-- The first use answers, and the others go on with the registry after it. It is the step of every
induction over `run`. -/
theorem run_cons (registry : Registry) (operation : Operation) (rest : List Operation) :
    run registry (operation :: rest) =
      ((operation.run registry).1 :: (run (operation.run registry).2 rest).1,
        (run (operation.run registry).2 rest).2) :=
  rfl

/-- What a use adds to the history of a registry (`Records`). A question adds nothing. -/
def Operation.inserted? : Operation → Option Enumeration
  | .register name values => some ⟨name, values⟩
  | .insert new => some new
  | .get _ => none

/-- The name came before, last with other values. Values that came earlier do not count, even if
they were the same as the new ones. -/
def overwrites (history : List Enumeration) (new : Enumeration) : Bool :=
  (latest? history new.name).any fun old => old.values ≠ new.values

/-- What a use has to answer after a history, by the history alone: `overwrites` for a registration,
`latest?` for a question. -/
def Operation.answer (history : List Enumeration) : Operation → Answer
  | .register name values => .overwrote (overwrites history ⟨name, values⟩)
  | .insert new => .overwrote (overwrites history new)
  | .get name => .found (latest? history name)

/-- What uses have to answer one after the other, the first of them after a history. No registry
occurs in it. -/
def answers (history : List Enumeration) : List Operation → List Answer
  | [] => []
  | operation :: rest =>
    operation.answer history :: answers (history ++ operation.inserted?.toList) rest

/-- An insertion tells of a collision exactly when the history says that other values were
overwritten (`overwrites`). -/
theorem Records.collision {registry : Registry} {history : List Enumeration}
    (h : Records registry history) (new : Enumeration) :
    (registry.insert new).2.isSome = overwrites history new := by
  rw [Registry.collision_insert, h.latest, overwrites]
  cases latest? history new.name with
  | none => rfl
  | some old =>
    rw [Option.bind_some, Option.any_some]
    by_cases hvalues : old.values = new.values <;> simp [hvalues]

/-- A use answers what the history says, and adds to the history what it inserts. One use, from
which `answers_run` makes any number. -/
theorem answer_run {registry : Registry} {history : List Enumeration}
    (h : Records registry history) (operation : Operation) :
    (operation.run registry).1 = operation.answer history ∧
      Records (operation.run registry).2 (history ++ operation.inserted?.toList) := by
  cases operation with
  | register name values => exact ⟨congrArg Answer.overwrote (h.collision _), h.insert _⟩
  | insert new => exact ⟨congrArg Answer.overwrote (h.collision _), h.insert _⟩
  | get name => exact ⟨congrArg Answer.found (h.latest name), (List.append_nil history).symm ▸ h⟩

/-- A run of uses answers what the history says at each of them (`answers`), and the registry after
it shows the history with all that was inserted. -/
theorem answers_run {registry : Registry} {history : List Enumeration}
    (h : Records registry history) (operations : List Operation) :
    (run registry operations).1 = answers history operations ∧
      Records (run registry operations).2
        (history ++ operations.filterMap Operation.inserted?) := by
  -- The history grows with every use, so the induction is for all histories at once.
  -- on the uses, for any history: each use leaves a registry that shows one entry more or the same
  induction operations generalizing registry history with
  | nil => exact ⟨rfl, (List.append_nil history).symm ▸ h⟩
  | cons operation rest ih =>
    obtain ⟨hanswer, hnext⟩ := answer_run h operation
    obtain ⟨hanswers, hfinal⟩ := ih hnext
    rw [run_cons]
    refine ⟨by rw [answers, hanswer, hanswers], ?_⟩
    have hadded : operation.inserted?.toList ++ rest.filterMap Operation.inserted? =
        (operation :: rest).filterMap Operation.inserted? := by
      rw [List.filterMap_cons]
      cases operation.inserted? <;> rfl
    rwa [List.append_assoc, hadded] at hfinal

/-- Whatever a registry is made from and used for, its index and its entries agree and no name is
there twice. Under every name it has the values that were inserted last (`latest?`), in the order in
which the names came first, and each use answered accordingly: an insertion that other values were
overwritten exactly when the name was there with others. A registry made anew from the entries
answers every further use alike and has the same entries after it. -/
theorem run_ofList (seed : List Enumeration) (operations : List Operation) :
    let registry := (run (Registry.ofList seed).1 operations).2
    let history := seed ++ operations.filterMap Operation.inserted?
    let rebuilt := (Registry.ofList registry.entries).1
    (∀ name slot, registry.index.lookup name = some slot ↔
      ∃ entry, registry.entries[slot]? = some entry ∧ entry.name = name) ∧
    (names registry.entries).Nodup ∧
    (∀ name, registry.get? name = latest? history name) ∧
    names registry.entries = (names history).eraseDups ∧
    registry.size = (names history).toFinset.card ∧
    (registry.isEmpty = true ↔ history = []) ∧
    (run (Registry.ofList seed).1 operations).1 = answers seed operations ∧
    ∀ more, (run rebuilt more).1 = (run registry more).1 ∧
      (run rebuilt more).2.entries = (run registry more).2.entries := by
  intro registry history rebuilt
  obtain ⟨hanswers, hrecords⟩ := answers_run (records_ofList seed) operations
  refine ⟨registry.lookup_eq_some_iff, registry.nodup, hrecords.latest, hrecords.order,
    hrecords.size_eq, hrecords.isEmpty_iff, hanswers, ?_⟩
  intro more
  -- The entries are a history of the registry and of the one made from them.
  obtain ⟨hrebuilt, hafter⟩ := answers_run (records_ofList registry.entries) more
  obtain ⟨hold, hafterOld⟩ := answers_run (records_self registry) more
  exact ⟨hrebuilt.trans hold.symm, hafter.entries_eq hafterOld⟩

end WrapperModel.Enumeration
