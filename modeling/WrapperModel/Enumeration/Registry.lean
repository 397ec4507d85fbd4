import WrapperModel.Model.Basic

/-!
# `WrapperModel.Enumeration.Registry`: enumerations by name

A registry holds enumerations in the order in which their names first came, and an index
that gives the place of each name. A name that comes again takes the new values at its old
place: the last values win. A change of values is a `Collision`, which `insert` gives beside
the new registry.

The index agrees with the entries, which is part of the type. So the names are distinct, and
what is found through the index is what a search among the entries would find.
-/

set_option autoImplicit false

namespace WrapperModel.Enumeration

open WrapperModel.Model (Enumeration)

/-- Other values came for a name that was there. The values are compared in their order, so the same
ones in another order are others too. -/
structure Collision where
  name : String
  previous : List String
  current : List String
  deriving Repr, DecidableEq

/-- The names of enumerations in order, repetitions included. A `Registry` has none. -/
def names (entries : List Enumeration) : List String :=
  entries.map fun entry => entry.name

/-- Enumerations with an index of their names. The index and the entries agree by `indexed`, so that
a registry in which they differ cannot be built, and no later proof has to carry it along. -/
structure Registry where
  entries : List Enumeration
  /-- The place of each name among the entries. -/
  index : List (String × Nat)
  /-- A name is indexed at a place exactly when the entry there carries it. -/
  indexed : ∀ name slot, index.lookup name = some slot ↔ (names entries)[slot]? = some name

namespace Registry

/-- A registry that holds nothing, with which `Registry.ofList` begins. -/
def empty : Registry :=
  ⟨[], [], by simp [names]⟩

/-- The enumeration of that name, found through the index. `get?_eq_find?` says that a search finds
the same. -/
def get? (registry : Registry) (name : String) : Option Enumeration :=
  (registry.index.lookup name).bind fun slot => registry.entries[slot]?

/-- The number of names, which is that of the entries since no name stands twice. -/
def size (registry : Registry) : Nat :=
  registry.entries.length

/-- The registry holds nothing, not even an enumeration without values. It is a question about the
entries, not about their values. -/
def isEmpty (registry : Registry) : Bool :=
  registry.entries.isEmpty

/-- Puts the values in the place of those of the entry at `slot`, which keeps its name. -/
def setValues (entries : List Enumeration) (slot : Nat) (values : List String) :
    List Enumeration :=
  entries.modify slot fun entry => { entry with values }

/-- New values leave the names as they are (`setValues`), so the index stays right. -/
theorem names_setValues (entries : List Enumeration) (slot : Nat) (values : List String) :
    names (setValues entries slot values) = names entries := by
  refine List.ext_getElem? fun place => ?_
  simp only [names, setValues, List.getElem?_map, List.getElem?_modify]
  cases entries[place]? with
  | none => rfl
  | some entry =>
    simp only [Option.map_some]
    split <;> rfl

/-- The index of the entries stays right where a name that it does not have goes to the end. The two
hypotheses are what a registry has and what `insert` asks before it appends. -/
theorem indexed_append {entries : List Enumeration} {index : List (String × Nat)}
    {new : Enumeration}
    (indexed : ∀ name slot, index.lookup name = some slot ↔ (names entries)[slot]? = some name)
    (fresh : index.lookup new.name = none) (name : String) (slot : Nat) :
    ((new.name, entries.length) :: index).lookup name = some slot ↔
      (names (entries ++ [new]))[slot]? = some name := by
  have hsplit : names (entries ++ [new]) = names entries ++ [new.name] := by simp [names]
  have hlength : (names entries).length = entries.length := by simp [names]
  have hnew : (names entries)[slot]? ≠ some new.name := by
    rw [ne_eq, ← indexed, fresh]
    simp
  rw [hsplit, List.getElem?_append, hlength]
  -- The new name leads to the slot behind all others, every other name where it led before.
  by_cases hname : name = new.name
  · subst hname
    simp only [List.lookup_cons_self, Option.some.injEq]
    split
    · simp only [hnew, iff_false]
      omega
    · rw [List.getElem?_singleton]
      simp only [Option.ite_none_right_eq_some, and_true]
      omega
  · rw [List.lookup_cons, beq_false_of_ne hname, indexed]
    split
    · rfl
    · have hend : (names entries)[slot]? = none := List.getElem?_eq_none (by omega)
      rw [hend, List.getElem?_singleton]
      simp [Ne.symm hname]

/-- Inserts an enumeration. A name that is there keeps its place and takes the new values; a new
name goes to the end. The collision comes where values were there and were others. -/
def insert (registry : Registry) (new : Enumeration) : Registry × Option Collision :=
  match h : registry.index.lookup new.name with
  | some slot =>
    (⟨setValues registry.entries slot new.values, registry.index, by
        rw [names_setValues]; exact registry.indexed⟩,
      registry.entries[slot]?.bind fun old =>
        if old.values = new.values then none
        else some ⟨new.name, old.values, new.values⟩)
  | none =>
    (⟨registry.entries ++ [new], (new.name, registry.entries.length) :: registry.index,
        indexed_append registry.indexed h⟩,
      none)

/-- Inserts values under a name. It is `insert` of the enumeration with that name and these
values. -/
def register (registry : Registry) (name : String) (values : List String) :
    Registry × Option Collision :=
  registry.insert ⟨name, values⟩

/-- Inserts enumerations one after the other (`Registry.insert`) and collects the collisions in that
order. -/
def insertAll (registry : Registry) : List Enumeration → Registry × List Collision
  | [] => (registry, [])
  | new :: rest =>
    let (next, collision) := registry.insert new
    let (final, more) := next.insertAll rest
    (final, collision.toList ++ more)

/-- A registry of the given enumerations, with the collisions among them (`insertAll`). Of a name
that comes several times the last values stay. -/
def ofList (entries : List Enumeration) : Registry × List Collision :=
  empty.insertAll entries

end Registry

end WrapperModel.Enumeration
