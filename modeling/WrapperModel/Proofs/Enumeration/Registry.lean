import WrapperModel.Enumeration.Registry

/-!
# `WrapperModel.Proofs.Enumeration.Registry`: what insertion keeps

An insertion finds the name in the index and puts the new values there, or adds the name at
the end of the entries and of the index. `insert_cases` says all that it can do. By the
agreement of index and entries the new enumeration is then found under its name, and every
other name is found as before. By induction the same holds of a whole run of insertions.

* `nodup`, `get?_eq_some_iff`, `get?_eq_find?`: what the index says of the entries.
* `names_insert`, `get?_insert`, `collision_insert`: one insertion.
* `entries_ext`: the names in order and what is found under them determine the entries.
* `mem_names_insertAll`, `mem_entries_insertAll`: what is there after a run.
-/

set_option autoImplicit false

namespace WrapperModel.Enumeration.Registry

open WrapperModel.Model (Enumeration)

/-! ### Index and entries -/

/-- A name is indexed at a place exactly when the entry there carries it. It is `Registry.indexed`,
said of entries instead of names. -/
theorem lookup_eq_some_iff (registry : Registry) (name : String) (slot : Nat) :
    registry.index.lookup name = some slot ↔
      ∃ entry, registry.entries[slot]? = some entry ∧ entry.name = name := by
  rw [registry.indexed, names, List.getElem?_map, Option.map_eq_some_iff]

/-- A name is not indexed exactly when no entry carries it, which is one direction of the coherence
that `Registry` carries. -/
theorem lookup_eq_none_iff (registry : Registry) (name : String) :
    registry.index.lookup name = none ↔ name ∉ names registry.entries := by
  rw [Option.eq_none_iff_forall_ne_some, List.mem_iff_getElem?, not_exists]
  exact forall_congr' fun slot => not_congr (registry.indexed name slot)

/-- No two entries carry the same name, for the index has one place for each and leads to the entry
that has it. -/
theorem nodup (registry : Registry) : (names registry.entries).Nodup := by
  rw [List.Nodup, List.pairwise_iff_getElem]
  intro i j hi hj hlt heq
  -- The name is indexed at one place only.
  have hfirst := (registry.indexed _ i).2 (List.getElem?_eq_getElem hi)
  have hsecond := (registry.indexed _ j).2 (List.getElem?_eq_getElem hj)
  rw [heq, hsecond, Option.some.injEq] at hfirst
  omega

/-- What is found under a name is the entry that carries it. With `nodup` there is one at most. -/
theorem get?_eq_some_iff {registry : Registry} {name : String} {entry : Enumeration} :
    registry.get? name = some entry ↔ entry ∈ registry.entries ∧ entry.name = name := by
  rw [get?, Option.bind_eq_some_iff]
  constructor
  · rintro ⟨slot, hslot, hentry⟩
    obtain ⟨found, hfound, hname⟩ := (registry.lookup_eq_some_iff name slot).1 hslot
    rw [hentry, Option.some.injEq] at hfound
    subst hfound
    exact ⟨List.mem_of_getElem? hentry, hname⟩
  · rintro ⟨hmem, hname⟩
    obtain ⟨slot, hslot⟩ := List.mem_iff_getElem?.1 hmem
    exact ⟨slot, (registry.lookup_eq_some_iff name slot).2 ⟨entry, hslot, hname⟩, hslot⟩

/-- Nothing is found exactly under the names that no entry carries (`names`). -/
theorem get?_eq_none_iff (registry : Registry) (name : String) :
    registry.get? name = none ↔ name ∉ names registry.entries := by
  rw [Option.eq_none_iff_forall_ne_some, names, List.mem_map, not_exists]
  exact forall_congr' fun entry => not_congr get?_eq_some_iff

/-- An entry is there exactly when it is found under its name, so `entries` and `get?` say the
same. -/
theorem mem_entries_iff {registry : Registry} {entry : Enumeration} :
    entry ∈ registry.entries ↔ registry.get? entry.name = some entry := by
  rw [get?_eq_some_iff]
  exact (and_iff_left rfl).symm

/-- What is found through the index is what `List.find?` finds among the entries, so the index
changes no answer. -/
theorem get?_eq_find? (registry : Registry) (name : String) :
    registry.get? name = registry.entries.find? fun entry => entry.name = name := by
  cases hfind : registry.entries.find? fun entry => entry.name = name with
  | none =>
    rw [get?_eq_none_iff]
    simpa [names] using hfind
  | some entry =>
    refine get?_eq_some_iff.2 ⟨List.mem_of_find?_eq_some hfind, ?_⟩
    simpa using List.find?_some hfind

/-- The names in order and what is found under them determine the entries. The index itself may be
written in another order. -/
theorem entries_ext {registry other : Registry}
    (hnames : names registry.entries = names other.entries)
    (hget : ∀ name, registry.get? name = other.get? name) :
    registry.entries = other.entries := by
  have hlength : registry.entries.length = other.entries.length := by
    simpa [names] using congrArg List.length hnames
  refine List.ext_getElem hlength fun place hleft hright => ?_
  -- In each place stands the entry of one name, and that name leads to one entry.
  have hname : registry.entries[place].name = other.entries[place].name := by
    have hplace := congrArg (fun list => list[place]?) hnames
    simpa [names, hleft, hright] using hplace
  have hfound := mem_entries_iff.1 (List.getElem_mem hleft)
  rw [hget, hname, mem_entries_iff.1 (List.getElem_mem hright)] at hfound
  exact (Option.some.inj hfound).symm

/-! ### One insertion -/

/-- An insertion replaces the values of the entry that carries the name, and tells if they were
others. Where no entry carries it, the new one goes to the end. All that follows about `insert` is
read off these two cases. -/
theorem insert_cases (registry : Registry) (new : Enumeration) :
    (∃ slot old, registry.index.lookup new.name = some slot ∧
      registry.entries[slot]? = some old ∧ old.name = new.name ∧
      (registry.insert new).1.entries = setValues registry.entries slot new.values ∧
      (registry.insert new).1.index = registry.index ∧
      (registry.insert new).2 =
        if old.values = new.values then none else some ⟨new.name, old.values, new.values⟩) ∨
    (registry.index.lookup new.name = none ∧
      (registry.insert new).1.entries = registry.entries ++ [new] ∧
      (registry.insert new).1.index = (new.name, registry.entries.length) :: registry.index ∧
      (registry.insert new).2 = none) := by
  unfold insert
  split
  · rename_i slot hslot
    obtain ⟨old, hold, hname⟩ := (registry.lookup_eq_some_iff new.name slot).1 hslot
    exact .inl ⟨slot, old, hslot, hold, hname, rfl, rfl, by rw [hold, Option.bind_some]⟩
  · rename_i hnone
    exact .inr ⟨hnone, rfl, rfl, rfl⟩

/-- A name that was there keeps its place, and a new one goes to the end. This is the order of first
arrival. -/
theorem names_insert (registry : Registry) (new : Enumeration) :
    names (registry.insert new).1.entries =
      if new.name ∈ names registry.entries then names registry.entries
      else names registry.entries ++ [new.name] := by
  rcases registry.insert_cases new with
    ⟨slot, old, hslot, -, -, hentries, -⟩ | ⟨hnone, hentries, -⟩
  · have hmem : new.name ∈ names registry.entries :=
      List.mem_of_getElem? ((registry.indexed _ _).1 hslot)
    rw [if_pos hmem, hentries, names_setValues]
  · rw [if_neg ((registry.lookup_eq_none_iff _).1 hnone), hentries]
    simp [names]

/-- After an insertion the new enumeration is found under its name, whether or not another was
there. -/
theorem get?_insert_self (registry : Registry) (new : Enumeration) :
    (registry.insert new).1.get? new.name = some new := by
  rcases registry.insert_cases new with
    ⟨slot, old, hslot, hold, hname, hentries, hindex, -⟩ | ⟨-, hentries, hindex, -⟩
  · rw [get?, hentries, hindex, hslot, Option.bind_some, setValues, List.getElem?_modify_eq, hold,
      Option.map_eq_map, Option.map_some, hname]
  · rw [get?, hentries, hindex, List.lookup_cons_self, Option.bind_some,
      List.getElem?_concat_length]

/-- After an insertion any other name is found as before. The index has not moved. -/
theorem get?_insert_of_ne (registry : Registry) {new : Enumeration} {name : String}
    (hne : new.name ≠ name) : (registry.insert new).1.get? name = registry.get? name := by
  rcases registry.insert_cases new with
    ⟨slot, old, -, hold, hname, hentries, hindex, -⟩ | ⟨-, hentries, hindex, -⟩
  · rw [get?, get?, hentries, hindex]
    refine Option.bind_congr fun place hplace => ?_
    -- Another name has another place, where the values are kept.
    have hother : slot ≠ place := by
      rintro rfl
      obtain ⟨found, hfound, hfoundName⟩ := (registry.lookup_eq_some_iff name slot).1 hplace
      rw [hold, Option.some.injEq] at hfound
      exact hne (hname ▸ hfound ▸ hfoundName)
    rw [setValues, List.getElem?_modify_ne _ _ hother]
  · rw [get?, get?, hentries, hindex, List.lookup_cons, beq_false_of_ne hne.symm]
    refine Option.bind_congr fun place hplace => ?_
    obtain ⟨found, hfound, -⟩ := (registry.lookup_eq_some_iff name place).1 hplace
    exact List.getElem?_append_left (List.getElem?_eq_some_iff.1 hfound).1

/-- After an insertion the new enumeration is found under its name, and any other name is found as
before. The two cases in one equation. -/
theorem get?_insert (registry : Registry) (new : Enumeration) (name : String) :
    (registry.insert new).1.get? name =
      if new.name = name then some new else registry.get? name := by
  split
  · rename_i heq
    exact heq ▸ registry.get?_insert_self new
  · rename_i hne
    exact registry.get?_insert_of_ne hne

/-- An insertion tells of a collision exactly when other values are found under the name. The same
values again are none. -/
theorem collision_insert (registry : Registry) (new : Enumeration) :
    (registry.insert new).2 = (registry.get? new.name).bind fun old =>
      if old.values = new.values then none else some ⟨new.name, old.values, new.values⟩ := by
  rcases registry.insert_cases new with
    ⟨slot, old, hslot, hold, -, -, -, hcollision⟩ | ⟨hnone, -, -, hcollision⟩
  · rw [hcollision, get?, hslot, Option.bind_some, hold, Option.bind_some]
  · rw [hcollision, get?, hnone, Option.bind_none, Option.bind_none]

/-- The names after an insertion are those before and the new one. None is ever lost. -/
theorem mem_names_insert {registry : Registry} {new : Enumeration} {name : String} :
    name ∈ names (registry.insert new).1.entries ↔
      name ∈ names registry.entries ∨ name = new.name := by
  rw [names_insert]
  split
  · rename_i hknown
    exact ⟨.inl, fun hname => hname.elim id fun hname => hname ▸ hknown⟩
  · rw [List.mem_append, List.mem_singleton]

/-- An entry after an insertion was there before, or is the new one. The converse fails for an entry
that was replaced. -/
theorem mem_entries_insert {registry : Registry} {new entry : Enumeration}
    (h : entry ∈ (registry.insert new).1.entries) : entry ∈ registry.entries ∨ entry = new := by
  rw [mem_entries_iff, get?_insert] at h
  split at h
  · exact .inr (Option.some.inj h).symm
  · exact .inl (mem_entries_iff.2 h)

/-! ### Runs of insertions -/

/-- The names after a run of `insertAll` are those before and those of all that was inserted. -/
theorem mem_names_insertAll {registry : Registry} {new : List Enumeration} {name : String} :
    name ∈ names (registry.insertAll new).1.entries ↔
      name ∈ names registry.entries ∨ name ∈ names new := by
  -- on what is inserted, for any registry, which the first insertion changes
  induction new generalizing registry with
  | nil => simp [insertAll, names]
  | cons first rest ih =>
    rw [insertAll, ih, mem_names_insert, or_assoc]
    simp [names]

/-- An entry after a run was there before, or was inserted. Not every entry that was there before is
still there, since its values may have been replaced. -/
theorem mem_entries_insertAll {registry : Registry} {new : List Enumeration}
    {entry : Enumeration} (h : entry ∈ (registry.insertAll new).1.entries) :
    entry ∈ registry.entries ∨ entry ∈ new := by
  -- on what is inserted, in the same way
  induction new generalizing registry with
  | nil => exact .inl h
  | cons first rest ih =>
    rw [insertAll] at h
    rcases ih h with hentry | hentry
    · rcases mem_entries_insert hentry with hold | rfl
      · exact .inl hold
      · exact .inr List.mem_cons_self
    · exact .inr (List.mem_cons_of_mem first hentry)

end WrapperModel.Enumeration.Registry
