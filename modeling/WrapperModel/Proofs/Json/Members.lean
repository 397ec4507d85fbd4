import Mathlib.Data.List.Nodup
import Mathlib.Tactic.MkIffOfInductiveProp
import WrapperModel.Json.Record

/-!
# `WrapperModel.Proofs.Json.Members`: the members that a reader looks at

`known` are the members of an object whose keys are fields. `fieldsOfMembers_eq_ok_iff` says all
that reading an object asks for: keys that are texts, and no field's key twice. Beyond that a
record is read field by field, and each field looks at its own member alone (`IsFieldwise`). So
what a change of the members does to a record is what it does to each of its fields:

* `IsFieldwise.reorder`, `IsFieldwise.insert`: another order, and members that are no fields.
* `IsFieldwise.remove`: a member that is read as the default of its field.
* `IsFieldwise.replace`: a member in place of another that is read as the same.
* `IsFieldwise.double`: a second member of a field is refused.
* `IsFieldwise.decode_of_mem`: every member of a field has to be readable.
-/

set_option autoImplicit false

namespace WrapperModel.Json

/-- A member of an object. Its key need not be a text, and one that is none makes the object
unreadable (`IsReadable`). -/
abbrev Member := Option String × Json

/-! ### The members of fields -/

/-- The members whose keys are fields, in their order. It leaves out keys that are no texts, which
`IsReadable` forbids. -/
def known (keys : List String) (members : List Member) : Fields :=
  members.filterMap fun member =>
    member.1.bind fun key => if key ∈ keys then some (key, member.2) else none

@[simp] theorem known_append (keys : List String) (members more : List Member) :
    known keys (members ++ more) = known keys members ++ known keys more :=
  List.filterMap_append

theorem known_cons_of_mem {keys : List String} {key : String} (h : key ∈ keys) (value : Json)
    (members : List Member) :
    known keys ((some key, value) :: members) = (key, value) :: known keys members := by
  simp [known, h]

theorem known_cons_of_not_mem {keys : List String} {key : String} (h : key ∉ keys) (value : Json)
    (members : List Member) : known keys ((some key, value) :: members) = known keys members := by
  simp [known, h]

/-- An object can be read as a record with these keys: each key of it is a text, and no key of a
field comes twice. Nothing is said of the values, which the fields look at one by one. -/
@[mk_iff]
structure IsReadable (keys : List String) (members : List Member) : Prop where
  text : ∀ member ∈ members, member.1 ≠ none
  nodup : ((known keys members).map Prod.fst).Nodup

/-- A member whose key is no text cannot be read, be it a field or not, so `IsReadable` excludes
it. -/
theorem not_isReadable_cons_none (keys : List String) (value : Json) (members : List Member) :
    ¬IsReadable keys ((none, value) :: members) :=
  fun h => h.text _ List.mem_cons_self rfl

/-- A member of a field can be read in front of others if its key is not that of one of their
fields. This is where a doubled key is refused. -/
theorem isReadable_cons_of_mem {keys : List String} {key : String} (h : key ∈ keys) (value : Json)
    (members : List Member) :
    IsReadable keys ((some key, value) :: members) ↔
      IsReadable keys members ∧ key ∉ (known keys members).map Prod.fst := by
  rw [isReadable_iff, isReadable_iff, known_cons_of_mem h, List.map_cons, List.nodup_cons,
    List.forall_mem_cons]
  exact ⟨fun ⟨⟨_, htext⟩, hnew, hnodup⟩ => ⟨⟨htext, hnodup⟩, hnew⟩,
    fun ⟨⟨htext, hnodup⟩, hnew⟩ => ⟨⟨Option.some_ne_none key, htext⟩, hnew, hnodup⟩⟩

/-- A member that is no field can be read wherever the others can, as often as its key may come. It
is passed over. -/
theorem isReadable_cons_of_not_mem {keys : List String} {key : String} (h : key ∉ keys)
    (value : Json) (members : List Member) :
    IsReadable keys ((some key, value) :: members) ↔ IsReadable keys members := by
  rw [isReadable_iff, isReadable_iff, known_cons_of_not_mem h, List.forall_mem_cons,
    and_iff_right (Option.some_ne_none key)]

/-- Reading the members of an object gives those of the fields, in their order (`known`), exactly if
the object `IsReadable`. From here on `fieldsOfMembers` is not opened again. -/
theorem fieldsOfMembers_eq_ok_iff {keys : List String} {members : List Member} {fields : Fields} :
    fieldsOfMembers keys members = .ok fields ↔
      IsReadable keys members ∧ fields = known keys members := by
  induction members generalizing fields with
  | nil =>
    have hnil : IsReadable keys [] := ⟨by simp, List.nodup_nil⟩
    simp [fieldsOfMembers, hnil, known, eq_comm]
  | cons member rest ih =>
    obtain ⟨key, value⟩ := member
    cases key with
    | none => simp [fieldsOfMembers, not_isReadable_cons_none]
    | some key =>
      by_cases hkey : key ∈ keys
      · rw [fieldsOfMembers, if_pos (List.contains_iff_mem.2 hkey), known_cons_of_mem hkey,
          isReadable_cons_of_mem hkey]
        -- The check for a second member looks through those that are read already.
        have hagain : (known keys rest).any (fun field => field.1 = key) = true ↔
            key ∈ (known keys rest).map Prod.fst := by
          simp
        cases hrest : fieldsOfMembers keys rest with
        | error e =>
          have hrefused : ¬IsReadable keys rest := fun h =>
            absurd (hrest.symm.trans (ih.2 ⟨h, rfl⟩)) (by simp)
          simp [hrefused]
        | ok others =>
          obtain ⟨hreadable, rfl⟩ := ih.1 hrest
          show (if _ then _ else _) = _ ↔ _
          split
          · rename_i hmem
            simp [hagain.1 hmem]
          · rename_i hnew
            rw [Except.ok.injEq, and_iff_right ⟨hreadable, mt hagain.2 hnew⟩, eq_comm]
      · rw [fieldsOfMembers, if_neg (mt List.contains_iff_mem.1 hkey), known_cons_of_not_mem hkey,
          isReadable_cons_of_not_mem hkey, ih]

/-! ### Looking a field up -/

/-- Where no key comes twice, a field is found exactly if it is there. Otherwise the first of two
would hide the second. -/
theorem lookup_eq_some_iff_mem {fields : Fields} (h : (fields.map Prod.fst).Nodup) {key : String}
    {value : Json} : fields.lookup key = some value ↔ (key, value) ∈ fields := by
  -- on the fields; the first of them is found at once, and by the hypothesis no later one has its
  -- key
  induction fields with
  | nil => simp
  | cons field rest ih =>
    obtain ⟨first, firstValue⟩ := field
    rw [List.map_cons, List.nodup_cons] at h
    rw [List.lookup_cons]
    by_cases heq : key = first
    · subst heq
      have hnone : ∀ v, (key, v) ∉ rest := fun v hmem => h.1 (List.mem_map.2 ⟨_, hmem, rfl⟩)
      simp [hnone, eq_comm]
    · have hbeq : (key == first) = false := by simpa using heq
      simp [hbeq, ih h.2, heq]

/-- The order of the fields makes no difference to `lookup`, as long as no key comes twice. -/
theorem lookup_eq_of_perm {fields fields' : Fields} (hperm : fields.Perm fields')
    (h : (fields.map Prod.fst).Nodup) (key : String) : fields.lookup key = fields'.lookup key := by
  have h' : (fields'.map Prod.fst).Nodup := (hperm.map Prod.fst).nodup h
  apply Option.ext
  intro value
  rw [lookup_eq_some_iff_mem h, lookup_eq_some_iff_mem h', hperm.mem_iff]

/-- Of a field that comes once, only its own key is found there; other keys are found beside it. -/
theorem lookup_append_cons {before behind : Fields} {key : String} {value : Json}
    (h : ((before ++ (key, value) :: behind).map Prod.fst).Nodup) (wanted : String) :
    (before ++ (key, value) :: behind).lookup wanted =
      if wanted = key then some value else (before ++ behind).lookup wanted := by
  split
  · rename_i heq
    subst heq
    exact (lookup_eq_some_iff_mem h).2 (by simp)
  · rename_i hne
    have hbeq : (wanted == key) = false := by simpa using hne
    rw [List.lookup_append, List.lookup_append, List.lookup_cons, hbeq]

/-- Once a field that came once is taken out, its key is not found, and its default takes its
place. -/
theorem lookup_append_eq_none {before behind : Fields} {key : String} {value : Json}
    (h : ((before ++ (key, value) :: behind).map Prod.fst).Nodup) :
    (before ++ behind).lookup key = none := by
  rw [List.map_append, List.map_cons, List.nodup_middle, List.nodup_cons, ← List.map_append] at h
  rw [List.lookup_eq_none_iff]
  intro field hfield
  simp only [bne_iff_ne]
  rintro rfl
  exact h.1 (List.mem_map.2 ⟨field, hfield, rfl⟩)

/-! ### Fewer fields -/

/-- Of the members of some fields, those of fewer fields are found among them. It serves records
that are read in two passes. -/
theorem known_of_subset {few keys : List String} (hsub : few ⊆ keys) (members : List Member) :
    known few members = (known keys members).filter fun field => field.1 ∈ few := by
  induction members with
  | nil => rfl
  | cons member rest ih =>
    obtain ⟨key, value⟩ := member
    cases key with
    | none => exact ih
    | some key =>
      -- A key of the few is one of the many, so the wider reading keeps it.
      by_cases hfew : key ∈ few
      · rw [known_cons_of_mem hfew, known_cons_of_mem (hsub hfew),
          List.filter_cons_of_pos (by simpa using hfew), ih]
      · rw [known_cons_of_not_mem hfew, ih]
        by_cases hkey : key ∈ keys
        · rw [known_cons_of_mem hkey, List.filter_cons_of_neg (by simpa using hfew)]
        · rw [known_cons_of_not_mem hkey]

/-- An object that is read with some keys can be read with fewer of them: asking for fewer keys
leaves fewer repetitions to refuse. -/
theorem fieldsOfObject_of_subset {few keys : List String} {object : Json} {given : Fields}
    (hsub : few ⊆ keys) (h : fieldsOfObject keys object = .ok given) :
    fieldsOfObject few object = .ok (given.filter fun field => field.1 ∈ few) := by
  cases object with
  | object members =>
    obtain ⟨⟨htext, hnodup⟩, rfl⟩ := fieldsOfMembers_eq_ok_iff.1 h
    refine fieldsOfMembers_eq_ok_iff.2 ⟨⟨htext, ?_⟩, (known_of_subset hsub members).symm⟩
    rw [known_of_subset hsub]
    exact (List.filter_sublist.map Prod.fst).nodup hnodup
  | _ => exact absurd h (by simp [fieldsOfObject])

/-- Where fewer fields are kept, each of them is found as before: the others are not in its way. So
flags can be read from the fields of the record around them. -/
theorem lookup_filter_of_mem {few : List String} {key : String} (h : key ∈ few)
    (given : Fields) :
    (given.filter fun field => field.1 ∈ few).lookup key = given.lookup key := by
  induction given with
  | nil => rfl
  | cons field rest ih =>
    obtain ⟨first, value⟩ := field
    by_cases hfirst : first ∈ few
    · rw [List.filter_cons_of_pos (by simpa using hfirst), List.lookup_cons, List.lookup_cons, ih]
    · -- What is left out has another key.
      have hne : (key == first) = false := by
        rw [beq_eq_false_iff_ne]
        rintro rfl
        exact hfirst h
      rw [List.filter_cons_of_neg (by simpa using hfirst), List.lookup_cons, hne, ih]

/-! ### Fields of a record -/

/-- A field of a record: the key under which it stands, how its value is read, what it is where the
key is missing, and what it is in a record. A list of these is what a reader of records amounts to
(`IsFieldwise`). -/
structure RecordField (Record : Type) where
  Value : Type
  key : String
  decode : Json → Except DecodeError Value
  default : Value
  value : Record → Value

variable {Record : Type} {fields : List (RecordField Record)}
  {decode : Json → Except DecodeError Record} {members before behind : List Member}
  {key : String} {value : Json} {record : Record}

/-- From the given members the field is read, by `Fields.read`, as it is in the record. -/
def RecordField.Reads (f : RecordField Record) (given : Fields) (record : Record) : Prop :=
  given.read f.key f.decode f.default = .ok (f.value record)

/-- A field that is given is read from its member, by the reader that the field has. -/
theorem RecordField.reads_iff_decode {f : RecordField Record} {given : Fields}
    (h : given.lookup f.key = some value) :
    f.Reads given record ↔ f.decode value = .ok (f.value record) := by
  rw [RecordField.Reads, Fields.read, h]

/-- A field that is not given is at its `default`. -/
theorem RecordField.reads_iff_default {f : RecordField Record} {given : Fields}
    (h : given.lookup f.key = none) :
    f.Reads given record ↔ f.default = f.value record := by
  rw [RecordField.Reads, Fields.read, h]
  exact ⟨Except.ok.inj, congrArg _⟩

/-- A field looks at its own key alone, so it cannot tell two lists of members in which that key is
found alike. -/
theorem RecordField.reads_congr {f : RecordField Record} {given other : Fields}
    (h : given.lookup f.key = other.lookup f.key) :
    f.Reads given record ↔ f.Reads other record := by
  rw [RecordField.Reads, RecordField.Reads, Fields.read, Fields.read, h]

/-- The field is read as `read` reads, but for what is made of the value by `fill`. A field that has
a nested record and one that has an optional one read the same object. -/
def RecordField.ReadsAs {Value : Type} (f : RecordField Record)
    (read : Json → Except DecodeError Value) : Prop :=
  ∃ fill : Value → f.Value, ∀ value, f.decode value = (read value).map fill

/-- A field that is put together from its parts is read as its own reader reads
(`RecordField.ReadsAs`). Here the value is the field's own, so nothing is filled in. -/
@[simp] theorem RecordField.readsAs_mk {Value : Type} (key : String)
    (decode : Json → Except DecodeError Value) (default : Value) (value : Record → Value) :
    RecordField.ReadsAs ⟨Value, key, decode, default, value⟩ decode := by
  refine ⟨id, fun given => ?_⟩
  show decode given = _
  cases decode given <;> rfl

/-- Where such a field is read, the reader `read` gives a value, since the field has no other
one. -/
theorem RecordField.ReadsAs.exists_read {Value : Type} {f : RecordField Record}
    {read : Json → Except DecodeError Value} (h : f.ReadsAs read) {a : f.Value}
    (ha : f.decode value = .ok a) : ∃ b, read value = .ok b := by
  obtain ⟨fill, hfill⟩ := h
  rw [hfill] at ha
  cases hread : read value with
  | error e =>
    rw [hread] at ha
    cases ha
  | ok b => exact ⟨b, rfl⟩

/-- What `read` reads as the same is the same in such a field. It carries an edit deep inside a
value up to the record. -/
theorem RecordField.ReadsAs.replace {Value : Type} {f : RecordField Record}
    {read : Json → Except DecodeError Value} (h : f.ReadsAs read) {value' : Json}
    (hvalue : ∀ b, read value = .ok b → read value' = .ok b) {a : f.Value}
    (ha : f.decode value = .ok a) : f.decode value' = .ok a := by
  obtain ⟨b, hb⟩ := h.exists_read ha
  obtain ⟨fill, hfill⟩ := h
  rw [hfill, hb] at ha
  rw [hfill, hvalue b hb]
  exact ha

/-- A record with these fields is read from an object that can be read (`IsReadable`), each field on
its own. All that follows about changes of an object needs no more of a reader than this. -/
structure IsFieldwise (fields : List (RecordField Record))
    (decode : Json → Except DecodeError Record) : Prop where
  decode_object_iff : ∀ (members : List Member) (record : Record),
    decode (.object members) = .ok record ↔
      IsReadable (fields.map RecordField.key) members ∧
        ∀ f ∈ fields, f.Reads (known (fields.map RecordField.key) members) record

/-- Of two steps of reading the second goes on with what the first gave, and both have to succeed.
It takes a chain of steps apart without opening `Except`. -/
theorem bind_eq_ok_iff {α β : Type} {first : Except DecodeError α}
    {next : α → Except DecodeError β} {b : β} :
    first >>= next = .ok b ↔ ∃ a, first = .ok a ∧ next a = .ok b := by
  cases first <;> simp [bind, Except.bind]

/-- A record that is made of what its fields read is read field by field. This is how the readers of
the model are shown to be of the kind, with their `do` blocks in `hreads`. -/
theorem IsFieldwise.of_reads {keys : List String} {ofFields : Fields → Except DecodeError Record}
    (hkeys : keys = fields.map RecordField.key)
    (hdecode : ∀ members, decode (.object members) = fieldsOfMembers keys members >>= ofFields)
    (hreads : ∀ given record,
      ofFields given = .ok record ↔ ∀ f ∈ fields, f.Reads given record) :
    IsFieldwise fields decode where
  decode_object_iff members record := by
    rw [hdecode, bind_eq_ok_iff, ← hkeys]
    constructor
    · rintro ⟨given, hgiven, hrecord⟩
      obtain ⟨hreadable, rfl⟩ := fieldsOfMembers_eq_ok_iff.1 hgiven
      exact ⟨hreadable, (hreads _ _).1 hrecord⟩
    · rintro ⟨hreadable, hfields⟩
      exact ⟨_, fieldsOfMembers_eq_ok_iff.2 ⟨hreadable, rfl⟩, (hreads _ _).2 hfields⟩

/-! ### Changes of the members -/

/-- Members in another order are read as the same record. Since no field comes twice, no member
hides another, and fields that do not come are not told apart. -/
theorem IsFieldwise.reorder (h : IsFieldwise fields decode) {members' : List Member}
    (hperm : members.Perm members') (hread : decode (.object members) = .ok record) :
    decode (.object members') = .ok record := by
  obtain ⟨hreadable, hfields⟩ := (h.decode_object_iff _ _).1 hread
  have hknown : (known (fields.map RecordField.key) members).Perm
      (known (fields.map RecordField.key) members') := hperm.filterMap _
  refine (h.decode_object_iff _ _).2 ⟨⟨fun member hmem => ?_, ?_⟩, fun f hf => ?_⟩
  · exact hreadable.text member (hperm.mem_iff.2 hmem)
  · exact (hknown.map Prod.fst).nodup hreadable.nodup
  · exact (f.reads_congr (lookup_eq_of_perm hknown hreadable.nodup f.key)).1 (hfields f hf)

/-- A member whose key is a text makes no difference to whether all keys are texts, which is the
first thing that is asked of an object. -/
theorem forall_text_append_cons :
    (∀ member ∈ before ++ (some key, value) :: behind, member.1 ≠ none) ↔
      ∀ member ∈ before ++ behind, member.1 ≠ none := by
  rw [List.forall_mem_append, List.forall_mem_append, List.forall_mem_cons,
    and_iff_right (Option.some_ne_none key)]

/-- A member whose key is no field is passed over, whatever its value: it may be nested, huge, or a
string without a text. -/
theorem IsFieldwise.insert (h : IsFieldwise fields decode) (hkey : key ∉ fields.map RecordField.key)
    (hread : decode (.object (before ++ behind)) = .ok record) :
    decode (.object (before ++ (some key, value) :: behind)) = .ok record := by
  obtain ⟨⟨htext, hnodup⟩, hfields⟩ := (h.decode_object_iff _ _).1 hread
  have hknown : known (fields.map RecordField.key) (before ++ (some key, value) :: behind) =
      known (fields.map RecordField.key) (before ++ behind) := by
    rw [known_append, known_append, known_cons_of_not_mem hkey]
  exact (h.decode_object_iff _ _).2
    ⟨⟨forall_text_append_cons.2 htext, hknown ▸ hnodup⟩, hknown ▸ hfields⟩

/-- The member of a field can be told from those around it: `known` keeps it between those that it
keeps in front and behind. -/
theorem known_append_cons {keys : List String} (hkey : key ∈ keys) :
    known keys (before ++ (some key, value) :: behind) =
      known keys before ++ (key, value) :: known keys behind := by
  rw [known_append, known_cons_of_mem hkey]

/-- Without a member that is read as the default of its field the record is the same. The hypothesis
speaks of all fields with the key because nothing here says that keys of fields differ. -/
theorem IsFieldwise.remove (h : IsFieldwise fields decode) (hkey : key ∈ fields.map RecordField.key)
    (hdefault : ∀ f ∈ fields, f.key = key → f.decode value = .ok f.default)
    (hread : decode (.object (before ++ (some key, value) :: behind)) = .ok record) :
    decode (.object (before ++ behind)) = .ok record := by
  obtain ⟨⟨htext, hnodup⟩, hfields⟩ := (h.decode_object_iff _ _).1 hread
  rw [known_append_cons hkey] at hnodup hfields
  refine (h.decode_object_iff _ _).2 ⟨⟨forall_text_append_cons.1 htext, ?_⟩, fun f hf => ?_⟩
  · rw [known_append]
    exact (((List.sublist_cons_self _ _).append_left _).map Prod.fst).nodup hnodup
  · have hreads := hfields f hf
    rw [known_append]
    -- its own field falls to the default, and every other field finds what it found
    by_cases hown : f.key = key
    · -- The field was read from the member, and is at its default now.
      subst hown
      rw [f.reads_iff_decode ((lookup_append_cons hnodup f.key).trans (if_pos rfl)),
        hdefault f hf rfl] at hreads
      exact (f.reads_iff_default (lookup_append_eq_none hnodup)).2 (Except.ok.inj hreads)
    · refine (f.reads_congr ?_).1 hreads
      rw [lookup_append_cons hnodup, if_neg hown]

/-- A member in place of one that is read as the same makes no difference. Values behind the same
key are compared through `decode` alone, so nested objects can be changed with the lemmas about
their own fields. -/
theorem IsFieldwise.replace (h : IsFieldwise fields decode)
    (hkey : key ∈ fields.map RecordField.key) {value' : Json} (hvalue : ∀ f ∈ fields, f.key = key →
      ∀ a, f.decode value = .ok a → f.decode value' = .ok a)
    (hread : decode (.object (before ++ (some key, value) :: behind)) = .ok record) :
    decode (.object (before ++ (some key, value') :: behind)) = .ok record := by
  obtain ⟨⟨htext, hnodup⟩, hfields⟩ := (h.decode_object_iff _ _).1 hread
  rw [known_append_cons hkey] at hnodup hfields
  have hnodup' : ((known (fields.map RecordField.key) before ++
      (key, value') :: known (fields.map RecordField.key) behind).map Prod.fst).Nodup := by
    rwa [List.map_append, List.map_cons] at hnodup ⊢
  refine (h.decode_object_iff _ _).2
    ⟨⟨forall_text_append_cons.2 (forall_text_append_cons.1 htext), ?_⟩, fun f hf => ?_⟩
  · rwa [known_append_cons hkey]
  · have hreads := hfields f hf
    rw [known_append_cons hkey]
    by_cases hown : f.key = key
    · -- Both members are the ones that the field is read from.
      subst hown
      rw [f.reads_iff_decode ((lookup_append_cons hnodup f.key).trans (if_pos rfl))] at hreads
      rw [f.reads_iff_decode ((lookup_append_cons hnodup' f.key).trans (if_pos rfl))]
      exact hvalue f hf rfl _ hreads
    · refine (f.reads_congr ?_).1 hreads
      rw [lookup_append_cons hnodup, lookup_append_cons hnodup', if_neg hown, if_neg hown]

/-- Every member of a field has to be readable, and is what the record has there. So a value of a
field can be looked into. -/
theorem IsFieldwise.decode_of_mem (h : IsFieldwise fields decode) {f : RecordField Record}
    (hf : f ∈ fields) (hmem : (some f.key, value) ∈ members)
    (hread : decode (.object members) = .ok record) : f.decode value = .ok (f.value record) := by
  obtain ⟨hreadable, hfields⟩ := (h.decode_object_iff _ _).1 hread
  have hkey : f.key ∈ fields.map RecordField.key := List.mem_map_of_mem hf
  have hknown : (f.key, value) ∈ known (fields.map RecordField.key) members :=
    List.mem_filterMap.2 ⟨_, hmem, if_pos hkey⟩
  exact (f.reads_iff_decode ((lookup_eq_some_iff_mem hreadable.nodup).2 hknown)).1 (hfields f hf)

/-- A second member of a field is refused, wherever it stands and whatever its value, be it the same
as the first. -/
theorem IsFieldwise.double (h : IsFieldwise fields decode) (hkey : key ∈ fields.map RecordField.key)
    {present : Json} (hmem : (some key, present) ∈ before ++ behind) :
    decode (.object (before ++ (some key, value) :: behind)) ≠ .ok record := by
  intro hread
  have hnodup := ((h.decode_object_iff _ _).1 hread).1.nodup
  -- Put in front of the others, the key stands before itself.
  rw [known_append_cons hkey, List.map_append, List.map_cons, List.nodup_middle, List.nodup_cons,
    ← List.map_append, ← known_append] at hnodup
  refine hnodup.1 (List.mem_map.2 ⟨(key, present), ?_, rfl⟩)
  exact List.mem_filterMap.2 ⟨_, hmem, if_pos hkey⟩

/-! ### Changes of an item -/

section Items

variable {Item : Type} {decodeItem : Json → Except DecodeError Item} {item item' : Json}
  {items more : List Json} {values : List Item}

/-- Items are read one after the other by `asList`, and all have to be readable. -/
theorem asList_cons_iff :
    asList decodeItem (.array (item :: items)) = .ok values ↔
      ∃ a others, decodeItem item = .ok a ∧ asList decodeItem (.array items) = .ok others ∧
        values = a :: others := by
  rw [asList, asList, List.mapM_cons]
  cases hitem : decodeItem item with
  | error e => simp [bind, Except.bind]
  | ok a =>
    cases items.mapM decodeItem with
    | error e => simp [bind, Except.bind]
    | ok others => simp [bind, Except.bind, pure, Except.pure, eq_comm]

/-- Every item of a sequence that `asList` reads has to be readable, wherever it stands among the
others. -/
theorem exists_decode_of_asList
    (h : asList decodeItem (.array (items ++ item :: more)) = .ok values) :
    ∃ a, decodeItem item = .ok a := by
  induction items generalizing values with
  | nil =>
    obtain ⟨a, -, hitem, -⟩ := asList_cons_iff.1 h
    exact ⟨a, hitem⟩
  | cons first rest ih =>
    obtain ⟨-, others, -, hothers, -⟩ := asList_cons_iff.1 h
    exact ih hothers

/-- An item in place of one that is read as the same makes no difference to the sequence
(`asList`). -/
theorem asList_replace (hitem : ∀ a, decodeItem item = .ok a → decodeItem item' = .ok a)
    (h : asList decodeItem (.array (items ++ item :: more)) = .ok values) :
    asList decodeItem (.array (items ++ item' :: more)) = .ok values := by
  induction items generalizing values with
  | nil =>
    obtain ⟨a, others, ha, hothers, rfl⟩ := asList_cons_iff.1 h
    exact asList_cons_iff.2 ⟨a, others, hitem a ha, hothers, rfl⟩
  | cons first rest ih =>
    obtain ⟨a, others, ha, hothers, rfl⟩ := asList_cons_iff.1 h
    exact asList_cons_iff.2 ⟨a, others, ha, ih hothers, rfl⟩

end Items

end WrapperModel.Json
