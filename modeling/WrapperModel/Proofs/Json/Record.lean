import WrapperModel.Json.Record
import WrapperModel.Proofs.Json.Pretty

/-!
# `WrapperModel.Proofs.Json.Record`: records read back

A record that writes its members in the order of its keys is read with those members as its
fields, whichever of the optional ones it leaves out. What is left is one look-up for each
field.

* `fieldsOfRecord_record`: the members of a record are its fields.
* `Lawful`: the values of a kind can be written, and read back; `Lawful.list` carries this
  over to sequences.
* `Lawful.read`, `Lawful.readOptional`: a field that is there, one that may be left out.
-/

set_option autoImplicit false

namespace WrapperModel.Json

/-! ### Members and fields -/

/-- Members with different keys, all of them fields, are all kept by `fieldsOfMembers`, in their
order. With a key twice it would refuse them. -/
theorem fieldsOfMembers_map {keys : List String} {members : List (String × Json)}
    (hkeys : ∀ member ∈ members, member.1 ∈ keys) (hnodup : (members.map Prod.fst).Nodup) :
    fieldsOfMembers keys (members.map fun member => (some member.1, member.2)) = .ok members := by
  induction members with
  | nil => rfl
  | cons member members ih =>
    rw [List.map_cons, List.nodup_cons] at hnodup
    have hrest := ih (fun member hmem => hkeys member (List.mem_cons_of_mem _ hmem)) hnodup.2
    have hkey : keys.contains member.1 = true := by
      simpa using hkeys member List.mem_cons_self
    -- The key does not stand again in the rest, so no member is a second one.
    have hnew : members.any (fun field => field.1 = member.1) = false := by
      rw [List.any_eq_false]
      intro field hfield heq
      exact hnodup.1 (List.mem_map.2 ⟨field, hfield, by simpa using heq⟩)
    simp only [List.map_cons, fieldsOfMembers, hkey, if_true, hrest, hnew]
    rfl

/-- The members of a record, in the order of its keys, are its fields. Some keys may be left out,
which is why the members' keys need only be a sublist of them. -/
theorem fieldsOfObject_record {keys : List String} {members : List (String × Json)}
    (hnodup : keys.Nodup) (hmembers : (members.map Prod.fst).Sublist keys) :
    fieldsOfObject keys (record members) = .ok members := by
  refine fieldsOfMembers_map (fun member hmem => ?_) (hmembers.nodup hnodup)
  exact hmembers.subset (List.mem_map.2 ⟨member, hmem, rfl⟩)

/-- The same where the record might also be written as an array (`fieldsOfRecord`): a record is
always written as an object. -/
theorem fieldsOfRecord_record {keys : List String} {members : List (String × Json)}
    (hnodup : keys.Nodup) (hmembers : (members.map Prod.fst).Sublist keys) :
    fieldsOfRecord keys (record members) = .ok members :=
  fieldsOfObject_record hnodup hmembers

/-- A member that may be left out has at most its own key, before the other members. It is one step
of showing that a record has its keys in order. -/
theorem map_fst_optionalMember_append_sublist {keys rest : List String} (key : String)
    (value : Option Json) (h : rest.Sublist keys) :
    ((optionalMember key value).map Prod.fst ++ rest).Sublist (key :: keys) := by
  cases value with
  | none => exact h.cons key
  | some value => exact h.cons_cons key

/-- A member that may be left out has at most its own key. It ends the chain that
`map_fst_optionalMember_append_sublist` goes along. -/
theorem map_fst_optionalMember_sublist (key : String) (value : Option Json) :
    ((optionalMember key value).map Prod.fst).Sublist [key] := by
  have h := map_fst_optionalMember_append_sublist key value (List.Sublist.refl [])
  rwa [List.append_nil] at h

/-- A member that may be left out is found under its own key and under no other, and not at all
where it is left out. -/
theorem lookup_optionalMember (key wanted : String) (value : Option Json) :
    (optionalMember key value).lookup wanted = if wanted = key then value else none := by
  cases value with
  | none => simp [optionalMember]
  | some value =>
    by_cases h : wanted = key
    · simp [optionalMember, h]
    · have hbeq : (wanted == key) = false := by simpa using h
      simp [optionalMember, List.lookup_cons, h, hbeq]

/-! ### Kinds of values -/

/-- The values of a kind can be written by `encode`, and what is written is read by `decode` as the
value. None of them is written as `null`, which stands for a value that is absent; without this the
optional fields could not be read back. -/
structure Lawful {α : Type} (encode : α → Json) (decode : Json → Except DecodeError α) : Prop where
  writable (a : α) : Writable (encode a)
  ne_null (a : α) : encode a ≠ .null
  decode_encode (a : α) : decode (encode a) = .ok a

/-- Texts are `Lawful`: every text is a string that denotes it. -/
theorem Lawful.text : Lawful Json.text asText where
  writable s := .text s
  ne_null s := by simp [Json.text]
  decode_encode _ := rfl

/-- Truth values are `Lawful`: each is the word that denotes it. -/
theorem Lawful.bool : Lawful Json.bool asBool where
  writable value := .bool value
  ne_null value := by simp
  decode_encode _ := rfl

/-- Texts of one character are `Lawful`, although the reader refuses longer ones. -/
theorem Lawful.char : Lawful (fun c => Json.text (String.singleton c)) asChar where
  writable c := .text (String.singleton c)
  ne_null c := by simp [Json.text]
  decode_encode c := by simp [Json.text, asChar]

/-- Sequences are `Lawful` if their items are, the empty one too. -/
theorem Lawful.list {α : Type} {encode : α → Json} {decode : Json → Except DecodeError α}
    (h : Lawful encode decode) : Lawful (fun items : List α => .array (items.map encode))
      (asList decode) where
  writable items := by
    refine .array fun value hvalue => ?_
    obtain ⟨a, -, rfl⟩ := List.mem_map.1 hvalue
    exact h.writable a
  ne_null items := by simp
  decode_encode items := by
    rw [asList]
    induction items with
    | nil => rfl
    | cons a items ih =>
      rw [List.map_cons, List.mapM_cons, h.decode_encode a, ih]
      rfl

/-! ### Single fields -/

section Fields

variable {α : Type} {encode : α → Json} {decode : Json → Except DecodeError α} {fields : Fields}
  {key : String}

/-- A field that is there is read by `Fields.read` as the value that was written, whatever its
default. -/
theorem Lawful.read (h : Lawful encode decode) {a : α}
    (hlookup : fields.lookup key = some (encode a)) (default : α) :
    fields.read key decode default = .ok a := by
  rw [Fields.read, hlookup]
  exact h.decode_encode a

/-- A field that is left out where it has no value is read: absence is the default `none`, and a
value is no `null`. -/
theorem Lawful.readOptional (h : Lawful encode decode) {a : Option α}
    (hlookup : fields.lookup key = a.map encode) :
    fields.read key (asOptional decode) none = .ok a := by
  rw [Fields.read, hlookup]
  -- without a value the key is missing; with one, the value written is not `null`
  cases a with
  | none => rfl
  | some b =>
    have hread : asOptional decode (encode b) = (decode (encode b)).map some := by
      unfold asOptional
      split
      · rename_i hnull
        exact absurd hnull (h.ne_null b)
      · rfl
    show asOptional decode (encode b) = .ok (some b)
    rw [hread, h.decode_encode b]
    rfl

/-- A text that `textOrNull` writes, as `null` where there is none, is read. Here the field is there
in both cases. -/
theorem read_textOrNull {text : Option String}
    (hlookup : fields.lookup key = some (textOrNull text)) :
    fields.read key (asOptional asText) none = .ok text := by
  rw [Fields.read, hlookup]
  cases text <;> rfl

/-- What a member that may be left out writes can be written, where the values of its kind are
`Lawful`. -/
theorem Lawful.writable_of_mem_map (h : Lawful encode decode) (a : Option α) :
    ∀ value ∈ a.map encode, Writable value := by
  intro value hvalue
  obtain ⟨b, -, rfl⟩ := Option.map_eq_some_iff.1 hvalue
  exact h.writable b

end Fields

/-! ### Records -/

/-- A text can be written, and so can its absence, which is `null`. -/
theorem writable_textOrNull (text : Option String) : Writable (textOrNull text) := by
  cases text with
  | none => exact .null
  | some s => exact .text s

/-- A record can be written if its members can, for its keys are texts and texts can be written. -/
theorem writable_record {members : List (String × Json)}
    (h : ∀ member ∈ members, Writable member.2) : Writable (record members) := by
  refine .object ?_ ?_
  · intro member hmem
    obtain ⟨⟨key, value⟩, -, rfl⟩ := List.mem_map.1 hmem
    exact ⟨key, rfl⟩
  · intro member hmem
    obtain ⟨member', hmem', rfl⟩ := List.mem_map.1 hmem
    exact h member' hmem'

/-- What holds of a member that may be left out is what holds of it with its value. It takes a
statement on all members apart. -/
theorem forall_mem_optionalMember {key : String} {value : Option Json}
    {P : String × Json → Prop} :
    (∀ member ∈ optionalMember key value, P member) ↔ ∀ v ∈ value, P (key, v) := by
  cases value <;> simp [optionalMember]

end WrapperModel.Json
