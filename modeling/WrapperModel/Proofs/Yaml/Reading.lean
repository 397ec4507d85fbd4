import WrapperModel.Proofs.Yaml.Document
import WrapperModel.Yaml.Decode

/-!
# `WrapperModel.Proofs.Yaml.Reading`: what is read from the tree of a record

`Gives` says that a reading has a value in every document and looks up no copy. It goes along
with the binds of a reading, so a record is read by one fact for each of its fields. `ComesTo`
says the same of a reading that may refuse, with the reason for which it does.

* `gives_text`, `gives_optionalText`, `gives_texts`: the values of fields.
* `gives_splitFields`: the trees of the fields, by key, and those of the other entries.
* `gives_field`: one field.
-/

set_option autoImplicit false

namespace WrapperModel.Yaml

namespace Reading

/-- In every document the reading gives the value, without looking up a copy. So it does not matter
in which document a record stands, nor how many copies may still be looked up. `ComesTo` says the
same of a reading that may refuse. -/
def Gives {α : Type} (reading : Reading α) (value : α) : Prop :=
  ∀ document left, reading document left = .ok (value, left)

section Gives

variable {α β : Type}

/-- A value is given as it is. It ends a chain of `Gives.bind`. -/
theorem Gives.pure (value : α) : Gives (pure value) value :=
  fun _ _ => rfl

/-- One reading after the other. It takes a record apart into its fields, in the order in which they
are read. -/
theorem Gives.bind {reading : Reading α} {next : α → Reading β} {a : α} {b : β}
    (h : Gives reading a) (h' : Gives (next a) b) : Gives (reading >>= next) b := by
  intro document left
  show (reading document left).bind (fun result => next result.1 document result.2) = _
  rw [h document left]
  exact h' document left

/-- Where every value is read back from what stands for it, so is a list of them. The tree `g a` is
that of the value `a`. -/
theorem Gives.mapM {f : β → Reading α} {g : α → β} (h : ∀ a, Gives (f (g a)) a) (xs : List α) :
    Gives ((xs.map g).mapM f) xs := by
  induction xs with
  | nil => exact .pure []
  | cons x xs ih =>
    rw [List.map_cons, List.mapM_cons]
    exact (h x).bind (ih.bind (.pure _))

end Gives

/-! ### Readings that may refuse -/

/-- In every document the reading gives the value or refuses for the reason, without looking up a
copy. Unlike `Gives` it can say of a reading that it fails. -/
def ComesTo {α : Type} (reading : Reading α) (outcome : Except ReadError α) : Prop :=
  ∀ document left, reading document left = outcome.map fun value => (value, left)

section ComesTo

variable {α β : Type}

/-- What gives a value comes to it. So what is proved with `Gives` can be used where a later field
may refuse. -/
theorem Gives.comesTo {reading : Reading α} {a : α} (h : Gives reading a) :
    ComesTo reading (.ok a) :=
  h

/-- One reading after another that `Gives` its value. Only the last reading of such a chain may
refuse, so its outcome is that of the chain. -/
theorem Gives.bind_comesTo {reading : Reading α} {next : α → Reading β} {a : α}
    {outcome : Except ReadError β} (h : Gives reading a) (h' : ComesTo (next a) outcome) :
    ComesTo (reading >>= next) outcome := by
  intro document left
  show (reading document left).bind (fun result => next result.1 document result.2) = _
  rw [h document left]
  exact h' document left

/-- What is made of the value of a reading that may refuse (`ComesTo`). A refusal stays what it
was. -/
theorem ComesTo.map {reading : Reading α} {outcome : Except ReadError α}
    (h : ComesTo reading outcome) (f : α → β) :
    ComesTo (reading >>= fun a => pure (f a)) (outcome.map f) := by
  intro document left
  show (reading document left).bind (fun result => .ok (f result.1, result.2)) = _
  rw [h document left]
  cases outcome <;> rfl

/-- Behind a reading that refuses nothing is read, whatever `next` would be. -/
theorem ComesTo.bind_error {reading : Reading α} {reason : ReadError}
    (h : ComesTo reading (.error reason)) (next : α → Reading β) :
    ComesTo (reading >>= next) (.error reason) := by
  intro document left
  show (reading document left).bind (fun result => next result.1 document result.2) = _
  rw [h document left]
  rfl

end ComesTo

/-! ### Scalars -/

/-- A text is read as it is written, in whichever form: `text` looks neither at tags nor at
quotes. -/
theorem gives_text (s : String) : Gives (text (textTree s)) s := by
  intro document left
  show Except.ok (String.ofList s.toList, left) = _
  rw [String.ofList_toList]

/-- A key is read as it is written, like every plain scalar: `text` does not look at what a scalar
could stand for. -/
theorem gives_key (key : String) : Gives (text (.scalar none true key.toList)) key := by
  intro document left
  show Except.ok (String.ofList key.toList, left) = _
  rw [String.ofList_toList]

/-- `optionalText` takes no text for nothing: a text that is written plainly is no word for nothing
(`styleOf`), and between quotes no text is. -/
theorem gives_optionalText (s : String) : Gives (optionalText (textTree s)) (some s) := by
  intro document left
  unfold textTree
  -- Only a plain text could be taken for nothing, and `styleOf` quotes the words for it.
  cases hstyle : styleOf s.toList with
  | plain =>
    have htext := (plainAllowed_of_styleOf hstyle).2
    have hnull : (s.toList.isEmpty || isNullWord s.toList) = false := by
      refine Bool.eq_false_iff.2 fun hword => ?_
      rw [resolve, if_pos hword] at htext
      exact Resolved.noConfusion htext
    have hread : optionalText (.scalar none true s.toList) document left =
        .ok (if s.toList.isEmpty || isNullWord s.toList then none
          else some (String.ofList s.toList), left) := rfl
    simp only [decide_true, hread, hnull, Bool.false_eq_true, if_false, String.ofList_toList]
  | singleQuoted | doubleQuoted | literal =>
    show Except.ok (some (String.ofList s.toList), left) = _
    rw [String.ofList_toList]

/-- The word for nothing stands for nothing. It is what a record has in the place of a text that is
missing. -/
theorem gives_optionalText_null :
    Gives (optionalText (.scalar none true "null".toList)) none :=
  fun _ _ => rfl

/-! ### Collections -/

/-- `texts` reads texts from their sequence, which may be as deep as collections may (`depth`). -/
theorem gives_texts (depth : Nat) (items : List String) :
    Gives (texts (depth + 1) (.sequence none (items.map textTree))) items := by
  have hitems : Gives (Reading.items (depth + 1) (.sequence none (items.map textTree)))
      (items.map textTree, depth) := fun _ _ => rfl
  exact hitems.bind (.mapM gives_text items)

/-- `entries` gives the entries of a mapping, with the depth that is left for them. -/
theorem gives_entries (depth : Nat) (entries : List (Tree × Tree)) :
    Gives (Reading.entries (depth + 1) (.mapping none entries)) (entries, depth) :=
  fun _ _ => rfl

/-! ### Fields -/

end Reading

/-- The key with the tree of its value, as `splitFields` has the fields. -/
def Part.field (part : Part) : String × Tree :=
  (part.key, part.tree)

namespace Reading

/-- A part whose key is none of some others is not among their fields. So `splitFields` does not
refuse it for coming twice. -/
theorem any_field_eq_false {key : String} {parts : List Part} (h : key ∉ parts.map Part.key) :
    ((parts.map Part.field).any fun field => field.1 = key) = false := by
  rw [List.any_eq_false]
  intro field hfield heq
  obtain ⟨part, hpart, rfl⟩ := List.mem_map.1 hfield
  exact h (List.mem_map.2 ⟨part, hpart, of_decide_eq_true heq⟩)

/-- `splitFields` parts entries with different keys into the fields with the wanted keys and the
others. With a key that comes twice it would refuse the record, so `hnodup` is needed. -/
theorem gives_splitFields (keys : List String) {parts : List Part}
    (hnodup : (parts.map Part.key).Nodup) :
    Gives (splitFields keys (parts.map Part.entry))
      ((parts.filter fun part => keys.contains part.key).map Part.field,
        (parts.filter fun part => !keys.contains part.key).map Part.field) := by
  induction parts with
  | nil => exact .pure _
  | cons part parts ih =>
    rw [List.map_cons, List.nodup_cons] at hnodup
    -- The key is read, and is none of the fields that follow.
    have hnew : part.key ∉ (parts.filter fun part => keys.contains part.key).map Part.key := by
      intro hmem
      exact hnodup.1 ((List.filter_sublist.map Part.key).subset hmem)
    rw [List.map_cons, Part.entry, splitFields]
    refine (gives_key part.key).bind ((ih hnodup.2).bind ?_)
    cases hmem : keys.contains part.key with
    | true =>
      simp only [List.filter_cons, hmem, Bool.not_true, any_field_eq_false hnew, if_true,
        Bool.false_eq_true, if_false]
      exact .pure _
    | false =>
      simp only [List.filter_cons, hmem, Bool.not_false, if_true, Bool.false_eq_true, if_false]
      exact .pure _

/-- `splitFields` takes entries with different keys of a record for its fields, and leaves none
over. -/
theorem gives_splitFields_of_mem {keys : List String} {parts : List Part}
    (hkeys : ∀ part ∈ parts, part.key ∈ keys) (hnodup : (parts.map Part.key).Nodup) :
    Gives (splitFields keys (parts.map Part.entry)) (parts.map Part.field, []) := by
  have hall : ∀ part ∈ parts, keys.contains part.key = true := fun part hpart =>
    List.contains_iff_mem.2 (hkeys part hpart)
  have hfields : (parts.filter fun part => keys.contains part.key) = parts :=
    List.filter_eq_self.2 hall
  -- All keys are wanted, so nothing is left over.
  have hothers : (parts.filter fun part => !keys.contains part.key) = [] :=
    List.filter_eq_nil_iff.2 fun part hpart => by rw [hall part hpart]; decide
  have hsplit := gives_splitFields keys hnodup
  rw [hfields, hothers] at hsplit
  exact hsplit

/-- One field is read by its key, wherever it stands among the fields (`hlookup`). The default is
not asked for. -/
theorem gives_field {α β : Type} {fields : List (String × β)} {key : String} {tree : β}
    {decode : β → Reading α} {value : α} (hlookup : fields.lookup key = some tree)
    (h : Gives (decode tree) value) (default : α) :
    Gives (field fields key decode default) value := by
  rw [field, hlookup]
  exact h

/-- A `field` that is not given is at its default, and nothing is decoded. -/
theorem gives_field_default {α β : Type} {fields : List (String × β)} {key : String}
    (hlookup : fields.lookup key = none) (decode : β → Reading α) (default : α) :
    Gives (field fields key decode default) default := by
  rw [field, hlookup]
  exact .pure default

end Reading

end WrapperModel.Yaml
