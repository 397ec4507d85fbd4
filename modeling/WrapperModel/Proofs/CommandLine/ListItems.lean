import WrapperModel.CommandLine.Generation
import WrapperModel.Proofs.Text.Pieces

/-!
# `WrapperModel.Proofs.CommandLine.ListItems`: lists between commas

The documents that a generation skips are given as one text, with commas between their names.
White space around a name counts for nothing, and neither do entries that hold nothing else.

`Spells` says that a text spells a list: its entries between commas are the items in order, each
with white space around it or none, and any number of blank entries stands among them.
`IsListItem` says what a text must be so that it can be an item: it holds something, but no comma,
and no white space at its ends.

* `listItems_of_spells`: a text that spells a list of such items is read as that list.
* `spells_listItems`, `isListItem_of_mem_listItems`: every text spells the list as which it is
  read, and that list holds such items alone.
* `listItems_eq_iff`: so a text is read as the one list of such items that it spells.
* `givenItems_reads_back`: the same of a list on the command line, which may be missing, and of a
  list that was read and is given again.
-/

set_option autoImplicit false

namespace WrapperModel.CommandLine

open WrapperModel.Text

/-! ### Entries and items -/

/-- The text can be an item of a list: it holds something, but no comma, and no white space at its
ends. -/
structure IsListItem (text : String) : Prop where
  nonempty : text ≠ ""
  no_comma : ',' ∉ text.toList
  ends : EndsKept isBlank text.toList

/-- The entry is the item with white space around it, or with none. The item itself may have white
space at its ends; `IsListItem` is what excludes it. -/
def Shows (item entry : String) : Prop :=
  ∃ before behind, isBlankText before = true ∧ isBlankText behind = true ∧
    entry = before ++ item ++ behind

/-- The entries show the items in order, with blank entries anywhere among them: two commas side by
side, or one at an end. -/
inductive ShowsAll : List String → List String → Prop
  | nil : ShowsAll [] []
  | blank {items entries : List String} {entry : String} (hblank : isBlankText entry = true)
    (hrest : ShowsAll items entries) : ShowsAll items (entry :: entries)
  | item {items entries : List String} {item entry : String} (hshows : Shows item entry)
    (hrest : ShowsAll items entries) : ShowsAll (item :: items) (entry :: entries)

/-- The text spells the list: between commas stand entries that show its items (`ShowsAll`). One
list has many spellings. -/
def Spells (items : List String) (text : String) : Prop :=
  ∃ entries, ShowsAll items entries ∧ text = joinWith "," entries

/-- A text shows itself, with nothing around it. -/
theorem shows_self (item : String) : Shows item item :=
  ⟨"", "", rfl, rfl, by simp⟩

/-- A blank text holds white space alone, and no comma in particular. -/
theorem not_mem_of_isBlankText {text : String} {c : Char} (h : isBlankText text = true)
    (hc : isBlank c = false) : c ∉ text.toList := by
  intro hmem
  exact Bool.false_ne_true (hc.symm.trans (List.all_eq_true.1 h c hmem))

/-- A character that is no white space stands in an entry exactly if it stands in the item, for
instance a comma. -/
theorem Shows.mem_iff {item entry : String} {c : Char} (h : Shows item entry)
    (hc : isBlank c = false) : c ∈ entry.toList ↔ c ∈ item.toList := by
  obtain ⟨before, behind, hbefore, hbehind, rfl⟩ := h
  simp [not_mem_of_isBlankText hbefore hc, not_mem_of_isBlankText hbehind hc]

/-- Trimmed, an entry is the item that it `Shows` without white space at its ends. -/
theorem trim_eq_iff {entry item : String} :
    trim entry = item ↔ EndsKept isBlank item.toList ∧ Shows item entry := by
  rw [trim, trimWhere, ← String.toList_inj, String.toList_ofList, strip_eq_iff]
  refine and_congr_right fun _ => ?_
  -- Both sides cut the text in three; only the kind of text differs, characters or strings.
  constructor
  · rintro ⟨before, behind, hbefore, hbehind, hentry⟩
    refine ⟨String.ofList before, String.ofList behind, ?_, ?_, ?_⟩
    · simpa [isBlankText] using hbefore
    · simpa [isBlankText] using hbehind
    · rw [← String.toList_inj, hentry]
      simp
  · rintro ⟨before, behind, hbefore, hbehind, rfl⟩
    refine ⟨before.toList, behind.toList, ?_, ?_, by simp⟩
    · simpa [isBlankText] using hbefore
    · simpa [isBlankText] using hbehind

/-- Nothing is left of an entry exactly if it is blank (`isBlankText`). -/
theorem trim_eq_empty_iff {entry : String} : trim entry = "" ↔ isBlankText entry = true := by
  rw [trim, trimWhere, ← String.toList_inj, String.toList_ofList, isBlankText, List.all_eq_true]
  exact strip_eq_nil_iff

/-! ### Trimmed entries -/

/-- The items that entries show are what is left of them, where anything is. It is the converse of
`ShowsAll.trimmed`. -/
theorem showsAll_trimmed (entries : List String) :
    ShowsAll ((entries.map trim).filter (· ≠ "")) entries := by
  induction entries with
  | nil => exact .nil
  | cons entry entries ih =>
    rw [List.map_cons]
    -- An entry that is blank shows nothing and is dropped, any other one shows its item.
    by_cases hempty : trim entry = ""
    · rw [List.filter_cons_of_neg (by simpa using hempty)]
      exact .blank (trim_eq_empty_iff.1 hempty) ih
    · rw [List.filter_cons_of_pos (by simpa using hempty)]
      exact .item (trim_eq_iff.1 rfl).2 ih

/-- Items that hold something, with no white space at their ends, are what is left of the entries
that show them. -/
theorem ShowsAll.trimmed {items entries : List String} (h : ShowsAll items entries)
    (hitems : ∀ item ∈ items, item ≠ "" ∧ EndsKept isBlank item.toList) :
    (entries.map trim).filter (· ≠ "") = items := by
  -- By the entries: a blank one is dropped once it is trimmed, and no other is, since its item
  -- holds something.
  -- on how the entries show the items; a blank entry leaves nothing, any other its item
  induction h with
  | nil => rfl
  | blank hblank hrest ih =>
    rw [List.map_cons, trim_eq_empty_iff.2 hblank, List.filter_cons_of_neg (by simp), ih hitems]
  | item hshows hrest ih =>
    obtain ⟨⟨hne, hends⟩, hitems⟩ := List.forall_mem_cons.1 hitems
    rw [List.map_cons, trim_eq_iff.2 ⟨hends, hshows⟩, List.filter_cons_of_pos (by simpa using hne),
      ih hitems]

/-- What is no white space stands in none of the entries if it stands in none of the items. It is
used for the comma, so that the entries can be told apart. -/
theorem ShowsAll.not_mem {items entries : List String} {c : Char} (h : ShowsAll items entries)
    (hc : isBlank c = false) (hitems : ∀ item ∈ items, c ∉ item.toList) :
    ∀ entry ∈ entries, c ∉ entry.toList := by
  induction h with
  | nil => simp
  | blank hblank hrest ih =>
    exact List.forall_mem_cons.2 ⟨not_mem_of_isBlankText hblank hc, ih hitems⟩
  | item hshows hrest ih =>
    obtain ⟨hitem, hitems⟩ := List.forall_mem_cons.1 hitems
    exact List.forall_mem_cons.2 ⟨fun hmem => hitem ((hshows.mem_iff hc).1 hmem), ih hitems⟩

/-- Items show themselves, without blank entries. -/
theorem showsAll_self (items : List String) : ShowsAll items items := by
  induction items with
  | nil => exact .nil
  | cons item items ih => exact .item (shows_self item) ih

/-! ### Reading a text -/

/-- A text that spells a list of items is read by `listItems` as that list, however it spells it. -/
theorem listItems_of_spells {items : List String} {text : String}
    (hitems : ∀ item ∈ items, IsListItem item) (h : Spells items text) :
    listItems text = items := by
  obtain ⟨entries, hshown, rfl⟩ := h
  have hkept : ∀ item ∈ items, item ≠ "" ∧ EndsKept isBlank item.toList :=
    fun item hitem => ⟨(hitems item hitem).nonempty, (hitems item hitem).ends⟩
  by_cases hne : entries = []
  · -- The empty text is cut into one blank entry, where no entries were joined.
    subst hne
    cases hshown
    rfl
  · have hfree : ∀ entry ∈ entries, ',' ∉ entry.toList :=
      hshown.not_mem (by decide) fun item hitem => (hitems item hitem).no_comma
    rw [listItems, split_joinWith rfl hne hfree, hshown.trimmed hkept]

/-- Every text spells the list as which it is read, so there is no text that `listItems`
misreads. -/
theorem spells_listItems (text : String) : Spells (listItems text) text :=
  ⟨split ',' text, showsAll_trimmed _, (joinWith_split rfl text).symm⟩

/-- A list that was read holds items alone (`IsListItem`). -/
theorem isListItem_of_mem_listItems {text item : String} (h : item ∈ listItems text) :
    IsListItem item := by
  obtain ⟨hmem, hne⟩ := List.mem_filter.1 h
  obtain ⟨entry, hentry, htrim⟩ := List.mem_map.1 hmem
  obtain ⟨hends, hshows⟩ := trim_eq_iff.1 htrim
  -- A comma is no white space, so one in the item would stand in its entry, which was cut there.
  have hcomma : ',' ∉ item.toList := by
    rw [← hshows.mem_iff (by decide)]
    exact not_mem_of_mem_split hentry
  exact ⟨by simpa using hne, hcomma, hends⟩

/-- A text is read as a list exactly if it `Spells` that list and the list holds items alone. -/
theorem listItems_eq_iff {text : String} {items : List String} :
    listItems text = items ↔ (∀ item ∈ items, IsListItem item) ∧ Spells items text := by
  constructor
  · rintro rfl
    exact ⟨fun _ => isListItem_of_mem_listItems, spells_listItems text⟩
  · rintro ⟨hitems, h⟩
    exact listItems_of_spells hitems h

example :
    listItems " docker_cp, ,docker_container_cp ," = ["docker_cp", "docker_container_cp"] := by
  decide

/-! ### The list on the command line -/

/-- The items of the text that is given, and none where none is given. `GenerateOptions.over` keeps
the items of the configuration then. -/
def givenItems (given : Option String) : List String :=
  given.elim [] listItems

/-- What is given holds items alone (`IsListItem`). -/
theorem isListItem_of_mem_givenItems {given : Option String} {item : String}
    (h : item ∈ givenItems given) : IsListItem item := by
  cases given with
  | none => cases h
  | some text => exact isListItem_of_mem_listItems h

/-- A list that is given is read exactly: `givenItems` reads a text as the items that it `Spells`,
however it does, and as no other list. What is read are items (`IsListItem`), which are read again
from their own text between commas. A generation takes these items where a list is given, and those
of the configuration else. -/
theorem givenItems_reads_back :
    (∀ (text : String) (items : List String), givenItems (some text) = items ↔
      (∀ item ∈ items, IsListItem item) ∧ Spells items text) ∧
    (∀ given : Option String, (∀ item ∈ givenItems given, IsListItem item) ∧
      givenItems (some (joinWith "," (givenItems given))) = givenItems given) ∧
    ∀ (options : GenerateOptions) (configuration : Configuration),
      (options.over configuration).source.skip =
        if options.skip.isSome then givenItems options.skip else configuration.source.skip := by
  refine ⟨fun text items => listItems_eq_iff, fun given => ?_, fun options configuration => ?_⟩
  · have hitems : ∀ item ∈ givenItems given, IsListItem item :=
      fun _ => isListItem_of_mem_givenItems
    exact ⟨hitems, listItems_of_spells hitems ⟨givenItems given, showsAll_self _, rfl⟩⟩
  · unfold GenerateOptions.over
    cases options.skip <;> rfl

end WrapperModel.CommandLine
