import WrapperModel.Proofs.Enumeration.Mining
import WrapperModel.Proofs.Text.Pieces

/-!
# `WrapperModel.Proofs.Enumeration.LiteralLists`: the literal lists of a description

`listText` writes a list of literals: each in quotes, bars between them and parentheses around.
`OccursBehind` says where such a list stands in a description, and `BeginsFirst` that none
stands further to the left. What `mine` finds is said in these terms alone.

* `unquote?_eq_some_iff`, `literalList?_eq_some_iff`: the readers accept what is written so and
  nothing else.
* `first_or_none`: the search stops at the first list that can be read.
* `exists_beginsFirst_or_none`: the same of lists that are written in a description.
* `mine_iff_beginsFirst`: `mine` gives the literals of the list that begins first, each at its
  first place, and nothing where there is none.
-/

set_option autoImplicit false

namespace WrapperModel.Enumeration

open WrapperModel.Text

/-! ### Written lists -/

/-- Two literals or more, none of them empty, made of literal characters alone (`isLiteralChar`).
One literal by itself is no list of choices. -/
structure IsLiteralList (literals : List String) : Prop where
  two_le : 2 ≤ literals.length
  ne_empty : ∀ literal ∈ literals, literal ≠ ""
  chars : ∀ literal ∈ literals, ∀ c ∈ literal.toList, isLiteralChar c = true

/-- A literal in quotes, as it stands in a list. No escapes are needed, since a quote is no literal
character. -/
def quoted (literal : String) : String :=
  "\"" ++ literal ++ "\""

/-- Literals in quotes with bars between them and parentheses around: how a description writes a
list. `literalList?` reads what stands behind the first parenthesis. -/
def listText (literals : List String) : String :=
  "(" ++ joinWith "|" (literals.map quoted) ++ ")"

/-- The description has the list of the literals behind `before`. A list may occur within a text
that goes on, and several may occur. -/
def OccursBehind (description before : String) (literals : List String) : Prop :=
  IsLiteralList literals ∧ ∃ behind, description = before ++ listText literals ++ behind

/-- The list of the literals stands behind `before`, and no list begins further to the left. It says
which of several lists is meant, without a reader. -/
def BeginsFirst (description before : String) (literals : List String) : Prop :=
  OccursBehind description before literals ∧
    ∀ earlier others, OccursBehind description earlier others → before.length ≤ earlier.length

/-- The marks that a list is written with belong to no literal, so they cannot be mistaken for parts
of one. -/
theorem isLiteralChar_marks :
    isLiteralChar '(' = false ∧ isLiteralChar '"' = false ∧ isLiteralChar '|' = false ∧
      isLiteralChar ')' = false := by
  decide +kernel

/-- No mark but the quotes stands in a quoted literal, so a bar or a parenthesis ends it. -/
theorem IsLiteralList.notMem_quoted {literals : List String} (h : IsLiteralList literals)
    {literal : String} (hliteral : literal ∈ literals) {mark : Char}
    (hmark : isLiteralChar mark = false) (hquote : mark ≠ '"') :
    mark ∉ (quoted literal).toList := by
  intro hmem
  have hinner : mark ∈ literal.toList := by simpa [quoted, hquote] using hmem
  exact Bool.false_ne_true (hmark.symm.trans (h.chars literal hliteral mark hinner))

/-- Between its parentheses a list is joined by bars, and `behind` follows. -/
theorem toList_listText_append (literals : List String) (behind : List Char) :
    (listText literals).toList ++ behind =
      '(' :: ((joinWith "|" (literals.map quoted)).toList ++ ')' :: behind) := by
  simp [listText]

/-- The joined literals, character by character, in the form (`List.intercalate`) that the library
cuts again at the bars. -/
theorem toList_joinWith_quoted (literals : List String) :
    (joinWith "|" (literals.map quoted)).toList =
      ['|'].intercalate (literals.map fun literal => (quoted literal).toList) := by
  simp [toList_joinWith, Function.comp_def]

/-! ### Reading a list -/

/-- A text is read by `unquote?` as a literal exactly when it is that literal in quotes
(`quoted`). -/
theorem unquote?_eq_some_iff {cs : List Char} {literal : String} :
    unquote? cs = some literal.toList ↔
      cs = (quoted literal).toList ∧ literal ≠ "" ∧
        ∀ c ∈ literal.toList, isLiteralChar c = true := by
  constructor
  · intro h
    unfold unquote? at h
    split at h
    · rename_i rest
      simp only [Option.ite_none_right_eq_some, Bool.and_eq_true, decide_eq_true_eq,
        Bool.not_eq_true', List.isEmpty_eq_false_iff, List.all_eq_true] at h
      obtain ⟨⟨⟨hquote, hne⟩, hchars⟩, hliteral⟩ := h
      rw [Option.some.injEq] at hliteral
      obtain ⟨inner, rfl⟩ := List.getLast?_eq_some_iff.1 hquote
      rw [List.dropLast_concat] at hne hchars hliteral
      subst hliteral
      exact ⟨by simp [quoted], by simpa using hne, hchars⟩
    · simp at h
  · rintro ⟨rfl, hne, hchars⟩
    have hquoted : (quoted literal).toList = '"' :: (literal.toList ++ ['"']) := by simp [quoted]
    have hne' : literal.toList ≠ [] := mt String.toList_eq_nil_iff.1 hne
    simp only [hquoted, unquote?, List.dropLast_concat, List.getLast?_concat]
    rw [if_pos]
    simpa [hne'] using hchars

/-- Texts are read as literals one by one exactly when they are these literals in quotes. The first
that is none refuses them all. -/
theorem mapM_unquote?_eq_some_iff {items : List (List Char)} {literals : List String} :
    items.mapM unquote? = some (literals.map String.toList) ↔
      items = literals.map (fun literal => (quoted literal).toList) ∧
        ∀ literal ∈ literals, literal ≠ "" ∧ ∀ c ∈ literal.toList, isLiteralChar c = true := by
  induction items generalizing literals with
  | nil => cases literals <;> simp
  | cons item items ih =>
    -- The first item is a quoted literal and the others are read by the hypothesis.
    rw [List.mapM_cons]
    constructor
    · intro h
      obtain ⟨read, hread, h⟩ := Option.bind_eq_some_iff.1 h
      obtain ⟨others, hothers, h⟩ := Option.bind_eq_some_iff.1 h
      cases literals with
      | nil => simp at h
      | cons literal literals =>
        obtain ⟨rfl, rfl⟩ : read = literal.toList ∧ others = literals.map String.toList := by
          simpa using h
        obtain ⟨rfl, hliteral⟩ := unquote?_eq_some_iff.1 hread
        obtain ⟨rfl, hliterals⟩ := ih.1 hothers
        exact ⟨rfl, List.forall_mem_cons.2 ⟨hliteral, hliterals⟩⟩
    · rintro ⟨hitems, hall⟩
      cases literals with
      | nil => simp at hitems
      | cons literal literals =>
        obtain ⟨hliteral, hliterals⟩ := List.forall_mem_cons.1 hall
        rw [List.map_cons, List.cons.injEq] at hitems
        rw [unquote?_eq_some_iff.2 ⟨hitems.1, hliteral⟩, ih.2 ⟨hitems.2, hliterals⟩]
        rfl

/-- What stands in front of the first closing parenthesis is taken from the text, which is how
`literalList?` finds the end of a list. -/
theorem takeWhile_body {body : List Char} (behind : List Char) (h : ')' ∉ body) :
    (body ++ ')' :: behind).takeWhile (· ≠ ')') = body := by
  rw [List.takeWhile_append_of_pos, List.takeWhile_cons_of_neg (by simp), List.append_nil]
  intro c hc
  simpa using fun heq : c = ')' => h (heq ▸ hc)

/-- Where less than the whole text is taken, a closing parenthesis follows what was taken. -/
theorem exists_eq_body {cs : List Char}
    (h : (cs.takeWhile (· ≠ ')')).length < cs.length) :
    ∃ behind, cs = cs.takeWhile (· ≠ ')') ++ ')' :: behind := by
  have hsplit := List.takeWhile_append_dropWhile (p := (· ≠ ')')) (l := cs)
  cases hrest : cs.dropWhile (· ≠ ')') with
  -- Without a closing bracket the part in front of it would be the whole text.
  | nil =>
    rw [hrest, List.append_nil] at hsplit
    rw [hsplit] at h
    exact absurd h (Nat.lt_irrefl _)
  | cons c behind =>
    have hc := List.head?_dropWhile_not (· ≠ ')') cs
    rw [hrest] at hsplit hc
    obtain rfl : c = ')' := by simpa using hc
    exact ⟨behind, hsplit.symm⟩

/-- A list is read by `literalList?` behind an opening parenthesis exactly when it is written there.
Both the printer `listText` and the reader are gone through here, and nowhere below. -/
theorem literalList?_eq_some_iff {cs : List Char} {literals : List String} :
    literalList? cs = some (literals.map String.toList) ↔
      IsLiteralList literals ∧
        ∃ behind : List Char, '(' :: cs = (listText literals).toList ++ behind := by
  simp only [literalList?, Option.ite_none_right_eq_some, Bool.and_eq_true, decide_eq_true_eq,
    mapM_unquote?_eq_some_iff, toList_listText_append, List.cons.injEq, true_and]
  constructor
  · rintro ⟨⟨hlength, htwo⟩, hitems, hall⟩
    obtain ⟨behind, hcs⟩ := exists_eq_body hlength
    refine ⟨⟨?_, fun literal h => (hall literal h).1, fun literal h => (hall literal h).2⟩,
      behind, ?_⟩
    · rw [hitems, List.length_map] at htwo
      exact htwo
    · rw [toList_joinWith_quoted, ← hitems, List.intercalate_splitOn]
      exact hcs
  · rintro ⟨hlist, behind, rfl⟩
    obtain ⟨-, -, hbar, hclosing⟩ := isLiteralChar_marks
    -- No literal holds a bar or a bracket, so the list ends where it was written to end.
    have hbody : ')' ∉ (joinWith "|" (literals.map quoted)).toList := by
      intro hmem
      rcases mem_joinWith hmem with hsep | ⟨text, htext, hmem⟩
      · exact absurd hsep (by decide)
      · obtain ⟨literal, hliteral, rfl⟩ := List.mem_map.1 htext
        exact hlist.notMem_quoted hliteral hclosing (by decide) hmem
    have hsome : literals.map quoted ≠ [] := by
      intro hnil
      have := hlist.two_le
      rw [List.map_eq_nil_iff.1 hnil, List.length_nil] at this
      omega
    have hpieces : (joinWith "|" (literals.map quoted)).toList.splitOn '|' =
        literals.map fun literal => (quoted literal).toList := by
      rw [splitOn_joinWith rfl hsome, List.map_map]
      · rfl
      · intro text htext
        obtain ⟨literal, hliteral, rfl⟩ := List.mem_map.1 htext
        exact hlist.notMem_quoted hliteral hbar (by decide)
    rw [takeWhile_body behind hbody, hpieces]
    refine ⟨⟨by simp, by simpa using hlist.two_le⟩, rfl, fun literal h => ?_⟩
    exact ⟨hlist.ne_empty literal h, hlist.chars literal h⟩

/-! ### The list that begins first -/

/-- The search of `firstLiteralList?` stops at the first opening parenthesis behind which a list can
be read, or there is none. -/
theorem first_or_none (cs : List Char) :
    (∃ before rest literals, cs = before ++ '(' :: rest ∧
      literalList? rest = some literals ∧ firstLiteralList? cs = some literals ∧
      ∀ earlier later, cs = earlier ++ '(' :: later → earlier.length < before.length →
        literalList? later = none) ∨
    (firstLiteralList? cs = none ∧
      ∀ before rest, cs = before ++ '(' :: rest → literalList? rest = none) := by
  -- along the description, as the search goes
  induction cs with
  | nil => exact .inr ⟨rfl, by simp⟩
  | cons c rest ih =>
    rw [firstLiteralList?]
    cases hhere : (if c = '(' then literalList? rest else none) with
    | some literals =>
      rw [Option.ite_none_right_eq_some] at hhere
      obtain ⟨rfl, hread⟩ := hhere
      exact .inl ⟨[], rest, literals, rfl, hread, rfl, by simp⟩
    | none =>
      -- Nothing is read here, so every place is one further than in the rest.
      have hnot : ∀ later, c :: rest = '(' :: later → literalList? later = none := by
        rintro later ⟨⟩
        simpa using hhere
      rcases ih with ⟨before, later, literals, rfl, hread, hfirst, hnone⟩ | ⟨hfirst, hnone⟩
      · refine .inl ⟨c :: before, later, literals, rfl, hread, hfirst, ?_⟩
        intro earlier others heq hlt
        cases earlier with
        | nil => exact hnot others heq
        | cons d earlier =>
          rw [List.cons_append, List.cons.injEq] at heq
          exact hnone earlier others heq.2 (Nat.lt_of_succ_lt_succ hlt)
      · refine .inr ⟨hfirst, ?_⟩
        intro before others heq
        cases before with
        | nil => exact hnot others heq
        | cons d before =>
          rw [List.cons_append, List.cons.injEq] at heq
          exact hnone before others heq.2

/-- A list stands behind `before` exactly when it can be read behind a parenthesis there by
`literalList?`. -/
theorem occursBehind_iff {description before : String} {literals : List String} :
    OccursBehind description before literals ↔
      ∃ rest, description.toList = before.toList ++ '(' :: rest ∧
        literalList? rest = some (literals.map String.toList) := by
  -- A list that stands there is one that is read there, whatever comes behind it.
  constructor
  · rintro ⟨hlist, behind, rfl⟩
    have htext := toList_listText_append literals behind.toList
    refine ⟨_, ?_, literalList?_eq_some_iff.2 ⟨hlist, behind.toList, htext.symm⟩⟩
    rw [String.toList_append, String.toList_append, List.append_assoc, htext]
  · rintro ⟨rest, hsplit, hread⟩
    obtain ⟨hlist, behind, hbehind⟩ := literalList?_eq_some_iff.1 hread
    refine ⟨hlist, String.ofList behind, ?_⟩
    rw [← String.toList_inj, hsplit, hbehind]
    simp

/-- A description has one list that begins first: two of them stand at one place, and there one list
is read. So `mine` has one right answer. -/
theorem BeginsFirst.unique {description before other : String} {literals others : List String}
    (h : BeginsFirst description before literals) (h' : BeginsFirst description other others) :
    literals = others := by
  obtain ⟨rest, hsplit, hread⟩ := occursBehind_iff.1 h.1
  obtain ⟨rest', hsplit', hread'⟩ := occursBehind_iff.1 h'.1
  -- Neither place is in front of the other, so both are the same.
  have hlength : before.toList.length = other.toList.length :=
    Nat.le_antisymm (h.2 other others h'.1) (h'.2 before literals h.1)
  obtain ⟨-, hrest⟩ := List.append_inj (hsplit.symm.trans hsplit') hlength
  rw [List.cons.injEq] at hrest
  rw [hrest.2, hread', Option.some.injEq] at hread
  exact ((List.map_inj_right fun _ _ => String.toList_inj.1).1 hread).symm

/-- A description has a list that `BeginsFirst`, whose literals are mined, or it has none. -/
theorem exists_beginsFirst_or_none (description : String) :
    (∃ before literals, BeginsFirst description before literals ∧
      mine description = some literals.eraseDups) ∨
    (mine description = none ∧ ∀ before literals, ¬OccursBehind description before literals) := by
  rcases first_or_none description.toList with
    ⟨before, rest, literals, hsplit, hread, hfirst, hnone⟩ | ⟨hfirst, hnone⟩
  · have hliterals : literals = (literals.map String.ofList).map String.toList := by
      simp [Function.comp_def]
    refine .inl ⟨String.ofList before, literals.map String.ofList, ⟨?_, ?_⟩, ?_⟩
    · exact occursBehind_iff.2 ⟨rest, by simpa using hsplit, hliterals ▸ hread⟩
    · intro earlier others hoccurs
      obtain ⟨later, hsplit', hread'⟩ := occursBehind_iff.1 hoccurs
      -- A list at an earlier place would have been found before.
      refine Nat.le_of_not_lt fun hlt => ?_
      have := hnone earlier.toList later hsplit' (by simpa [← String.length_toList] using hlt)
      simp [hread'] at this
    · rw [mine, hfirst, Option.map_some]
  · refine .inr ⟨by rw [mine, hfirst, Option.map_none], ?_⟩
    intro before literals hoccurs
    obtain ⟨rest, hsplit, hread⟩ := occursBehind_iff.1 hoccurs
    have := hnone before.toList rest hsplit
    simp [hread] at this

/-- The literals of the list that `BeginsFirst` are mined, each of them once, in the order in which
they first stand. -/
theorem mine_of_beginsFirst {description before : String} {literals : List String}
    (h : BeginsFirst description before literals) :
    mine description = some literals.eraseDups := by
  rcases exists_beginsFirst_or_none description with ⟨_, _, hfirst, hmine⟩ | ⟨-, hnone⟩
  · rw [hmine, hfirst.unique h]
  · exact absurd h.1 (hnone _ _)

/-- A list that is written behind a text without opening parentheses begins first. With one in
front, an earlier list might begin there and end in this one. -/
theorem beginsFirst_listText {before : String} {literals : List String} (behind : String)
    (hbefore : '(' ∉ before.toList) (hlist : IsLiteralList literals) :
    BeginsFirst (before ++ listText literals ++ behind) before literals := by
  refine ⟨⟨hlist, behind, rfl⟩, fun earlier others hoccurs => ?_⟩
  obtain ⟨later, hsplit, -⟩ := occursBehind_iff.1 hoccurs
  rw [String.toList_append, String.toList_append, List.append_assoc] at hsplit
  rcases List.append_eq_append_iff.1 hsplit with ⟨middle, hearlier, -⟩ | ⟨middle, hbefore', hopen⟩
  · simp [← String.length_toList, hearlier]
  · -- Behind a shorter beginning the parenthesis would stand in `before`.
    cases middle with
    | nil => simp [← String.length_toList, hbefore']
    | cons c middle =>
      rw [List.cons_append, List.cons.injEq] at hopen
      rw [hbefore', ← hopen.1] at hbefore
      simp at hbefore

/-- Mining accepts the written lists and nothing else. `mine` gives nothing where a description has
no list, and else the literals of the list that `BeginsFirst`, each at its first place; so there is
a value at least, and none twice. A written list of distinct literals (`listText`) is mined as it
is, behind any text without opening parentheses and in front of any text. A parenthesis in front
could begin a list of its own, which would come first. -/
theorem mine_iff_beginsFirst :
    (∀ description,
      (mine description = none ↔ ¬∃ before literals, OccursBehind description before literals) ∧
      (∀ values, mine description = some values ↔
        ∃ before literals, BeginsFirst description before literals ∧
          values = literals.eraseDups) ∧
      ∀ values, mine description = some values → values ≠ [] ∧ values.Nodup) ∧
    ∀ before literals behind, '(' ∉ before.toList → IsLiteralList literals → literals.Nodup →
      mine (before ++ listText literals ++ behind) = some literals := by
  refine ⟨fun description => ⟨?_, ?_, ?_⟩, ?_⟩
  · rcases exists_beginsFirst_or_none description with
      ⟨before, literals, hfirst, hmine⟩ | ⟨hmine, hnone⟩
    · exact iff_of_false (by simp [hmine]) (not_not_intro ⟨before, literals, hfirst.1⟩)
    · exact iff_of_true hmine (by simpa using hnone)
  · intro values
    constructor
    · intro hvalues
      rcases exists_beginsFirst_or_none description with
        ⟨before, literals, hfirst, hmine⟩ | ⟨hmine, -⟩
      · exact ⟨before, literals, hfirst, Option.some.inj (hvalues.symm.trans hmine)⟩
      · simp [hmine] at hvalues
    · rintro ⟨before, literals, hfirst, rfl⟩
      exact mine_of_beginsFirst hfirst
  · intro values hvalues
    exact ⟨mine_ne_nil hvalues, nodup_mine hvalues⟩
  · intro before literals behind hbefore hlist hnodup
    rw [mine_of_beginsFirst (beginsFirst_listText behind hbefore hlist), eraseDups_eq_self hnodup]

/-- A description with a list that is broken off, one that repeats a literal and one more behind it.
`mine` takes the second. -/
def severalLists : String :=
  "Mode (\"a\"|\"b c\") ((\"x\"|\"é-1\"|\"x\") or (\"p\"|\"q\")"

/-- In `severalLists` the second list is the first that counts. Written on its own behind other
text, it is mined with the literals that it was written with. -/
theorem mine_severalLists :
    (mine severalLists = some ["x", "é-1"] ∧
      (∃ before literals, BeginsFirst severalLists before literals ∧
        ["x", "é-1"] = literals.eraseDups) ∧
      ["x", "é-1"] ≠ [] ∧ ["x", "é-1"].Nodup) ∧
    ('(' ∉ "One of ".toList ∧ IsLiteralList ["x", "é-1"] ∧ ["x", "é-1"].Nodup) ∧
    mine ("One of " ++ listText ["x", "é-1"] ++ " (\"p\"|\"q\")") = some ["x", "é-1"] := by
  have hmine : mine severalLists = some ["x", "é-1"] := by decide +kernel
  have hchars : isLiteralChar 'x' = true ∧ isLiteralChar 'é' = true ∧
      isLiteralChar '-' = true ∧ isLiteralChar '1' = true := by
    decide +kernel
  have hlist : IsLiteralList ["x", "é-1"] := ⟨by decide, by decide, by simpa using hchars⟩
  obtain ⟨-, hfirst, hdistinct⟩ := mine_iff_beginsFirst.1 severalLists
  exact ⟨⟨hmine, (hfirst _).1 hmine, hdistinct _ hmine⟩, ⟨by decide, hlist, by decide⟩,
    mine_iff_beginsFirst.2 _ _ _ (by decide) hlist (by decide)⟩

end WrapperModel.Enumeration
