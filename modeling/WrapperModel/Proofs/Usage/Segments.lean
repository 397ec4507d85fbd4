import WrapperModel.Proofs.Text.Pieces
import WrapperModel.Proofs.Usage.MapPlaceholder
import WrapperModel.Usage.Template

/-!
# `WrapperModel.Proofs.Usage.Segments`: every token of a usage template is accounted for

`parameters` groups tokens from left to right. Each group is a `Segment`: the tokens that
make up the text of one parameter, and perhaps a repetition behind them that belongs to it.
`Reads` says what a parameter has to be in front of the tokens behind its segment, without
the functions that read it: which tokens are spelled out, what the flags say and when a
repetition is taken.

* `closeUp_barred`, `exists_barred_closeUp`: closing up joins exactly the alternatives that
  follow.
* `isDictionary_readItem`, `isList_readItem`, `takesNext_readItem`: what an item stands for.
* `exists_eq_readItem`: every parameter is read from its text in front of some token.
* `isDictionary_of_isList`: no parameter stands for a list and for a map.
* `segmented_parameters`: the tokens are cut into segments, one for each parameter.
* `parameters_of_segmented`: no other list of parameters has such a cut.
* `segmented_iff_eq_parameters`: both together.
-/

set_option autoImplicit false

namespace WrapperModel.Usage

open WrapperModel.Text

/-! ### What an item stands for -/

/-- The item is a map placeholder of some two words. Unlike `IsMapPlaceholder` it does not name
them, which is all that the flags of an item depend on. -/
def IsMap (raw : List Char) : Prop :=
  ∃ key value, IsMapPlaceholder key value raw

/-- The token repeats the map placeholder, which has no bracket in front. A placeholder with a
bracket is a repetition itself and takes none, although `mapPlaceholder?` reads it all the same. -/
def RepeatsMap (raw token : List Char) : Prop :=
  ∃ key value, IsMapPlaceholder key value raw ∧ raw.head? ≠ some '[' ∧
    token = repetition (key ++ '=' :: value)

/-- The token repeats an item that is neither a map placeholder nor a repetition: the whole of it,
or what stands behind its last bar. It is the specification of `repeatsAsList`, with the cases of
`readItem` that come before it. -/
def RepeatsItem (raw token : List Char) : Prop :=
  ¬IsMap raw ∧ (¬∃ body, raw = repetition body) ∧
    ∃ item, token = repetition item ∧
      (item = raw ∨ ∃ before, raw = before ++ '|' :: item ∧ '|' ∉ item)

/-- The `lastAlternative` of an item with a bar is what stands behind its last bar. -/
theorem lastAlternative_eq_iff {raw item : List Char} (hbar : '|' ∈ raw) :
    lastAlternative raw = item ↔ ∃ before, raw = before ++ '|' :: item ∧ '|' ∉ item := by
  have hlast : ∀ before last : List Char, '|' ∉ last →
      lastAlternative (before ++ '|' :: last) = last := by
    intro before last hfree
    simp only [lastAlternative, List.splitOn_append_cons_self, List.splitOn_eq_singleton hfree]
    simp
  constructor
  · rintro rfl
    -- The first bar from behind is the last one.
    obtain ⟨last, before, hsplit, hfree⟩ := List.eq_append_cons_of_mem (List.mem_reverse.2 hbar)
    have hraw : raw = before.reverse ++ '|' :: last.reverse := by
      rw [← List.reverse_reverse raw, hsplit]
      simp
    have hfree' : '|' ∉ last.reverse := by simpa using hfree
    exact ⟨before.reverse, by rw [hraw, hlast _ _ hfree'], by rwa [hraw, hlast _ _ hfree']⟩
  · rintro ⟨before, rfl, hfree⟩
    exact hlast before item hfree

/-- A token repeats an item as a list exactly when it is the `repetition` of the item or of what
stands behind its last bar. Both may hold of different tokens, but of one token only one of them is
needed. -/
theorem repeatsAsList_iff {raw token : List Char} :
    repeatsAsList raw token = true ↔
      ∃ item, token = repetition item ∧
        (item = raw ∨ ∃ before, raw = before ++ '|' :: item ∧ '|' ∉ item) := by
  -- The whole item may be repeated, or the last of its alternatives.
  simp only [repeatsAsList, Bool.or_eq_true, Bool.and_eq_true, decide_eq_true_eq,
    List.contains_iff_mem]
  constructor
  · rintro (rfl | ⟨hbar, rfl⟩)
    · exact ⟨raw, rfl, .inl rfl⟩
    · exact ⟨_, rfl, .inr ((lastAlternative_eq_iff hbar).1 rfl)⟩
  · rintro ⟨item, rfl, rfl | ⟨before, hraw, hfree⟩⟩
    · exact .inl rfl
    · have hbar : '|' ∈ raw := by simp [hraw]
      exact .inr ⟨hbar, by rw [(lastAlternative_eq_iff hbar).2 ⟨before, hraw, hfree⟩]⟩

/-- No words are read from an item that is no map placeholder, so `mapPlaceholder?` decides
`IsMap`. -/
theorem not_isMap_iff {raw : List Char} : ¬IsMap raw ↔ mapPlaceholder? raw = none := by
  rw [Option.eq_none_iff_forall_ne_some]
  constructor
  · rintro h ⟨key, value⟩ hsome
    exact h ⟨key, value, mapPlaceholder?_eq_some_iff.1 hsome⟩
  · rintro h ⟨key, value, hmap⟩
    exact h (key, value) (mapPlaceholder?_eq_some_iff.2 hmap)

/-- A token behind an item that is neither a map placeholder nor a repetition is read as its
repetition exactly when it repeats the item (`RepeatsItem`). -/
theorem any_repeatsAsList_iff {raw : List Char} {next : Option String} (hmap : ¬IsMap raw)
    (hrep : ¬isRepetition raw = true) :
    (next.any fun token => repeatsAsList raw token.toList) = true ↔
      ∃ token, next = some token ∧ RepeatsItem raw token.toList := by
  rw [isRepetition_iff] at hrep
  rw [Option.any_eq_true]
  simp only [repeatsAsList_iff, RepeatsItem, hmap, hrep, not_false_eq_true, true_and]

/-- How `readItem` reads a map placeholder, with its words given. The next token is compared with
the one repetition that the words have. -/
theorem readItem_of_isMap {raw key value : List Char} (h : IsMapPlaceholder key value raw)
    (next : Option String) :
    readItem raw next =
      ⟨false, true, raw.head? != some '[' &&
        next.any fun token => token.toList = repetition (key ++ '=' :: value)⟩ := by
  simp only [readItem, mapPlaceholder?_eq_some_iff.2 h]

/-- How `readItem` reads any other item: a repetition by itself first, then one with the token
behind it. No map is left among the outcomes. -/
theorem readItem_of_not_isMap {raw : List Char} (h : ¬IsMap raw) (next : Option String) :
    readItem raw next =
      if isRepetition raw then ⟨true, false, false⟩
      else if next.any fun token => repeatsAsList raw token.toList then ⟨true, false, true⟩
      else ⟨false, false, false⟩ := by
  simp only [readItem, not_isMap_iff.1 h]

/-- An item is a map exactly when it is a map placeholder (`IsMap`), whatever follows. The token
behind it decides only whether it is taken. -/
theorem isDictionary_readItem {raw : List Char} {next : Option String} :
    (readItem raw next).isDictionary = true ↔ IsMap raw := by
  by_cases hmap : IsMap raw
  · obtain ⟨key, value, h⟩ := hmap
    simpa [readItem_of_isMap h] using ⟨key, value, h⟩
  · rw [readItem_of_not_isMap hmap]
    split
    · simpa using hmap
    · split <;> simpa using hmap

/-- An item is a list exactly when the token behind it repeats it (`RepeatsItem`), or when it is no
map placeholder and a `repetition` itself. -/
theorem isList_readItem {raw : List Char} {next : Option String} :
    (readItem raw next).isList = true ↔
      (∃ token, next = some token ∧ RepeatsItem raw token.toList) ∨
      (¬IsMap raw ∧ ∃ body, raw = repetition body) := by
  -- A pair is no list, and `RepeatsItem` is about no pairs.
  by_cases hmap : IsMap raw
  · obtain ⟨key, value, h⟩ := hmap
    have hmap : IsMap raw := ⟨key, value, h⟩
    simp [readItem_of_isMap h, RepeatsItem, hmap]
  · rw [readItem_of_not_isMap hmap]
    split
    · rename_i hrep
      exact iff_of_true rfl (.inr ⟨hmap, isRepetition_iff.1 hrep⟩)
    · rename_i hrep
      have hbody : ¬∃ body, raw = repetition body := mt isRepetition_iff.2 hrep
      split
      · rename_i hnext
        exact iff_of_true rfl (.inl ((any_repeatsAsList_iff hmap hrep).1 hnext))
      · rename_i hnext
        rw [any_repeatsAsList_iff hmap hrep] at hnext
        exact iff_of_false Bool.false_ne_true (not_or.2 ⟨hnext, fun h => hbody h.2⟩)

/-- No item is read as a list and as a map: `readItem` asks for a map first, and lists are what it
finds else. -/
theorem isDictionary_readItem_of_isList {raw : List Char} {next : Option String}
    (h : (readItem raw next).isList = true) : (readItem raw next).isDictionary = false := by
  rw [← Bool.not_eq_true, isDictionary_readItem]
  rcases isList_readItem.1 h with ⟨token, -, hrepeats⟩ | ⟨hmap, -⟩
  · exact hrepeats.1
  · exact hmap

/-- The words of a map placeholder are what `mapPlaceholder?` reads from it, so there is one pair of
words and one repetition that `RepeatsMap` can mean. -/
theorem repeatsMap_iff {raw token key value : List Char} (h : IsMapPlaceholder key value raw) :
    RepeatsMap raw token ↔
      raw.head? ≠ some '[' ∧ token = repetition (key ++ '=' :: value) := by
  constructor
  · rintro ⟨key', value', h', hbracket, rfl⟩
    -- The key and the value can be read off the item, so there is one pair only.
    have hsame : some (key, value) = some (key', value') :=
      (mapPlaceholder?_eq_some_iff.2 h).symm.trans (mapPlaceholder?_eq_some_iff.2 h')
    cases hsame
    exact ⟨hbracket, rfl⟩
  · rintro ⟨hbracket, rfl⟩
    exact ⟨key, value, h, hbracket, rfl⟩

/-- Behind a map placeholder only its repetition is taken, which is the first half of the lookahead
in `Segmented`. -/
theorem takesNext_readItem_of_isMap {raw key value : List Char} {next : Option String}
    (h : IsMapPlaceholder key value raw) :
    (readItem raw next).takesNext = true ↔
      ∃ token, next = some token ∧ RepeatsMap raw token.toList := by
  rw [readItem_of_isMap h]
  simp only [repeatsMap_iff h, Bool.and_eq_true, bne_iff_ne, Option.any_eq_true,
    decide_eq_true_eq]
  constructor
  · rintro ⟨hbracket, token, hnext, htoken⟩
    exact ⟨token, hnext, hbracket, htoken⟩
  · rintro ⟨token, hnext, hbracket, htoken⟩
    exact ⟨hbracket, token, hnext, htoken⟩

/-- Behind any other item only a token that repeats it as a list is taken. An item that is a
`repetition` itself takes nothing, which `RepeatsItem` includes. -/
theorem takesNext_readItem_of_not_isMap {raw : List Char} {next : Option String}
    (hmap : ¬IsMap raw) :
    (readItem raw next).takesNext = true ↔
      ∃ token, next = some token ∧ RepeatsItem raw token.toList := by
  rw [readItem_of_not_isMap hmap]
  split
  · rename_i hrep
    -- A repetition is a list by itself and takes nothing more.
    refine iff_of_false Bool.false_ne_true ?_
    rintro ⟨token, -, -, hbody, -⟩
    exact hbody (isRepetition_iff.1 hrep)
  · rename_i hrep
    rw [← any_repeatsAsList_iff hmap hrep]
    split
    · rename_i hnext
      exact iff_of_true rfl hnext
    · rename_i hnext
      exact iff_of_false Bool.false_ne_true hnext

/-- The token behind an item is taken exactly when it repeats the item, as a map or as a list. From
here on `readItem` is asked by these lemmas and not opened. -/
theorem takesNext_readItem {raw : List Char} {next : Option String} :
    (readItem raw next).takesNext = true ↔
      ∃ token, next = some token ∧
        (RepeatsMap raw token.toList ∨ RepeatsItem raw token.toList) := by
  by_cases hmap : IsMap raw
  · obtain ⟨key, value, h⟩ := hmap
    have hitem : ∀ token, ¬RepeatsItem raw token := by
      intro token hrepeats
      exact hrepeats.1 ⟨key, value, h⟩
    simp only [hitem, or_false]
    exact takesNext_readItem_of_isMap h
  · have hnone : ∀ token, ¬RepeatsMap raw token := by
      rintro token ⟨key, value, h, -⟩
      exact hmap ⟨key, value, h⟩
    simp only [hnone, false_or]
    exact takesNext_readItem_of_not_isMap hmap

/-! ### Spelled-out tokens -/

/-- A bar in front of every alternative, as `closeUp` finds them between the tokens. The bars are
tokens of their own. -/
def barred (alternatives : List String) : List String :=
  alternatives.flatMap (["|", ·])

/-- In front of something that is no bar, `closeUp` takes nothing, and the item keeps its text. -/
theorem closeUp_of_head_ne {raw : String} {tokens : List String}
    (h : tokens.head? ≠ some "|") : closeUp raw tokens = (raw, tokens) := by
  unfold closeUp
  split
  · simp at h
  · simp at h
  · rfl

/-- Closing up passes the `barred` alternatives one by one, and goes on behind them with all of them
in the text. It is the run lemma of `closeUp`, by induction on the alternatives. -/
theorem closeUp_barred (raw : String) (alternatives behind : List String) :
    closeUp raw (barred alternatives ++ behind) =
      closeUp (raw ++ String.join (barred alternatives)) behind := by
  induction alternatives generalizing raw with
  | nil => simp [barred]
  | cons alternative rest ih =>
    have hstep : barred (alternative :: rest) = "|" :: alternative :: barred rest := rfl
    rw [hstep, List.cons_append, List.cons_append, closeUp, ih]
    simp [String.append_assoc]

/-- What closing up takes are `barred` alternatives, and perhaps a bar that nothing follows; it
leaves no bar in front. With `closeUp_barred` this is all that is known of it. -/
theorem exists_barred_closeUp (raw : String) (tokens : List String) :
    ∃ alternatives : List String,
      (tokens = barred alternatives ++ (closeUp raw tokens).2 ∨
        (tokens = barred alternatives ++ ["|"] ∧ (closeUp raw tokens).2 = [])) ∧
      (closeUp raw tokens).2.head? ≠ some "|" := by
  fun_induction closeUp raw tokens with
  | case1 raw alternative rest ih =>
    obtain ⟨alternatives, htokens, hhead⟩ := ih
    have hstep : barred (alternative :: alternatives) =
        "|" :: alternative :: barred alternatives := rfl
    refine ⟨alternative :: alternatives, ?_, hhead⟩
    rw [hstep, List.cons_append, List.cons_append, List.cons_append, List.cons_append]
    rcases htokens with hrest | ⟨hrest, hnil⟩
    · exact .inl (by rw [← hrest])
    · exact .inr ⟨by rw [← hrest], hnil⟩
  -- A bar at the end is closed up with nothing behind it.
  | case2 raw => exact ⟨[], .inr ⟨rfl, rfl⟩, by simp⟩
  | case3 raw tokens hpair hbar =>
    refine ⟨[], .inl rfl, ?_⟩
    -- A bar in front would have been closed up with what is behind it.
    rcases tokens with _ | ⟨token, _ | ⟨next, rest⟩⟩
    · simp
    · rintro heq
      cases heq
      exact hbar rfl
    · rintro heq
      cases heq
      exact hpair next rest rfl

/-! ### Segments -/

/-- The tokens of one parameter: those that its text is made of, and the repetition behind
them that it takes. -/
structure Segment where
  spelled : List String
  lookahead : Option String
  deriving Repr, DecidableEq

/-- All tokens of a segment, in order: those that are spelled out, and the `lookahead` behind them
where there is one. -/
def Segment.tokens (segment : Segment) : List String :=
  segment.spelled ++ segment.lookahead.toList

/-- The token behind the spelled-out ones, whether the segment takes it or not. It is what
`readItem` looks at. -/
def Segment.next? (segment : Segment) (behind : List String) : Option String :=
  (segment.lookahead.toList ++ behind).head?

/-- The parameter is what the segment stands for in front of the tokens `behind`. The tokens behind
matter for two things: no bar may come next, and the next token decides whether there is a
lookahead. -/
structure Reads (segment : Segment) (behind : List String) (p : Parameter) : Prop where
  /-- One token is spelled out, with any number of pairs of a bar and a token. The bar of
  a last pair may stand alone where nothing follows. -/
  spelled : ∃ first alternatives,
    segment.spelled = first :: barred alternatives ∨
    (segment.spelled = first :: (barred alternatives ++ ["|"]) ∧
      segment.lookahead = none ∧ behind = [])
  /-- No bar follows that could be taken. -/
  maximal : segment.next? behind ≠ some "|"
  /-- The text is made of all spelled-out tokens. -/
  raw : p.raw = String.join segment.spelled
  dictionary : p.isDictionary = true ↔ IsMap p.raw.toList
  list : p.isList = true ↔
    (∃ token, segment.next? behind = some token ∧ RepeatsItem p.raw.toList token.toList) ∨
    (¬IsMap p.raw.toList ∧ ∃ body, p.raw.toList = repetition body)
  /-- The token behind is taken exactly when it repeats the parameter. -/
  lookahead : ∀ token, segment.lookahead = some token ↔
    segment.next? behind = some token ∧
      (RepeatsMap p.raw.toList token.toList ∨ RepeatsItem p.raw.toList token.toList)

/-- The tokens are cut into the segments, one for each parameter, in order. It is the specification
of `parameters`, which does not say how the cut is found. -/
inductive Segmented : List String → List Segment → List Parameter → Prop
  | nil : Segmented [] [] []
  | cons {segment : Segment} {behind : List String} {p : Parameter} {segments : List Segment}
      {ps : List Parameter} (reads : Reads segment behind p) (rest : Segmented behind segments ps) :
      Segmented (segment.tokens ++ behind) (segment :: segments) (p :: ps)

/-! ### Every list of tokens has a cut -/

/-- The segment with which the parameters of some tokens begin. Its lookahead is the first of the
`following` tokens, where `takesNext` says that it is taken. -/
def firstSegment (spelled following : List String) (takesNext : Bool) : Segment :=
  ⟨spelled, if takesNext then following.head? else none⟩

/-- The segment that takes the next token or leaves it keeps all that follows in order. So no token
is lost or doubled between a segment and the tokens behind it. -/
theorem firstSegment_lookahead_append (spelled following : List String) (takesNext : Bool) :
    (firstSegment spelled following takesNext).lookahead.toList ++
      (if takesNext then following.tail else following) = following := by
  cases takesNext with
  | false => rfl
  | true => cases following <;> rfl

/-- Whatever is spelled out, the flags of the parameter and the lookahead of its segment are those
of `readItem`. No bar may follow, or the text would not be complete. -/
theorem reads_firstSegment {raw : String} {spelled following : List String}
    (hraw : raw = String.join spelled) (hhead : following.head? ≠ some "|")
    (hspelled : ∃ first alternatives, spelled = first :: barred alternatives ∨
      (spelled = first :: (barred alternatives ++ ["|"]) ∧ following = [])) :
    Reads (firstSegment spelled following (readItem raw.toList following.head?).takesNext)
      (if (readItem raw.toList following.head?).takesNext then following.tail else following)
      ⟨raw, (readItem raw.toList following.head?).isList,
        (readItem raw.toList following.head?).isDictionary⟩ := by
  have hnext : (firstSegment spelled following
      (readItem raw.toList following.head?).takesNext).next?
        (if (readItem raw.toList following.head?).takesNext then following.tail else following) =
      following.head? :=
    congrArg List.head? (firstSegment_lookahead_append spelled following _)
  refine ⟨?_, by rw [hnext]; exact hhead, hraw, isDictionary_readItem, ?_, fun next => ?_⟩
  · obtain ⟨first, alternatives, hall | ⟨hall, rfl⟩⟩ := hspelled
    · exact ⟨first, alternatives, .inl hall⟩
    · -- Where nothing follows, nothing is taken.
      exact ⟨first, alternatives, .inr ⟨hall, ite_self none, ite_self []⟩⟩
  · rw [hnext]
    exact isList_readItem
  · rw [hnext]
    constructor
    · intro hlookahead
      by_cases htakes : (readItem raw.toList following.head?).takesNext = true
      · obtain ⟨taken, htaken, hrepeats⟩ := takesNext_readItem.1 htakes
        have hsame : some taken = some next := by
          rw [← htaken, ← hlookahead, firstSegment, if_pos htakes]
        cases hsame
        exact ⟨htaken, hrepeats⟩
      · rw [firstSegment, if_neg htakes] at hlookahead
        simp at hlookahead
    · rintro ⟨hsome, hrepeats⟩
      rw [firstSegment, if_pos (takesNext_readItem.2 ⟨next, hsome, hrepeats⟩), hsome]

/-- The tokens in front of what `closeUp` leaves are spelled out in its text: a first token and
`barred` alternatives, with an open bar at most at the very end of all tokens. -/
theorem exists_spelled_closeUp (token : String) (rest : List String) :
    ∃ spelled, spelled ++ (closeUp token rest).2 = token :: rest ∧
      (closeUp token rest).1 = String.join spelled ∧
      ∃ first alternatives, spelled = first :: barred alternatives ∨
        (spelled = first :: (barred alternatives ++ ["|"]) ∧ (closeUp token rest).2 = []) := by
  obtain ⟨alternatives, hrest | ⟨hrest, hnil⟩, hhead⟩ := exists_barred_closeUp token rest
  · refine ⟨token :: barred alternatives, ?_, ?_, token, alternatives, .inl rfl⟩
    · rw [List.cons_append, ← hrest]
    · -- Closing up exactly these tokens joins them, and stops where the item stopped.
      have hclosed := closeUp_barred token alternatives (closeUp token rest).2
      rw [← hrest, closeUp_of_head_ne hhead] at hclosed
      rw [congrArg Prod.fst hclosed, String.join_cons]
  · refine ⟨token :: (barred alternatives ++ ["|"]), ?_, ?_, token, alternatives, .inr ⟨rfl, hnil⟩⟩
    · rw [hnil, List.append_nil, ← hrest]
    · have hclosed := closeUp_barred token alternatives ["|"]
      rw [← hrest, closeUp] at hclosed
      rw [congrArg Prod.fst hclosed, String.join_cons, String.join_append]
      simp [String.append_assoc]

/-- The first parameter of some tokens is what their first segment stands for. It is the step of
`segmented_parameters`. -/
theorem exists_reads_closeUp (token : String) (rest : List String) :
    let item := closeUp token rest
    let reading := readItem item.1.toList item.2.head?
    let behind := if reading.takesNext then item.2.tail else item.2
    ∃ segment : Segment, segment.tokens ++ behind = token :: rest ∧
      Reads segment behind ⟨item.1, reading.isList, reading.isDictionary⟩ := by
  intro item reading behind
  obtain ⟨-, -, hhead⟩ := exists_barred_closeUp token rest
  obtain ⟨spelled, htokens, hraw, hspelled⟩ := exists_spelled_closeUp token rest
  refine ⟨firstSegment spelled item.2 reading.takesNext, ?_,
    reads_firstSegment hraw hhead hspelled⟩
  rw [Segment.tokens, List.append_assoc, firstSegment_lookahead_append, firstSegment]
  exact htokens

/-- The tokens are cut into segments, one for each of their `parameters`. The induction is on the
recursion of `parameters`, with one segment for each of its steps. -/
theorem segmented_parameters (tokens : List String) :
    ∃ segments, Segmented tokens segments (parameters tokens) := by
  -- item by item, as `parameters` goes
  fun_induction parameters tokens with
  | case1 => exact ⟨[], .nil⟩
  | case2 token rest item reading ih =>
    obtain ⟨segments, hsegments⟩ := ih
    obtain ⟨segment, htokens, hreads⟩ := exists_reads_closeUp token rest
    exact ⟨segment :: segments, htokens ▸ .cons hreads hsegments⟩

/-- What a parameter stands for is read from its text in front of some token, or of none. Where the
neighbours of an item do not matter, this is easier to use than a cut. -/
theorem exists_eq_readItem {tokens : List String} {p : Parameter} (hp : p ∈ parameters tokens) :
    ∃ raw next, p = ⟨raw, (readItem raw.toList next).isList,
      (readItem raw.toList next).isDictionary⟩ := by
  fun_induction parameters tokens with
  | case1 => simp at hp
  | case2 token rest item reading ih =>
    rcases List.mem_cons.1 hp with rfl | hp
    · exact ⟨item.1, item.2.head?, rfl⟩
    · exact ih hp

/-- No parameter stands for a list and for a map, since `readItem` gives none that does. -/
theorem isDictionary_of_isList {tokens : List String} {p : Parameter}
    (hp : p ∈ parameters tokens) (hlist : p.isList = true) : p.isDictionary = false := by
  obtain ⟨raw, next, rfl⟩ := exists_eq_readItem hp
  exact isDictionary_readItem_of_isList hlist

/-! ### The cut determines the parameters -/

/-- Closing up the tokens of a segment gives its text, and what follows the spelled-out tokens. It
is the converse of `exists_spelled_closeUp`. -/
theorem closeUp_of_reads {segment : Segment} {behind : List String} {p : Parameter}
    (h : Reads segment behind p) :
    ∃ first more, segment.spelled = first :: more ∧
      closeUp first (more ++ (segment.lookahead.toList ++ behind)) =
        (p.raw, segment.lookahead.toList ++ behind) := by
  obtain ⟨first, alternatives, hspelled | ⟨hspelled, hnone, hbehind⟩⟩ := h.spelled
  · refine ⟨first, _, hspelled, ?_⟩
    rw [closeUp_barred, closeUp_of_head_ne h.maximal, h.raw, hspelled, String.join_cons]
  · refine ⟨first, _, hspelled, ?_⟩
    rw [hnone, hbehind, h.raw, hspelled, List.append_assoc, closeUp_barred, String.join_cons,
      String.join_append]
    simp [closeUp, String.append_assoc]

/-- The parameters of a segment and the tokens behind it begin with what the segment stands for. It
is the step of `parameters_of_segmented`, and of all proofs that go over the items in front. -/
theorem parameters_of_reads {segment : Segment} {behind : List String} {p : Parameter}
    (h : Reads segment behind p) :
    parameters (segment.tokens ++ behind) = p :: parameters behind := by
  obtain ⟨first, more, hspelled, hclosed⟩ := closeUp_of_reads h
  rw [Segment.tokens, hspelled, List.append_assoc, List.cons_append, parameters, hclosed]
  have hnext : (segment.lookahead.toList ++ behind).head? = segment.next? behind := rfl
  have hlist : (readItem p.raw.toList (segment.next? behind)).isList = p.isList :=
    Bool.eq_iff_iff.2 (isList_readItem.trans h.list.symm)
  have hdictionary : (readItem p.raw.toList (segment.next? behind)).isDictionary =
      p.isDictionary := Bool.eq_iff_iff.2 (isDictionary_readItem.trans h.dictionary.symm)
  simp only [hnext, hlist, hdictionary]
  congr 2
  -- The segment takes the token behind exactly where the reading does.
  cases hlookahead : segment.lookahead with
  | none =>
    have htakes : ¬(readItem p.raw.toList (segment.next? behind)).takesNext = true := by
      rw [takesNext_readItem]
      rintro ⟨token, htoken⟩
      exact absurd ((h.lookahead token).2 htoken) (by simp [hlookahead])
    rw [if_neg htakes]
    rfl
  | some token =>
    rw [if_pos (takesNext_readItem.2 ⟨token, (h.lookahead token).1 hlookahead⟩)]
    rfl

/-- A cut of the tokens determines the `parameters`. With `segmented_parameters` this makes the cut
a complete description of the reading. -/
theorem parameters_of_segmented {tokens : List String} {segments : List Segment}
    {ps : List Parameter} (h : Segmented tokens segments ps) : ps = parameters tokens := by
  -- on the cut, one segment at a time
  induction h with
  | nil => rw [parameters]
  | cons reads rest ih => rw [parameters_of_reads reads, ih]

/-- A cut takes every token once and in order, and no segment is empty. So the items of a usage are
never more than its tokens. -/
theorem Segmented.flatMap_tokens {tokens : List String} {segments : List Segment}
    {ps : List Parameter} (h : Segmented tokens segments ps) :
    segments.flatMap Segment.tokens = tokens ∧ segments.length = ps.length ∧
      ∀ segment ∈ segments, segment.tokens ≠ [] := by
  induction h with
  | nil => simp
  | cons reads rest ih =>
    obtain ⟨htokens, hlength, hne⟩ := ih
    refine ⟨by rw [List.flatMap_cons, htokens], by simp [hlength], ?_⟩
    refine List.forall_mem_cons.2 ⟨?_, hne⟩
    -- A segment spells one item at least, so it is not empty.
    obtain ⟨first, alternatives, hspelled | ⟨hspelled, -⟩⟩ := reads.spelled <;>
      simp [Segment.tokens, hspelled]

/-- The parameters of some tokens are the one list for which the tokens have a cut (`Segmented`):
into segments that are not empty, one for each parameter, which hold every token once and in order.
There is no condition on the tokens. So `parameters` leaves nothing out, and what holds of every cut
holds of what it gives. -/
theorem segmented_iff_eq_parameters (tokens : List String) (ps : List Parameter) :
    (∃ segments, Segmented tokens segments ps ∧
      segments.flatMap Segment.tokens = tokens ∧ segments.length = ps.length ∧
      ∀ segment ∈ segments, segment.tokens ≠ []) ↔
    ps = parameters tokens := by
  constructor
  · rintro ⟨segments, hsegments, -⟩
    exact parameters_of_segmented hsegments
  · rintro rfl
    obtain ⟨segments, hsegments⟩ := segmented_parameters tokens
    exact ⟨segments, hsegments, hsegments.flatMap_tokens⟩

end WrapperModel.Usage
