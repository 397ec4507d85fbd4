import WrapperModel.Proofs.Usage.Segments

/-!
# `WrapperModel.Proofs.Usage.Alternation`: alternations with and without spaces

The tokens `a`, `|`, `b` are read like the one token `a|b`, whether they begin an item of a
usage template or are alternatives of an item that is still open. The exception is a token
that begins no item: the item in front looks at one token only, so it may take `a` as its
repetition and leave a bar behind, or take `a|b`, which it does not see in the three tokens.
And where `a` and `b` are empty, the joined token is the bar itself.

* `TakenBehind`: a token is taken as the repetition of the item in front of it, said by the
  cut of the tokens into segments.
* `exists_segment_in_front`: a segment that ends in front of a token is the same whatever
  stands behind that token.
* `parameters_append_of_not_taken`: a token that is not taken begins an item.
* `parameters_joined`: both ways of writing an alternation are read alike.
* `parameters_ne_joined`: not so at the exceptions.
-/

set_option autoImplicit false

namespace WrapperModel.Usage

/-! ### Taken tokens -/

/-- The first of the tokens `behind` is taken as the repetition of the item in front of it:
a segment spells its item out up to the end of `before` and takes one token more. -/
def TakenBehind (before behind : List String) : Prop :=
  ∃ earlier segment later ps,
    Segmented (before ++ behind) (earlier ++ segment :: later) ps ∧
    earlier.flatMap Segment.tokens ++ segment.spelled = before ∧ segment.lookahead ≠ none

/-- What is taken behind the tokens that follow a segment is taken behind the segment and these
tokens. It carries `TakenBehind` over the items in front, one segment at a time. -/
theorem TakenBehind.append {segment : Segment} {before behind : List String} {p : Parameter}
    (reads : Reads segment (before ++ behind) p) (h : TakenBehind before behind) :
    TakenBehind (segment.tokens ++ before) behind := by
  obtain ⟨earlier, taking, later, ps, hsegmented, hbefore, htaken⟩ := h
  refine ⟨segment :: earlier, taking, later, p :: ps, ?_, ?_, htaken⟩
  · rw [List.append_assoc]
    exact .cons reads hsegmented
  · rw [List.flatMap_cons, List.append_assoc, hbefore]

/-- The tokens from some segment on are cut into the segments from there on. The `earlier` segments
are the context that `TakenBehind` looks at. -/
theorem Segmented.drop {tokens : List String} {earlier segments : List Segment}
    {ps : List Parameter} (h : Segmented tokens (earlier ++ segments) ps) :
    ∃ behind later, tokens = earlier.flatMap Segment.tokens ++ behind ∧
      Segmented behind segments later := by
  induction earlier generalizing tokens ps with
  | nil => exact ⟨tokens, ps, rfl, h⟩
  | cons first rest ih =>
    cases h with
    | cons reads hrest =>
      obtain ⟨behind, later, rfl, hlater⟩ := ih hrest
      exact ⟨behind, later, by simp, hlater⟩

/-- Only a token that is written as a repetition is taken, whichever way it repeats the item. So
whether `TakenBehind` holds can be refuted by looking at the token alone. -/
theorem isRepetition_of_takenBehind {before behind : List String} {token : String}
    (h : TakenBehind before (token :: behind)) : isRepetition token.toList = true := by
  rw [isRepetition_iff]
  obtain ⟨earlier, segment, later, ps, hsegmented, rfl, htaken⟩ := h
  obtain ⟨taken, hlookahead⟩ := Option.ne_none_iff_exists'.1 htaken
  obtain ⟨tokens, rest, htokens, hcut⟩ := hsegmented.drop
  cases hcut with
  | cons reads _ =>
    -- The taken token is the one behind the spelled-out tokens.
    rw [List.append_assoc, List.append_cancel_left_eq, Segment.tokens, hlookahead,
      List.append_assoc, List.append_cancel_left_eq] at htokens
    cases htokens
    obtain ⟨-, ⟨key, value, -, -, hmap⟩ | ⟨-, -, item, hitem, -⟩⟩ :=
      (reads.lookahead token).1 hlookahead
    · exact ⟨_, hmap⟩
    · exact ⟨_, hitem⟩

/-! ### Items in front of a token -/

/-- The segment of an item that ends in front of something that is no bar, with `readItem` for its
flags. A bar there would belong to the item. -/
theorem reads_spelled (token : String) (alternatives : List String) {following : List String}
    (h : following.head? ≠ some "|") :
    let spelled := token :: barred alternatives
    let reading := readItem (String.join spelled).toList following.head?
    Reads (firstSegment spelled following reading.takesNext)
      (if reading.takesNext then following.tail else following)
      ⟨String.join spelled, reading.isList, reading.isDictionary⟩ :=
  reads_firstSegment rfl h ⟨token, alternatives, .inl rfl⟩

/-- The segment of an item that ends in front of a token is the same whatever stands behind that
token: `readItem` looks at no more than one token ahead. -/
theorem exists_segment_in_front (token next : String) (alternatives rest : List String)
    (hnext : next ≠ "|") :
    ∃ segment before p,
      token :: (barred alternatives ++ next :: rest) = segment.tokens ++ before ∧
      before.length ≤ rest.length + 1 ∧ ∀ behind, Reads segment (before ++ behind) p := by
  let spelled := token :: barred alternatives
  let reading := readItem (String.join spelled).toList (some next)
  refine ⟨firstSegment spelled (next :: rest) reading.takesNext,
    if reading.takesNext then rest else next :: rest,
    ⟨String.join spelled, reading.isList, reading.isDictionary⟩, ?_, ?_, ?_⟩
  · rw [Segment.tokens, List.append_assoc]
    exact congrArg (spelled ++ ·) (firstSegment_lookahead_append spelled (next :: rest) _).symm
  · split <;> simp
  · intro behind
    have hhead : (next :: (rest ++ behind)).head? ≠ some "|" := by simpa using hnext
    have hbefore : (if reading.takesNext then rest else next :: rest) ++ behind =
        if reading.takesNext then (next :: (rest ++ behind)).tail
        else next :: (rest ++ behind) := by
      split <;> rfl
    -- The segment and the parameter look at `next` alone, so `behind` stays out of them.
    rw [hbefore]
    exact reads_spelled token alternatives hhead

/-- A token that is not taken does not change how `readItem` reads the item in front of it. It is
read as if nothing followed. -/
theorem readItem_of_not_takesNext {raw : List Char} {next : Option String}
    (h : (readItem raw next).takesNext = false) : readItem raw next = readItem raw none := by
  -- A pair is read alike whatever follows; another item looks at what follows only to take it.
  by_cases hmap : IsMap raw
  · obtain ⟨key, value, hwords⟩ := hmap
    rw [readItem_of_isMap hwords] at h
    rw [readItem_of_isMap hwords, readItem_of_isMap hwords, Reading.mk.injEq]
    exact ⟨rfl, rfl, h.trans (by simp)⟩
  · rw [readItem_of_not_isMap hmap] at h
    rw [readItem_of_not_isMap hmap, readItem_of_not_isMap hmap]
    split
    · rfl
    · rename_i hrep
      rw [if_neg hrep] at h
      split
      · rename_i hnext
        simp [hnext] at h
      · rfl

/-- The first parameter of some tokens is what their first item stands for, if no bar follows what
is spelled out. Behind it come the `parameters` of what it does not take. -/
theorem parameters_spelled (token : String) (alternatives : List String)
    {following : List String} (h : following.head? ≠ some "|") :
    let raw := String.join (token :: barred alternatives)
    let reading := readItem raw.toList following.head?
    parameters (token :: (barred alternatives ++ following)) =
      ⟨raw, reading.isList, reading.isDictionary⟩ ::
        parameters (if reading.takesNext then following.tail else following) := by
  rw [parameters, closeUp_barred, closeUp_of_head_ne h, ← String.join_cons]

/-- Behind an item that ends with the tokens, a token that is not `TakenBehind` it begins an item.
The token must not be a bar, which would be closed up. -/
theorem parameters_append_of_not_taken {token next : String} {alternatives more : List String}
    (hnext : next ≠ "|") (h : ¬TakenBehind (token :: barred alternatives) (next :: more)) :
    parameters (token :: (barred alternatives ++ next :: more)) =
      parameters (token :: barred alternatives) ++ parameters (next :: more) := by
  have hhead : (next :: more).head? ≠ some "|" := by simpa using hnext
  have hnone : ([] : List String).head? ≠ some "|" := by simp
  have htakes : (readItem (String.join (token :: barred alternatives)).toList
      (some next)).takesNext = false := by
    rw [← Bool.not_eq_true]
    intro htakes
    -- The item would be a segment that takes the token, with the cut of the rest behind it.
    have hreads := reads_spelled token alternatives hhead
    simp only [List.head?_cons, htakes, if_true, List.tail_cons] at hreads
    obtain ⟨segments, hsegments⟩ := segmented_parameters more
    have hcut := Segmented.cons hreads hsegments
    have htokens :
        (firstSegment (token :: barred alternatives) (next :: more) true).tokens ++ more =
          token :: barred alternatives ++ next :: more := by
      simp [Segment.tokens, firstSegment]
    rw [htokens] at hcut
    exact h ⟨[], _, segments, _, hcut, rfl, by simp [firstSegment]⟩
  -- Read without what follows, the item is the same, since it takes nothing.
  have halone := parameters_spelled token alternatives hnone
  rw [List.append_nil] at halone
  rw [parameters_spelled token alternatives hhead, halone, List.head?_cons, htakes,
    readItem_of_not_takesNext htakes]
  simp [parameters]

/-! ### Alternations -/

/-- Behind the first token of an item stand `barred` alternatives, and behind these a bar that
nothing follows, or no bar. So every list of tokens is cut where its first item ends. -/
theorem exists_barred (tokens : List String) : ∃ alternatives following,
    tokens = barred alternatives ++ following ∧
      (following = ["|"] ∨ following.head? ≠ some "|") := by
  obtain ⟨alternatives, htokens | ⟨htokens, -⟩, hhead⟩ := exists_barred_closeUp "" tokens
  · exact ⟨alternatives, _, htokens, .inr hhead⟩
  · exact ⟨alternatives, _, htokens, .inl rfl⟩

/-- An item that begins with an alternation is the same with and without spaces: `closeUp` makes the
one of the other, and what stands behind is seen by both alike. -/
theorem parameters_joined_first (a b : String) (behind : List String) :
    parameters (a :: "|" :: b :: behind) = parameters ((a ++ "|" ++ b) :: behind) := by
  rw [parameters, parameters, closeUp]

/-- An item that ends with an open bar takes an alternation with and without spaces. The bar in
front makes the joined token an alternative, so it is never looked at as a repetition. -/
theorem parameters_joined_open (token a b : String) (alternatives behind : List String) :
    parameters (token :: (barred alternatives ++ "|" :: a :: "|" :: b :: behind)) =
      parameters (token :: (barred alternatives ++ "|" :: (a ++ "|" ++ b) :: behind)) := by
  rw [parameters, parameters, closeUp_barred, closeUp_barred, closeUp, closeUp, closeUp]
  simp only [String.append_assoc]

/-- Both ways of writing an alternation are read alike, wherever it stands, if its first token is
not taken as a repetition of the item in front (`TakenBehind`), neither with nor without spaces. The
joined token must not be a bar, since that would be closed up with the item in front. -/
theorem parameters_joined_cons {before behind : List String} {a b : String} (ha : a ≠ "|")
    (hab : a ++ "|" ++ b ≠ "|") (hspaced : ¬TakenBehind before (a :: "|" :: b :: behind))
    (hjoined : ¬TakenBehind before ((a ++ "|" ++ b) :: behind)) :
    parameters (before ++ a :: "|" :: b :: behind) =
      parameters (before ++ (a ++ "|" ++ b) :: behind) := by
  -- One item in front after the other is read, each with the token that it takes.
  induction hlength : before.length using Nat.strongRecOn generalizing before with
  | ind length ih =>
    cases before with
    | nil => exact parameters_joined_first a b behind
    | cons token rest =>
      obtain ⟨alternatives, following, rfl, rfl | hfollowing⟩ := exists_barred rest
      · simpa using parameters_joined_open token a b alternatives behind
      · cases following with
        | nil =>
          rw [List.append_nil] at hspaced hjoined ⊢
          rw [List.cons_append, List.cons_append, parameters_append_of_not_taken ha hspaced,
            parameters_append_of_not_taken hab hjoined, parameters_joined_first]
        | cons next more =>
          -- The item in front is the same in both, and the rest is shorter.
          obtain ⟨segment, shorter, p, hsplit, hle, hreads⟩ :=
            exists_segment_in_front token next alternatives more (by simpa using hfollowing)
          rw [hsplit] at hspaced hjoined ⊢
          rw [List.append_assoc, List.append_assoc, parameters_of_reads (hreads _),
            parameters_of_reads (hreads _), ih shorter.length ?_ ?_ ?_ rfl]
          · subst hlength
            simp only [List.length_cons, List.length_append]
            omega
          · intro htaken
            exact hspaced (htaken.append (hreads _))
          · intro htaken
            exact hjoined (htaken.append (hreads _))

/-- Both ways of writing an alternation are read alike by `parameters`. For all tokens in front and
behind and all alternatives that are no bars and not both empty, it makes no difference if the bar
is a token of its own or part of one token, unless the item in front takes the first token of the
alternation as its repetition (`TakenBehind`).

A first alternative that is a bar would be joined with the item in front, and so would the joined
token if both alternatives were empty. Of the second alternative neither is asked, since it is
joined whatever it is. -/
theorem parameters_joined {before behind : List String} {a b : String} (ha : a ≠ "|")
    (hab : a ≠ "" ∨ b ≠ "") (hspaced : ¬TakenBehind before ([a, "|", b] ++ behind))
    (hjoined : ¬TakenBehind before ([a ++ "|" ++ b] ++ behind)) :
    parameters (before ++ [a, "|", b] ++ behind) =
      parameters (before ++ [a ++ "|" ++ b] ++ behind) := by
  -- A bar alone would leave no room for either alternative.
  have hbar : a ++ "|" ++ b ≠ "|" := by
    intro heq
    have hchars : a.toList ++ '|' :: b.toList = ['|'] := by
      simpa using congrArg String.toList heq
    have hlength := congrArg List.length hchars
    simp only [List.length_append, List.length_cons, List.length_nil, Nat.zero_add] at hlength
    have ha' : a.toList = [] := List.length_eq_zero_iff.1 (by omega)
    have hb' : b.toList = [] := List.length_eq_zero_iff.1 (by omega)
    simp only [String.toList_eq_nil_iff] at ha' hb'
    rcases hab with hane | hbne
    · exact hane ha'
    · exact hbne hb'
  rw [List.append_assoc, List.append_assoc]
  exact parameters_joined_cons ha hbar hspaced hjoined

/-- The alternatives of an item that is open, since a bar stands in front of them, are read alike,
and so is the repetition of the last of them, which both items take. `TakenBehind` is excluded by
the cuts that these tokens have. -/
theorem parameters_joined_self_node :
    ("NODE" ≠ "|" ∧ ("NODE" ≠ "" ∨ "ALL" ≠ "") ∧
      ¬TakenBehind ["docker", "self", "|"] (["NODE", "|", "ALL"] ++ ["[ALL...]"]) ∧
      ¬TakenBehind ["docker", "self", "|"] (["NODE" ++ "|" ++ "ALL"] ++ ["[ALL...]"])) ∧
    parameters (["docker", "self", "|"] ++ ["NODE", "|", "ALL"] ++ ["[ALL...]"]) =
      parameters (["docker", "self", "|"] ++ ["NODE" ++ "|" ++ "ALL"] ++ ["[ALL...]"]) ∧
    parameters ["docker", "self", "|", "NODE|ALL", "[ALL...]"] =
      [⟨"docker", false, false⟩, ⟨"self|NODE|ALL", true, false⟩] := by
  have hspaced : ¬TakenBehind ["docker", "self", "|"] (["NODE", "|", "ALL"] ++ ["[ALL...]"]) :=
    fun h => absurd (isRepetition_of_takenBehind h) (by decide)
  have hjoined : ¬TakenBehind ["docker", "self", "|"]
      (["NODE" ++ "|" ++ "ALL"] ++ ["[ALL...]"]) :=
    fun h => absurd (isRepetition_of_takenBehind h) (by decide)
  exact ⟨⟨by decide, by decide, hspaced, hjoined⟩,
    parameters_joined (by decide) (by decide) hspaced hjoined, by decide +kernel⟩

/-- The two ways are not read alike where the first alternative is taken as a repetition, where the
joined token is, and where the joined token is a bar behind an item. These are the three conditions
of the law above, each missing once. -/
theorem parameters_ne_joined :
    ("[NODE...]" ≠ "|" ∧ "-" ≠ "|" ∧
      parameters (["NODE"] ++ ["[NODE...]", "|", "-"] ++ []) ≠
        parameters (["NODE"] ++ ["[NODE...]" ++ "|" ++ "-"] ++ [])) ∧
    ("[NAME" ≠ "|" ∧ "ID...]" ≠ "|" ∧
      parameters (["NAME|ID"] ++ ["[NAME", "|", "ID...]"] ++ []) ≠
        parameters (["NAME|ID"] ++ ["[NAME" ++ "|" ++ "ID...]"] ++ [])) ∧
    ("" ≠ "|" ∧
      parameters (["PATH"] ++ ["", "|", ""] ++ []) ≠
        parameters (["PATH"] ++ ["" ++ "|" ++ ""] ++ [])) := by
  refine ⟨⟨by decide, by decide, ?_⟩, ⟨by decide, by decide, ?_⟩, by decide, ?_⟩ <;>
    decide +kernel

end WrapperModel.Usage
