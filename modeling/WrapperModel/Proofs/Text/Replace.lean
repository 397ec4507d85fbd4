import WrapperModel.Text.Replace

/-!
# `WrapperModel.Proofs.Text.Replace`: replacing is filling gaps

Where a pattern occurs does not depend on what is put in its place. `cutAt` takes the occurrences
out of a text and leaves a gap for each of them, and `fillGaps` puts a text into every gap.

* `replaceChars_eq_fillGaps`, `toList_replaceAll`: replacing a pattern fills the gaps that it
  leaves, and what is put in is not searched again.
* `cutAt_pattern_append`, `cutAt_cons_of_not_begins`, `cutAt_append_of_free`: the gaps of a text,
  from left to right.
* `none_mem_cutAt`: a pattern that occurs leaves a gap.
* `eq_of_forall_fillGaps_eq`: two texts with gaps that are the same whatever is put in are the
  same.
-/

set_option autoImplicit false

namespace WrapperModel.Text

/-- The characters of a text, with a gap in the place of every occurrence of the pattern `first ::
more`, found from left to right as `replaceChars` finds them. -/
def cutAt (first : Char) (more : List Char) : List Char → List (Option Char)
  | [] => []
  | c :: rest =>
    if c = first && more.isPrefixOf rest then none :: cutAt first more (rest.drop more.length)
    else some c :: cutAt first more rest
  termination_by cs => cs.length
  decreasing_by
    · simp only [List.length_cons, List.length_drop]; omega
    · simp

/-- The characters with the same text put into every gap. A gap is `none` in what `cutAt` gives. -/
def fillGaps (replacement : List Char) (cs : List (Option Char)) : List Char :=
  cs.flatMap fun c => c.elim replacement fun c => [c]

section Gaps

variable {first : Char} {more : List Char}

/-- `replaceChars` fills the gaps that `cutAt` leaves, so what is put in is not searched again. -/
theorem replaceChars_eq_fillGaps (replacement cs : List Char) :
    replaceChars first more replacement cs = fillGaps replacement (cutAt first more cs) := by
  fun_induction replaceChars first more replacement cs with
  | case1 => rw [cutAt]; rfl
  | case2 c rest hoccurs ih =>
    rw [cutAt, if_pos hoccurs, ih]
    rfl
  | case3 c rest hoccurs ih =>
    rw [cutAt, if_neg hoccurs, ih]
    rfl

/-- The characters of a text in which a pattern was replaced. The pattern must not be empty, and is
given by its first character and the others. -/
theorem toList_replaceAll {pattern : String} (hpattern : pattern.toList = first :: more)
    (replacement s : String) :
    (replaceAll pattern replacement s).toList =
      fillGaps replacement.toList (cutAt first more s.toList) := by
  rw [replaceAll, hpattern]
  exact String.toList_ofList.trans (replaceChars_eq_fillGaps _ _)

/-- The pattern in front of a text leaves a gap in front of it, and `cutAt` goes on behind the
pattern. -/
theorem cutAt_pattern_append (rest : List Char) :
    cutAt first more (first :: (more ++ rest)) = none :: cutAt first more rest := by
  have hbegins : more.isPrefixOf (more ++ rest) = true :=
    List.isPrefixOf_iff_prefix.2 (List.prefix_append more rest)
  rw [cutAt, hbegins, List.drop_left]
  simp

/-- A character with which the pattern does not begin is kept by `cutAt`, which goes on with the
next one. -/
theorem cutAt_cons_of_not_begins {c : Char} {rest : List Char}
    (h : ¬first :: more <+: c :: rest) :
    cutAt first more (c :: rest) = some c :: cutAt first more rest := by
  rw [cutAt, if_neg]
  intro hoccurs
  rw [Bool.and_eq_true, decide_eq_true_eq, List.isPrefixOf_iff_prefix] at hoccurs
  exact h (List.cons_prefix_cons.2 ⟨hoccurs.1.symm, hoccurs.2⟩)

/-- A text in which the pattern begins nowhere is kept, whatever stands behind it. It has to begin
nowhere with the rest behind it too, since an occurrence may reach over the end of the text. -/
theorem cutAt_append_of_free {cs : List Char} (rest : List Char)
    (h : ∀ behind, behind ≠ [] → behind <:+ cs → ¬first :: more <+: behind ++ rest) :
    cutAt first more (cs ++ rest) = cs.map some ++ cutAt first more rest := by
  induction cs with
  | nil => rfl
  | cons c cs ih =>
    -- The pattern begins nowhere in front of the cut, not even where it would reach over it.
    have hhere : ¬first :: more <+: c :: (cs ++ rest) :=
      h (c :: cs) (List.cons_ne_nil c cs) List.suffix_rfl
    rw [List.cons_append, cutAt_cons_of_not_begins hhere,
      ih fun behind hne hbehind => h behind hne (hbehind.trans (List.suffix_cons c cs))]
    rfl

/-- A pattern that occurs leaves a gap. The gap need not be at this occurrence, because one to the
left of it may overlap it. -/
theorem none_mem_cutAt {cs : List Char} (h : first :: more <:+: cs) :
    none ∈ cutAt first more cs := by
  induction cs with
  | nil => exact absurd (List.eq_nil_of_infix_nil h) (List.cons_ne_nil first more)
  | cons c cs ih =>
    -- Found here it leaves a gap; else it occurs further behind.
    by_cases hbegins : first :: more <+: c :: cs
    · obtain ⟨rest, hrest⟩ := hbegins
      rw [← hrest, List.cons_append, cutAt_pattern_append]
      exact List.mem_cons_self
    · rw [cutAt_cons_of_not_begins hbegins]
      refine List.mem_cons_of_mem _ (ih ?_)
      exact (List.infix_cons_iff.1 h).resolve_left hbegins

end Gaps

/-- What is put into the gaps tells where they are: texts with gaps that are the same whatever is
put in are the same. -/
theorem eq_of_forall_fillGaps_eq {cs ds : List (Option Char)}
    (h : ∀ replacement, fillGaps replacement cs = fillGaps replacement ds) : cs = ds := by
  induction cs generalizing ds with
  | nil =>
    cases ds with
    | nil => rfl
    | cons d ds =>
      have hone := h ['a']
      cases d <;> simp [fillGaps] at hone
  | cons c cs ih =>
    cases ds with
    | nil =>
      have hone := h ['a']
      cases c <;> simp [fillGaps] at hone
    | cons d ds =>
      -- A gap is told from a character by putting in another character.
      have hother : ∀ e : Char, ∃ e' : Char, e' ≠ e := by
        intro e
        by_cases he : e = 'a'
        · exact ⟨'b', by rw [he]; decide⟩
        · exact ⟨'a', fun heq => he heq.symm⟩
      cases c with
      | none =>
        cases d with
        | none => rw [ih fun replacement => List.append_cancel_left (h replacement)]
        | some d =>
          obtain ⟨e, hne⟩ := hother d
          have hone := h [e]
          simp [fillGaps, hne] at hone
      | some c =>
        cases d with
        | none =>
          obtain ⟨e, hne⟩ := hother c
          have hone := h [e]
          simp [fillGaps, hne.symm] at hone
        | some d =>
          have hcons := fun replacement => List.cons.inj (h replacement)
          rw [(hcons []).1, ih fun replacement => (hcons replacement).2]

end WrapperModel.Text
