import WrapperModel.Proofs.Usage.Alternation

/-!
# `WrapperModel.Proofs.Usage.Locality`: usage templates that are read part by part

An item of a usage template reaches beyond its first token in two ways: bars take the tokens
next to them into it, and it may take one repetition behind it. Where tokens are cut in two
at a place that neither of these crosses, the two parts are read apart and their parameters
stand side by side.

* `parameters_append_of_not_takenBehind`: a cut between two tokens that are no bars, where
  the second is not taken by the item in front.
* `parameters_append`: a cut in front of a token that is not even written like the end of a
  repetition.
-/

set_option autoImplicit false

namespace WrapperModel.Usage

open WrapperModel.Text

/-- A token that is written as a repetition (`isRepetition`) ends as one, with dots and a bracket.
The converse fails, which makes the condition of `parameters_append` a little stronger than need
be. -/
theorem endsWith_of_isRepetition {token : String} (h : isRepetition token.toList = true) :
    endsWith "...]" token = true :=
  (Bool.and_eq_true_iff.1 h).2

/-- Tokens that do not end in a bar and a token that is neither a bar nor `TakenBehind` them are
read apart. A bar and a lookahead are the two ways in which an item reaches beyond its first
token. -/
theorem parameters_append_of_not_takenBehind {before more : List String} {next : String}
    (hlast : before.getLast? ≠ some "|") (hnext : next ≠ "|")
    (h : ¬TakenBehind before (next :: more)) :
    parameters (before ++ next :: more) = parameters before ++ parameters (next :: more) := by
  -- The items in front are passed one after the other. Each is the same with and without the
  -- tokens behind the cut, since it looks no further than one token that stands before it.
  induction hlength : before.length using Nat.strongRecOn generalizing before with
  | ind length ih =>
    cases before with
    | nil => rw [List.nil_append, parameters, List.nil_append]
    | cons token rest =>
      obtain ⟨alternatives, following, rfl, rfl | hfollowing⟩ := exists_barred rest
      · -- All of it is one item with a bar at its end, which is excluded.
        refine absurd ?_ hlast
        rw [← List.cons_append, List.getLast?_concat]
      · cases following with
        | nil =>
          -- The item ends at the cut.
          rw [List.append_nil] at h ⊢
          exact parameters_append_of_not_taken hnext h
        | cons first later =>
          obtain ⟨segment, shorter, p, hsplit, hle, hreads⟩ :=
            exists_segment_in_front token first alternatives later (by simpa using hfollowing)
          have halone : parameters (segment.tokens ++ shorter) = p :: parameters shorter := by
            have hreads := hreads []
            rw [List.append_nil] at hreads
            exact parameters_of_reads hreads
          rw [hsplit] at h hlast ⊢
          rw [List.append_assoc, parameters_of_reads (hreads _), halone,
            ih shorter.length ?_ ?_ ?_ rfl, List.cons_append]
          · subst hlength
            simp only [List.length_cons, List.length_append]
            omega
          · intro hbar
            exact hlast (by rw [List.getLast?_append, hbar, Option.some_or])
          · intro htaken
            exact h (htaken.append (hreads _))

/-- Reading is local. Where tokens are cut in two, the `parameters` of both parts stand side by
side, if there is no bar at the cut and the second part does not begin with a token that ends as a
repetition does. A bar would join the items at both sides of the cut, and a repetition might belong
to the item in front of it. The last condition is on the token alone, so it can be checked without
reading what stands in front. -/
theorem parameters_append {before behind : List String} (hlast : before.getLast? ≠ some "|")
    (hfirst : ∀ token ∈ behind.head?, token ≠ "|" ∧ endsWith "...]" token = false) :
    parameters (before ++ behind) = parameters before ++ parameters behind := by
  cases behind with
  | nil => rw [parameters, List.append_nil, List.append_nil]
  | cons next more =>
    obtain ⟨hbar, hending⟩ := hfirst next rfl
    apply parameters_append_of_not_takenBehind hlast hbar
    -- What is taken is a repetition, and those end in dots and a bracket.
    intro htaken
    have hrepetition := endsWith_of_isRepetition (isRepetition_of_takenBehind htaken)
    exact Bool.false_ne_true (hending.symm.trans hrepetition)

/-- An alternation, a map with its repetition and a bar that is an alternative itself stand
in front of the cut, and a list with its repetition behind it. -/
theorem parameters_append_sources :
    (["docker", "PATH", "|", "-", "KEY=VALUE", "[KEY=VALUE...]", "ID", "|", "|", "self"].getLast? ≠
        some "|" ∧
      ∀ token ∈ ["NODE", "[NODE...]"].head?, token ≠ "|" ∧ endsWith "...]" token = false) ∧
    parameters
        (["docker", "PATH", "|", "-", "KEY=VALUE", "[KEY=VALUE...]", "ID", "|", "|", "self"] ++
          ["NODE", "[NODE...]"]) =
      parameters
          ["docker", "PATH", "|", "-", "KEY=VALUE", "[KEY=VALUE...]", "ID", "|", "|", "self"] ++
        parameters ["NODE", "[NODE...]"] ∧
    parameters ["NODE", "[NODE...]"] = [⟨"NODE", true, false⟩] :=
  ⟨⟨by decide, by decide⟩, parameters_append (by decide) (by decide), by decide +kernel⟩

end WrapperModel.Usage
