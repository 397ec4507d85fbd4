import WrapperModel.Json.Printer
import WrapperModel.Json.Token
import WrapperModel.Proofs.Json.Quoted

/-!
# `WrapperModel.Proofs.Json.Token`: scanning part by part

`Advances cs tokens rest` says that scanning `cs` gives the lexemes and goes on with `rest`,
whatever was scanned before. It is transitive, so a text is scanned part by part:

* `advances_newLine`: the white space in front of an item.
* `advances_lexeme`, `advances_quote`: a mark or a word, and a text between quotes.
* `advances_number`: a number. It ends where a character follows that could not belong to
  it; `IsApart` says so of what stands behind.
-/

set_option autoImplicit false

namespace WrapperModel.Json

/-! ### Scanning part by part -/

/-- Scanning `cs` gives the lexemes and goes on with `rest`, whatever was scanned before. The bounds
on the characters that are left only have to be large enough, so parts can be put together without
counting. -/
def Advances (cs : List Char) (tokens : List Token) (rest : List Char) : Prop :=
  ∀ done bound, cs.length ≤ bound → ∃ left, rest.length ≤ left ∧
    tokensWithin? done bound cs = tokensWithin? (tokens.reverse ++ done) left rest

/-- Nothing is scanned on the spot, and there is no lexeme. With `Advances.trans` it makes chains of
steps. -/
theorem Advances.refl (cs : List Char) : Advances cs [] cs :=
  fun _ bound hbound => ⟨bound, hbound, rfl⟩

/-- One part is scanned after the other, and the lexemes are those of both. So the parts of a text
can be proved apart. -/
theorem Advances.trans {cs mid rest : List Char} {tokens more : List Token}
    (h : Advances cs tokens mid) (h' : Advances mid more rest) :
    Advances cs (tokens ++ more) rest := by
  intro done bound hbound
  obtain ⟨left, hleft, hscan⟩ := h done bound hbound
  obtain ⟨left', hleft', hscan'⟩ := h' (tokens.reverse ++ done) left hleft
  refine ⟨left', hleft', ?_⟩
  rw [hscan, hscan', List.reverse_append, List.append_assoc]

/-- White space (`isSpace`) gives no lexeme, wherever it stands. -/
theorem advances_space {c : Char} (hc : isSpace c = true) (rest : List Char) :
    Advances (c :: rest) [] rest := by
  intro done bound hbound
  cases bound with
  | zero => simp at hbound
  | succ left =>
    refine ⟨left, by simpa using hbound, ?_⟩
    rw [tokensWithin?, if_pos hc]
    rfl

/-- Spaces give no lexemes, however many (`advances_space`): they are the indentation of a line. -/
theorem advances_replicate (n : Nat) (rest : List Char) :
    Advances (List.replicate n ' ' ++ rest) [] rest := by
  induction n with
  | zero => exact .refl rest
  | succ n ih => exact (advances_space (c := ' ') rfl _).trans ih

/-- The break and the indentation of a `newLine` give no lexemes, at any depth. -/
theorem advances_newLine (depth : Nat) (rest : List Char) :
    Advances (newLine depth ++ rest) [] rest :=
  (advances_space (c := '\n') rfl _).trans (advances_replicate (2 * depth) rest)

/-- A lexeme is scanned if white space does not begin it and something shorter is left. The bound of
the scanner then covers what is left. -/
theorem advances_lexeme {c : Char} {cs rest : List Char} {token : Token}
    (hc : isSpace c = false) (hlexeme : lexeme? c cs = some (token, rest))
    (hshort : rest.length ≤ cs.length) : Advances (c :: cs) [token] rest := by
  intro done bound hbound
  cases bound with
  | zero => simp at hbound
  | succ left =>
    refine ⟨left, Nat.le_trans hshort (by simpa using hbound), ?_⟩
    rw [tokensWithin?, if_neg (by simp [hc]), hlexeme]
    rfl

/-- A text between quotes is one lexeme, whatever follows (`quoted?_quote`). -/
theorem advances_quote (s : String) (rest : List Char) :
    Advances (quote s.toList ++ rest) [.string (some s)] rest := by
  have hread := quoted?_quote s.toList rest
  rw [String.ofList_toList] at hread
  have hcs : quote s.toList ++ rest = '"' :: (s.toList.flatMap escapeChar ++ '"' :: rest) := by
    simp [quote]
  rw [hcs]
  refine advances_lexeme (by decide) ?_ ?_
  · simp [lexeme?, hread]
  · simp only [List.length_append, List.length_cons]
    omega

/-! ### Numbers -/

/-- A character that can go on with a number: a digit, the point, the letter of the power of ten, a
sign. -/
def isNumberChar (c : Char) : Bool :=
  isDigit c || ['.', 'e', 'E', '+', '-'].contains c

/-- What follows cannot go on with a number (`isNumberChar`). The end of the text is apart. -/
def IsApart (rest : List Char) : Prop :=
  ∀ c ∈ rest.head?, isNumberChar c = false

/-- What is apart (`IsApart`) does not begin with a digit, so digits end in front of it. -/
theorem IsApart.isDigit_eq_false {rest : List Char} (h : IsApart rest) :
    ∀ c ∈ rest.head?, isDigit c = false := by
  intro c hc
  have := h c hc
  simp only [isNumberChar, Bool.or_eq_false_iff] at this
  exact this.1

/-- Digits in front are told apart from the rest in the same way whatever stands apart behind
(`IsApart`). -/
theorem digits?_append {cs digits rest tail : List Char} (htail : IsApart tail)
    (h : digits? cs = some (digits, rest)) :
    digits? (cs ++ tail) = some (digits, rest ++ tail) := by
  -- What stands apart begins with no digit, so the run ends where it did.
  have hstop : tail.takeWhile isDigit = [] ∧ tail.dropWhile isDigit = tail := by
    cases tail with
    | nil => simp
    | cons c more => simp [htail.isDigit_eq_false c rfl]
  have hsplit : (cs ++ tail).takeWhile isDigit = cs.takeWhile isDigit ∧
      (cs ++ tail).dropWhile isDigit = cs.dropWhile isDigit ++ tail := by
    clear h
    induction cs with
    | nil => simpa using hstop
    | cons c more ih =>
      by_cases hc : isDigit c = true
      · simpa [hc] using ih
      · simp [hc]
  simp only [digits?] at h ⊢
  rw [hsplit.1, hsplit.2]
  split at h
  · simp at h
  · rename_i hdigits
    rw [Option.some.injEq, Prod.mk.injEq] at h
    rw [if_neg hdigits, h.1, h.2]

/-- The whole part of a number (`whole?`) is read in the same way whatever stands apart behind, as
its digits are. -/
theorem whole?_append {cs whole rest tail : List Char} (htail : IsApart tail)
    (h : whole? cs = some (whole, rest)) : whole? (cs ++ tail) = some (whole, rest ++ tail) := by
  unfold whole? at h
  split at h
  · -- A zero is a whole number of its own; the character behind it has to be no digit.
    rename_i behind
    cases behind with
    | nil =>
      rw [Option.some.injEq, Prod.mk.injEq] at h
      obtain ⟨rfl, rfl⟩ := h
      cases tail with
      | nil => rfl
      | cons c more => simp [whole?, htail.isDigit_eq_false c rfl]
    | cons c more =>
      dsimp only at h
      split at h
      · simp at h
      · rename_i hc
        rw [Option.some.injEq, Prod.mk.injEq] at h
        obtain ⟨rfl, rfl⟩ := h
        simp [whole?, hc]
  · -- Without a zero in front the whole number is a run of digits.
    rename_i hzero
    cases cs with
    | nil => simp [digits?] at h
    | cons c more =>
      have hne : c ≠ '0' := fun hc => hzero more (by rw [hc])
      rw [← digits?_append htail h, List.cons_append]
      simp [whole?, hne]

/-- The part behind the point is read in the same way whatever stands apart behind. The point itself
would go on with a number. -/
theorem fraction?_append {cs fraction rest tail : List Char} (htail : IsApart tail)
    (h : fraction? cs = some (fraction, rest)) :
    fraction? (cs ++ tail) = some (fraction, rest ++ tail) := by
  unfold fraction? at h
  split at h
  · rename_i behind
    obtain ⟨⟨digits, rest'⟩, hdigits, heq⟩ := Option.map_eq_some_iff.1 h
    rw [Prod.mk.injEq] at heq
    obtain ⟨rfl, rfl⟩ := heq
    simp [fraction?, digits?_append htail hdigits]
  · rename_i hpoint
    rw [Option.some.injEq, Prod.mk.injEq] at h
    obtain ⟨rfl, rfl⟩ := h
    -- No point comes up behind: it would stand in the number already, or begin the tail.
    have hhead : ∀ more, cs ++ tail ≠ '.' :: more := by
      intro more heq
      cases cs with
      | nil =>
        rw [List.nil_append] at heq
        exact absurd (htail '.' (by simp [heq])) (by decide)
      | cons c rest' =>
        rw [List.cons_append, List.cons.injEq] at heq
        exact hpoint rest' (by rw [heq.1])
    unfold fraction?
    split
    · rename_i more heq
      exact absurd heq (hhead more)
    · rfl

/-- Where digits follow the sign of an exponent, the sign is read in the same way whatever follows:
the digits keep `tail` away from it. -/
theorem sign_append {cs digits rest : List Char} (tail : List Char)
    (h : digits? (sign cs).2 = some (digits, rest)) :
    sign (cs ++ tail) = ((sign cs).1, (sign cs).2 ++ tail) := by
  -- There are digits behind the sign, so the text in front of the tail is not empty.
  cases cs with
  | nil => simp [sign, digits?] at h
  | cons c more =>
    by_cases hplus : c = '+'
    · simp [sign, hplus]
    · by_cases hminus : c = '-'
      · simp [sign, hminus]
      · simp [sign, hplus, hminus]

/-- The power of ten is read in the same way whatever stands apart behind. Its letter and its sign
would go on with a number. -/
theorem exponent?_append {cs exponent rest tail : List Char} (htail : IsApart tail)
    (h : exponent? cs = some (exponent, rest)) :
    exponent? (cs ++ tail) = some (exponent, rest ++ tail) := by
  cases cs with
  | nil =>
    simp only [exponent?, Option.some.injEq, Prod.mk.injEq] at h
    obtain ⟨rfl, rfl⟩ := h
    cases tail with
    | nil => rfl
    | cons c more =>
      have hc : isNumberChar c = false := htail c rfl
      -- What stands apart begins with no letter of a number.
      have hmark : ¬(c = 'e' ∨ c = 'E') := by
        rintro (rfl | rfl) <;> exact absurd hc (by decide)
      simp [exponent?, hmark]
  | cons e more =>
    simp only [exponent?] at h
    rw [List.cons_append]
    simp only [exponent?]
    split at h
    · rename_i hmark
      rw [if_pos hmark]
      obtain ⟨⟨digits, rest'⟩, hdigits, heq⟩ := Option.map_eq_some_iff.1 h
      rw [Prod.mk.injEq] at heq
      obtain ⟨rfl, rfl⟩ := heq
      rw [sign_append tail hdigits]
      dsimp only
      rw [digits?_append htail hdigits]
      rfl
    · rename_i hmark
      rw [if_neg hmark]
      rw [Option.some.injEq, Prod.mk.injEq] at h
      obtain ⟨rfl, rfl⟩ := h
      rfl

/-- The sign of a number, and what stands behind it. It names the first step of `number?`. -/
def minusSign : List Char → List Char × List Char
  | '-' :: rest => (['-'], rest)
  | cs => ([], cs)

/-- A number is read part by part, behind its sign, each part from what the last one left. It is
`number?` in a form that can be taken apart. -/
theorem number?_eq_bind (cs : List Char) :
    number? cs = (whole? (minusSign cs).2).bind fun whole =>
      (fraction? whole.2).bind fun fraction =>
        (exponent? fraction.2).bind fun exponent =>
          some ((minusSign cs).1 ++ whole.1 ++ fraction.1 ++ exponent.1, exponent.2) := by
  unfold number?
  split
  rename_i minus rest heq
  have hsign : minusSign cs = (minus, rest) := heq
  rw [hsign]
  rfl

/-- A number is its sign and its three parts, one behind the other, with what each of them leaves
for the next. -/
theorem number?_eq_some_iff {cs written rest : List Char} :
    number? cs = some (written, rest) ↔
      ∃ whole fraction exponent, ∃ behind behind',
        whole? (minusSign cs).2 = some (whole, behind) ∧
        fraction? behind = some (fraction, behind') ∧
        exponent? behind' = some (exponent, rest) ∧
        (minusSign cs).1 ++ whole ++ fraction ++ exponent = written := by
  rw [number?_eq_bind]
  -- The parts of a number are read one behind the other.
  constructor
  · intro h
    obtain ⟨⟨whole, behind⟩, hwhole, h⟩ := Option.bind_eq_some_iff.1 h
    obtain ⟨⟨fraction, behind'⟩, hfraction, h⟩ := Option.bind_eq_some_iff.1 h
    obtain ⟨⟨exponent, rest'⟩, hexponent, h⟩ := Option.bind_eq_some_iff.1 h
    cases h
    exact ⟨whole, fraction, exponent, behind, behind', hwhole, hfraction, hexponent, rfl⟩
  · rintro ⟨whole, fraction, exponent, behind, behind', hwhole, hfraction, hexponent, rfl⟩
    simp [hwhole, hfraction, hexponent]

/-- A number is read in the same way whatever stands apart behind. The parts are read one after the
other, so each has the next one or `tail` behind it. -/
theorem number?_append {cs written rest tail : List Char} (htail : IsApart tail)
    (h : number? cs = some (written, rest)) :
    number? (cs ++ tail) = some (written, rest ++ tail) := by
  rw [number?_eq_some_iff] at h ⊢
  obtain ⟨whole, fraction, exponent, behind, behind', hwhole, hfraction, hexponent, hwritten⟩ := h
  -- The sign is the first character, which is there because digits follow it.
  have hsign : minusSign (cs ++ tail) = ((minusSign cs).1, (minusSign cs).2 ++ tail) := by
    cases cs with
    | nil => simp [minusSign, whole?, digits?] at hwhole
    | cons c more =>
      by_cases hc : c = '-'
      · simp [minusSign, hc]
      · simp [minusSign, hc]
  rw [hsign]
  exact ⟨whole, fraction, exponent, behind ++ tail, behind' ++ tail, whole?_append htail hwhole,
    fraction?_append htail hfraction, exponent?_append htail hexponent, hwritten⟩

/-- A number, as `number?` reads it, begins with a digit or a minus sign, so no other lexeme begins
like one. -/
theorem exists_cons_of_number? {cs written rest : List Char}
    (h : number? cs = some (written, rest)) :
    ∃ c more, cs = c :: more ∧ (c = '-' ∨ isDigit c = true) := by
  obtain ⟨whole, _, _, behind, _, hwhole, -⟩ := number?_eq_some_iff.1 h
  cases cs with
  | nil => simp [minusSign, whole?, digits?] at hwhole
  | cons c more =>
    refine ⟨c, more, rfl, ?_⟩
    by_cases hc : c = '-'
    · exact .inl hc
    · have hsign : minusSign (c :: more) = ([], c :: more) := by simp [minusSign, hc]
      rw [hsign] at hwhole
      -- Without the sign the whole number begins with its first character.
      refine .inr ?_
      by_cases hdigit : isDigit c = true
      · exact hdigit
      · have hzero : c ≠ '0' := by
          rintro rfl
          exact hdigit (by decide)
        simp [whole?, hzero, digits?, hdigit] at hwhole

/-- A number is one lexeme, if nothing that could belong to it follows (`IsApart`). -/
theorem advances_number {written tail : List Char} (htail : IsApart tail)
    (h : number? written = some (written, [])) :
    Advances (written ++ tail) [.number (String.ofList written)] tail := by
  have hread := number?_append htail h
  obtain ⟨c, more, hcs, hc⟩ := exists_cons_of_number? h
  rw [hcs, List.cons_append] at hread ⊢
  -- Neither a digit nor the minus sign begins another lexeme or is white space.
  have hother : ∀ d ∈ ['[', ']', '\x7b', '\x7d', ',', ':', '"', 'n', 't', 'f', ' ', '\t', '\n',
      '\r'], c ≠ d := by
    intro d hd hcd
    subst hcd
    rcases hc with rfl | hc
    · exact absurd hd (by decide)
    · have hmarks : ['[', ']', '\x7b', '\x7d', ',', ':', '"', 'n', 't', 'f', ' ', '\t', '\n',
          '\r'].all (fun d => !isDigit d) = true := by decide
      have hnoDigit := List.all_eq_true.1 hmarks c hd
      rw [hc] at hnoDigit
      exact Bool.noConfusion hnoDigit
  simp only [List.mem_cons, List.not_mem_nil, or_false, forall_eq_or_imp, forall_eq] at hother
  refine advances_lexeme (by simp [isSpace, hother]) ?_ (by simp)
  simp only [lexeme?, hother, if_false, hread]
  rfl

end WrapperModel.Json
