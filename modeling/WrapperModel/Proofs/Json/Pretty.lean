import WrapperModel.Json.Printer
import WrapperModel.Json.Reader
import WrapperModel.Proofs.Json.Token

/-!
# `WrapperModel.Proofs.Json.Pretty`: a written value reads back

A value can be written if its strings and keys denote texts and its numbers are written as
numbers. Between the text and the value stand the lexemes, so there are two inductions over
the value:

* `scansAs_prettyChars`: the text of a value is scanned as its `lexemes`.
* `readsAs_lexemes`: the lexemes of a value are read as the value.
* `ofText?_pretty`: the text of a value that can be written is read as that value.
-/

set_option autoImplicit false

namespace WrapperModel.Json

/-- The value can be written: every string in it denotes a text, and every number is written as one
by the rules of `number?`. All values that models and definitions are written as are of this
kind. -/
inductive Writable : Json → Prop
  | null : Writable .null
  | bool (value : Bool) : Writable (.bool value)
  | number {written : String} (h : number? written.toList = some (written.toList, [])) :
      Writable (.number written)
  | text (s : String) : Writable (.string (some s))
  | array {items : List Json} (h : ∀ item ∈ items, Writable item) : Writable (.array items)
  | object {members : List (Option String × Json)}
      (hkeys : ∀ member ∈ members, ∃ key, member.1 = some key)
      (h : ∀ member ∈ members, Writable member.2) : Writable (.object members)

/-! ### The lexemes of a value -/

mutual

/-- The lexemes of a value, in the order in which its text has them. They stand between the text and
the value, so that scanning and reading can be proved apart. -/
def lexemes : Json → List Token
  | .null => [.null]
  | .bool value => [.bool value]
  | .number written => [.number written]
  | .string text => [.string text]
  | .array [] => [.beginArray, .endArray]
  | .array (item :: items) =>
    .beginArray :: (lexemes item ++ (furtherLexemes items ++ [.endArray]))
  | .object [] => [.beginObject, .endObject]
  | .object (member :: members) =>
    .beginObject :: (memberLexemes member ++ (furtherMemberLexemes members ++ [.endObject]))

/-- The lexemes of the further items of an array, each behind a comma, as `prettyItems` writes
them. -/
def furtherLexemes : List Json → List Token
  | [] => []
  | item :: items => .comma :: (lexemes item ++ furtherLexemes items)

/-- The lexemes of a member of an object: its key, a colon, its value. The key is one lexeme even if
it is no text. -/
def memberLexemes : Option String × Json → List Token
  | (key, value) => .string key :: .colon :: lexemes value

/-- The lexemes of the further members of an object, each behind a comma, as `prettyMembers` writes
them. -/
def furtherMemberLexemes : List (Option String × Json) → List Token
  | [] => []
  | member :: members => .comma :: (memberLexemes member ++ furtherMemberLexemes members)

end

/-- A value begins with a lexeme, which does not close an array. So the first item of an array is
not mistaken for its end. -/
theorem exists_lexemes_cons (value : Json) :
    ∃ token rest, lexemes value = token :: rest ∧ token ≠ .endArray := by
  cases value with
  | array items => cases items <;> simp [lexemes]
  | object members => cases members <;> simp [lexemes]
  | null | bool _ | number _ | string _ => simp [lexemes]

/-! ### From the text to the lexemes -/

/-- The text is scanned as the lexemes, wherever it stands before something that it can be told
apart from (`IsApart`). Only numbers need that, but a value may end with one. -/
def ScansAs (cs : List Char) (tokens : List Token) : Prop :=
  ∀ rest, IsApart rest → Advances (cs ++ rest) tokens rest

/-- What begins with a character outside of numbers is apart (`IsApart`). Everything that follows a
value in a written text is of this kind. -/
theorem isApart_cons {c : Char} (hc : isNumberChar c = false) (cs : List Char) :
    IsApart (c :: cs) := by
  intro d hd
  rw [List.head?_cons, Option.mem_some_iff] at hd
  rw [← hd, hc]

/-- One mark is one lexeme, whatever follows it. The table of `lexeme?` decides it for each of the
six marks. -/
theorem advances_mark (c : Char) (token : Token) (hspace : isSpace c = false)
    (hc : ∀ rest, lexeme? c rest = some (token, rest)) (rest : List Char) :
    Advances (c :: rest) [token] rest :=
  advances_lexeme hspace (hc rest) (Nat.le_refl _)

/-- An item and the further items are scanned behind a comma on a line of their own. What stands
behind the item has to begin apart, which `hapart` says of the further ones. -/
theorem ScansAs.further {cs more : List Char} {tokens moreTokens : List Token} (depth : Nat)
    (hcs : ScansAs cs tokens) (hmore : ScansAs more moreTokens)
    (hapart : ∀ rest, IsApart rest → IsApart (more ++ rest)) :
    ScansAs (',' :: newLine depth ++ cs ++ more) (.comma :: (tokens ++ moreTokens)) := by
  intro rest hrest
  have hcomma := advances_mark ',' .comma (by decide) (fun _ => rfl)
    (newLine depth ++ (cs ++ (more ++ rest)))
  have hline := advances_newLine depth (cs ++ (more ++ rest))
  have hitem := hcs (more ++ rest) (hapart rest hrest)
  have hall := hcomma.trans (hline.trans (hitem.trans (hmore rest hrest)))
  simpa using hall

/-- Items are scanned between their brackets, which stand on lines of their own. One lemma for
arrays and objects, whose brackets and lexemes are parameters. -/
theorem ScansAs.enclosed {opening closing : Char} {first last : Token} {cs more : List Char}
    {tokens moreTokens : List Token} (depth : Nat) (hcs : ScansAs cs tokens)
    (hmore : ScansAs more moreTokens) (hapart : ∀ rest, IsApart rest → IsApart (more ++ rest))
    (hopening : ∀ rest, Advances (opening :: rest) [first] rest)
    (hclosing : ∀ rest, Advances (closing :: rest) [last] rest) :
    ScansAs (opening :: newLine (depth + 1) ++ cs ++ more ++ newLine depth ++ [closing])
      (first :: (tokens ++ (moreTokens ++ [last]))) := by
  intro rest _
  -- The closing bracket stands on a line of its own, so the last item ends there.
  have hend : IsApart (newLine depth ++ closing :: rest) := isApart_cons (by decide) _
  have hline := advances_newLine (depth + 1) (cs ++ (more ++ (newLine depth ++ closing :: rest)))
  have hitem := hcs (more ++ (newLine depth ++ closing :: rest)) (hapart _ hend)
  have hitems := hmore (newLine depth ++ closing :: rest) hend
  have hlast := (advances_newLine depth (closing :: rest)).trans (hclosing rest)
  have hall := (hopening _).trans (hline.trans (hitem.trans (hitems.trans hlast)))
  simpa using hall

/-- Further items begin apart, with a comma, or are none, and then it is `rest` that has to be
apart. -/
theorem isApart_prettyItems (depth : Nat) (items : List Json) (rest : List Char)
    (hrest : IsApart rest) : IsApart (prettyItems depth items ++ rest) := by
  cases items with
  | nil => exact hrest
  | cons item items =>
    rw [prettyItems, List.cons_append]
    exact isApart_cons (by decide) _

/-- Further members begin apart, with a comma, or are none, and then it is `rest` that has to be
apart. -/
theorem isApart_prettyMembers (depth : Nat) (members : List (Option String × Json))
    (rest : List Char) (hrest : IsApart rest) :
    IsApart (prettyMembers depth members ++ rest) := by
  cases members with
  | nil => exact hrest
  | cons member members =>
    rw [prettyMembers, List.cons_append]
    exact isApart_cons (by decide) _

/-- Further items are scanned as their `furtherLexemes` if each of them is scanned. -/
theorem scansAs_prettyItems {items : List Json} {depth : Nat}
    (h : ∀ item ∈ items, ScansAs (prettyChars depth item) (lexemes item)) :
    ScansAs (prettyItems depth items) (furtherLexemes items) := by
  induction items with
  | nil => exact fun rest _ => .refl rest
  | cons item items ih =>
    rw [prettyItems, furtherLexemes]
    exact .further depth (h item List.mem_cons_self)
      (ih fun item hitem => h item (List.mem_cons_of_mem _ hitem)) (isApart_prettyItems depth items)

/-- A member is scanned if its key denotes a text and its value is scanned. -/
theorem scansAs_prettyMember {key : String} {value : Json} {depth : Nat}
    (h : ScansAs (prettyChars depth value) (lexemes value)) :
    ScansAs (prettyMember depth (some key, value)) (memberLexemes (some key, value)) := by
  intro rest hrest
  have hkey := advances_quote key (':' :: ' ' :: (prettyChars depth value ++ rest))
  have hcolon := advances_mark ':' .colon (by decide) (fun _ => rfl)
    (' ' :: (prettyChars depth value ++ rest))
  have hspace := advances_space (c := ' ') rfl (prettyChars depth value ++ rest)
  have hall := hkey.trans (hcolon.trans (hspace.trans (h rest hrest)))
  simpa [prettyMember, memberLexemes, quoteText] using hall

/-- Further members are scanned as their `furtherMemberLexemes` if each of them is scanned. -/
theorem scansAs_prettyMembers {members : List (Option String × Json)} {depth : Nat}
    (h : ∀ member ∈ members, ScansAs (prettyMember depth member) (memberLexemes member)) :
    ScansAs (prettyMembers depth members) (furtherMemberLexemes members) := by
  induction members with
  | nil => exact fun rest _ => .refl rest
  | cons member members ih =>
    rw [prettyMembers, furtherMemberLexemes]
    exact .further depth (h member List.mem_cons_self)
      (ih fun member hmember => h member (List.mem_cons_of_mem _ hmember))
      (isApart_prettyMembers depth members)

/-- A value that can be written is scanned as its `lexemes`, at every depth. The induction is on
what makes it writable, and the depth changes from level to level. -/
theorem scansAs_prettyChars {value : Json} (h : Writable value) :
    ∀ depth, ScansAs (prettyChars depth value) (lexemes value) := by
  -- By induction on the value, for every depth at once: items stand one level deeper.
  induction h with
  | null =>
    intro depth rest _
    exact advances_lexeme (c := 'n') (by decide) rfl (by simp; omega)
  | bool value =>
    intro depth rest _
    cases value with
    | true => exact advances_lexeme (c := 't') (by decide) rfl (by simp; omega)
    | false => exact advances_lexeme (c := 'f') (by decide) rfl (by simp; omega)
  | @number written hwritten =>
    intro depth rest hrest
    have hnumber := advances_number hrest hwritten
    -- Only a number has to know what follows it.
    rw [String.ofList_toList] at hnumber
    simpa [prettyChars, lexemes] using hnumber
  | text s => exact fun depth rest _ => advances_quote s rest
  | @array items hitems ih =>
    intro depth
    have hopening := advances_mark '[' .beginArray (by decide) fun _ => rfl
    have hclosing := advances_mark ']' .endArray (by decide) fun _ => rfl
    cases items with
    | nil => exact fun rest _ => (hopening _).trans (hclosing rest)
    | cons item items =>
      rw [prettyChars, lexemes]
      refine .enclosed depth (ih item List.mem_cons_self (depth + 1)) ?_
        (isApart_prettyItems (depth + 1) items) hopening hclosing
      exact scansAs_prettyItems fun item hitem =>
        ih item (List.mem_cons_of_mem _ hitem) (depth + 1)
  | @object members hkeys hmembers ih =>
    intro depth
    have hopening := advances_mark '\x7b' .beginObject (by decide) fun _ => rfl
    have hclosing := advances_mark '\x7d' .endObject (by decide) fun _ => rfl
    have hmember : ∀ member ∈ members,
        ScansAs (prettyMember (depth + 1) member) (memberLexemes member) := by
      rintro ⟨key?, value⟩ hmem
      obtain ⟨key, rfl⟩ := hkeys _ hmem
      exact scansAs_prettyMember (ih _ hmem (depth + 1))
    cases members with
    | nil => exact fun rest _ => (hopening _).trans (hclosing rest)
    | cons member members =>
      rw [prettyChars, lexemes]
      refine .enclosed depth (hmember member List.mem_cons_self) ?_
        (isApart_prettyMembers (depth + 1) members) hopening hclosing
      exact scansAs_prettyMembers fun member hmem => hmember member (List.mem_cons_of_mem _ hmem)

/-- The text of a value that can be written consists of its `lexemes`, with nothing left at its
end. -/
theorem tokens?_pretty {value : Json} (h : Writable value) :
    tokens? value.pretty.toList = some (lexemes value) := by
  obtain ⟨left, -, hscan⟩ := scansAs_prettyChars h 0 [] (by simp [IsApart]) []
    (prettyChars 0 value).length (by simp)
  rw [List.append_nil] at hscan
  rw [pretty, String.toList_ofList, tokens?, hscan]
  cases left <;> simp [tokensWithin?]

/-! ### From the lexemes to the value -/

/-- The lexemes are read as the value, wherever a value is waited for: inside any frames and in
front of any further lexemes. -/
def ReadsAs (tokens : List Token) (value : Json) : Prop :=
  ∀ stack more,
    (tokens ++ more).foldlM step? (.value stack) = more.foldlM step? (.after value stack)

/-- The first item of an array is read like any value inside the array, since it begins with no
closing bracket. -/
theorem foldlM_firstItem (item : Json) (stack : List Frame) (more : List Token) :
    (lexemes item ++ more).foldlM step? (.firstItem stack) =
      (lexemes item ++ more).foldlM step? (.value (.array [] :: stack)) := by
  obtain ⟨token, rest, hlexemes, htoken⟩ := exists_lexemes_cons item
  rw [hlexemes, List.cons_append, List.foldlM_cons, List.foldlM_cons]
  cases token with
  | endArray => exact absurd rfl htoken
  | _ => rfl

/-- The further items of an array are read behind those that are done, and then the array is closed.
`last` is the item that was just completed and not yet put away. -/
theorem foldlM_furtherLexemes {items : List Json} (h : ∀ item ∈ items, ReadsAs (lexemes item) item)
    (last : Json) (done : List Json) (stack : List Frame) (more : List Token) :
    (furtherLexemes items ++ .endArray :: more).foldlM step? (.after last (.array done :: stack)) =
      more.foldlM step? (.after (.array ((last :: done).reverse ++ items)) stack) := by
  -- on the items, with `last` and `done` general: a comma puts `last` away
  induction items generalizing last done with
  | nil => simp [furtherLexemes, step?]
  | cons item items ih =>
    have hitem := h item List.mem_cons_self (.array (last :: done) :: stack)
      (furtherLexemes items ++ .endArray :: more)
    have hitems := ih (fun item hitem => h item (List.mem_cons_of_mem _ hitem)) item (last :: done)
    simp only [furtherLexemes, List.cons_append, List.append_assoc, List.foldlM_cons, step?,
      Option.bind_eq_bind, Option.bind_some, hitem, hitems]
    simp

/-- A member is read behind its key, which the frame keeps while the value is read. `h` is what the
induction gives for the value. -/
theorem foldlM_memberLexemes (key : Option String) {value : Json}
    (h : ReadsAs (lexemes value) value) (done : List (Option String × Json)) (stack : List Frame)
    (more : List Token) :
    (memberLexemes (key, value) ++ more).foldlM step? (.key done stack) =
      more.foldlM step? (.after value (.object done key :: stack)) := by
  have hvalue := h (.object done key :: stack) more
  simp only [memberLexemes, List.cons_append, List.foldlM_cons, step?, Option.bind_eq_bind,
    Option.bind_some, hvalue]

/-- The further members of an object are read behind those that are done, and then the object is
closed. -/
theorem foldlM_furtherMemberLexemes {members : List (Option String × Json)}
    (h : ∀ member ∈ members, ReadsAs (lexemes member.2) member.2) (key : Option String)
    (last : Json) (done : List (Option String × Json)) (stack : List Frame) (more : List Token) :
    (furtherMemberLexemes members ++ .endObject :: more).foldlM step?
        (.after last (.object done key :: stack)) =
      more.foldlM step? (.after (.object (((key, last) :: done).reverse ++ members)) stack) := by
  -- The members that are done stand backwards in the frame, so the induction generalizes them.
  induction members generalizing key last done with
  | nil => simp [furtherMemberLexemes, step?]
  | cons member members ih =>
    obtain ⟨next, value⟩ := member
    have hmember := foldlM_memberLexemes next (h _ List.mem_cons_self)
      ((key, last) :: done) stack (furtherMemberLexemes members ++ .endObject :: more)
    have hmembers := ih (fun member hmem => h member (List.mem_cons_of_mem _ hmem)) next value
      ((key, last) :: done)
    simp only [furtherMemberLexemes, List.cons_append, List.append_assoc, List.foldlM_cons, step?,
      Option.bind_eq_bind, Option.bind_some, hmember, hmembers]
    simp

/-- The lexemes of a value are read as the value (`ReadsAs`), by induction on what makes it
writable. -/
theorem readsAs_lexemes {value : Json} (h : Writable value) : ReadsAs (lexemes value) value := by
  -- By induction on the value, for every stack: items are read with one frame more.
  induction h with
  | null | bool _ | number _ | text _ => exact fun stack more => rfl
  | @array items hitems ih =>
    intro stack more
    cases items with
    | nil => rfl
    | cons item items =>
      have hfirst := foldlM_firstItem item stack (furtherLexemes items ++ .endArray :: more)
      have hitem := ih item List.mem_cons_self (.array [] :: stack)
        (furtherLexemes items ++ .endArray :: more)
      have hfurther := foldlM_furtherLexemes
        (fun item hitem => ih item (List.mem_cons_of_mem _ hitem)) item [] stack more
      simp only [lexemes, List.cons_append, List.nil_append, List.append_assoc, List.foldlM_cons,
        step?, begin?, Option.bind_eq_bind, Option.bind_some, hfirst, hitem, hfurther]
      simp
  | @object members hkeys hmembers ih =>
    intro stack more
    cases members with
    | nil => rfl
    | cons member members =>
      obtain ⟨key, value⟩ := member
      -- A first key is read like a further one that has no members before it.
      have hmember := foldlM_memberLexemes key (ih _ List.mem_cons_self) [] stack
        (furtherMemberLexemes members ++ .endObject :: more)
      have hfurther := foldlM_furtherMemberLexemes
        (fun member hmem => ih member (List.mem_cons_of_mem _ hmem)) key value [] stack more
      rw [hfurther] at hmember
      simpa [lexemes, memberLexemes, step?, begin?] using hmember

/-- The text that `pretty` writes for a value that can be written is read by `ofText?` as that
value. -/
theorem ofText?_pretty {value : Json} (h : Writable value) : ofText? value.pretty = some value := by
  have hread := readsAs_lexemes h [] []
  rw [List.append_nil] at hread
  rw [ofText?, tokens?_pretty h, Option.bind_some, ofTokens?, hread]
  rfl

end WrapperModel.Json
