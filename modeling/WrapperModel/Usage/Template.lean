import WrapperModel.Usage.Parameter
import WrapperModel.Usage.MapPlaceholder

/-!
# `WrapperModel.Usage.Template`: reading a usage template

A template is cut at white space, and its tokens are grouped from left to right:

* an alternation that is written with spaces, `PATH | URL | -`, becomes one item;
* `KEY=VALUE [KEY=VALUE...]` is one map, the second token being its repetition;
* `NODE [NODE...]` and `self|NODE [NODE...]` are one list.

Reading never fails: a token that fits no rule is an item as it is.
`parameters` reads a list of tokens, `ofTemplate` a text.
-/

set_option autoImplicit false

namespace WrapperModel.Usage

open WrapperModel.Text

/-- Closes up a spaced alternation: while a bar follows, the bar and the token behind it are taken
into the item. A bar at the end is taken alone. It gives the item and the tokens that are left. -/
def closeUp (raw : String) : List String → String × List String
  | "|" :: alternative :: rest => closeUp (raw ++ "|" ++ alternative) rest
  | ["|"] => (raw ++ "|", [])
  | rest => (raw, rest)

/-- What follows a closed-up item is no longer than what followed its first token. `parameters` ends
for this reason. -/
theorem length_closeUp_le (raw : String) (tokens : List String) :
    (closeUp raw tokens).2.length ≤ tokens.length := by
  fun_induction closeUp raw tokens with
  | case1 raw alternative rest ih => simp only [List.length_cons]; omega
  | case2 => simp
  | case3 => simp

/-- The last of the alternatives of an item, which is the whole item where it has no bar. A
repetition may repeat it alone. -/
def lastAlternative (cs : List Char) : List Char :=
  (cs.splitOn '|').getLast (List.splitOn_ne_nil _ _)

/-- The token says that the item may be repeated, or that its last alternative may: behind
`self|NODE` the tokens `[self|NODE...]` and `[NODE...]` both do. -/
def repeatsAsList (raw : List Char) (token : List Char) : Bool :=
  token = repetition raw ||
    (raw.contains '|' && token = repetition (lastAlternative raw))

/-- What an item stands for, and whether the token behind it belongs to it. At most one of the first
two holds. -/
structure Reading where
  isList : Bool
  isDictionary : Bool
  /-- The token behind the item is its repetition and no item of its own. -/
  takesNext : Bool
  deriving Repr, DecidableEq

/-- How an item is read in front of the token `next`. A map placeholder is never a list; it takes
its repetition only where it has no opening bracket itself. An item that is a repetition is a list
without taking anything. -/
def readItem (raw : List Char) (next : Option String) : Reading :=
  match mapPlaceholder? raw with
  | some (key, value) =>
    { isList := false
      isDictionary := true
      takesNext := raw.head? != some '[' &&
        next.any fun token => token.toList = repetition (key ++ '=' :: value) }
  | none =>
    if isRepetition raw then ⟨true, false, false⟩
    else if next.any fun token => repeatsAsList raw token.toList then ⟨true, false, true⟩
    else ⟨false, false, false⟩

/-- The items of a list of tokens. One step closes an item up (`closeUp`), reads it in front of the
token that is then next (`readItem`), and goes on behind what it took. -/
def parameters : List String → List Parameter
  | [] => []
  | token :: rest =>
    let item := closeUp token rest
    let reading := readItem item.1.toList item.2.head?
    ⟨item.1, reading.isList, reading.isDictionary⟩ ::
      parameters (if reading.takesNext then item.2.tail else item.2)
  termination_by tokens => tokens.length
  decreasing_by
    have := length_closeUp_le token rest
    simp only [List.length_cons]
    split
    · simp only [List.length_tail]; omega
    · omega

/-- The items of a usage template, whose tokens are its `words`. What `parameters` makes of tokens
is all there is to it. -/
def ofTemplate (template : String) : List Parameter :=
  parameters (words template)

end WrapperModel.Usage
