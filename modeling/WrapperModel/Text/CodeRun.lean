/-!
# `WrapperModel.Text.CodeRun`: arithmetic runs of code points

A property of characters is kept as a list of `CodeRun`s: the code points `first`,
`first + step`, and so on up to `last`. Alternating capital and small letters are
then one run of step two, so a whole property of the character standard fits a
short table. A `CodeShift` is a run that is moved to another place, which is how
the one-to-one part of a case mapping is kept.
-/

set_option autoImplicit false

namespace WrapperModel.Text

/-- The code points `first`, `first + step`, … that do not exceed `last`. No run of the tables has
the step zero or ends before it begins. -/
structure CodeRun where
  first : Nat
  last : Nat
  step : Nat
  deriving Repr, DecidableEq

/-- The code point lies on the run: between its ends, at a distance of whole steps from `first`. -/
def CodeRun.contains (run : CodeRun) (code : Nat) : Bool :=
  decide (run.first ≤ code) && decide (code ≤ run.last) &&
    decide ((code - run.first) % run.step = 0)

/-- The character lies on one of the runs. Every property of characters is such a question about one
table. -/
def onRuns (runs : List CodeRun) (c : Char) : Bool :=
  runs.any fun run => run.contains c.toNat

/-- A run of code points and the code point that `first` is moved to. The others keep
their distance from `first`. -/
structure CodeShift where
  first : Nat
  last : Nat
  step : Nat
  image : Nat
  deriving Repr, DecidableEq

/-- The run of code points that are moved. -/
def CodeShift.source (shift : CodeShift) : CodeRun :=
  ⟨shift.first, shift.last, shift.step⟩

/-- The character that `c` is moved to by the first shift whose run it lies on. It has none where no
run holds it, and then the mapping leaves the character as it is. -/
def shifted? (shifts : List CodeShift) (c : Char) : Option Char :=
  (shifts.find? fun shift => shift.source.contains c.toNat).map fun shift =>
    Char.ofNat (shift.image + (c.toNat - shift.first))

end WrapperModel.Text
