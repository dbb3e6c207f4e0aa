set_option autoImplicit false
set_option relaxedAutoImplicit false

/-!
# Tables over code points

The shapes in which the tables of this library are written: intervals of code points, and shifts
that move every so many code points of an interval by a fixed amount.
-/

namespace SceneScript.Text

/-- Whether a code point lies in one of the closed intervals. -/
def inIntervals (intervals : List (Nat × Nat)) (n : Nat) : Bool :=
  intervals.any (fun interval => interval.1 <= n && n <= interval.2)

/-- A rule that moves every `step`-th code point from `first` to `last` by `offset`. -/
structure Shift where
  first : Nat
  last : Nat
  step : Nat
  offset : Int
  deriving DecidableEq, Repr

/-- Where a shift sends a code point that it moves. -/
def Shift.image? (s : Shift) (n : Nat) : Option Nat :=
  if s.first <= n && n <= s.last && (n - s.first) % s.step == 0 then
    some ((n : Int) + s.offset).toNat
  else none

/-- Moves a character by the first shift that applies to it. -/
def moveBy (shifts : List Shift) (c : Char) : Char :=
  match shifts.findSome? (fun s => s.image? c.toNat) with
  | some n => Char.ofNat n
  | none => c

end SceneScript.Text
