/-
  Numbers as callers give them: whole or real.

  1. **Program** — a position or size in pixels may arrive as an integer of any length or as a float; it
     is cut toward zero where pixels are counted, and rounded to the nearest float where it takes part
     in geometry.

  2. **Specification** — the integer is exact however long it is; what is no number, infinite, or beyond
     the largest float is refused where the conversion needs it.
-/
import LitSpheres.ValueProblem

namespace LitSpheres

/-- A whole or a real number. -/
inductive Quantity where
  | whole (n : Int)
  | real (x : Float)

namespace Quantity

/-- The whole part of a float. -/
def wholePart (x : Float) : Except ValueProblem Int :=
  if Binary64.isFinite x then .ok (Binary64.truncate x)
  else if Binary64.rank x = Binary64.infinityRank then .error .wholeOfInfinity
  else .error .wholeOfNaN

/-- The whole part, cut toward zero. -/
def truncate : Quantity → Except ValueProblem Int
  | whole n => .ok n
  | real x => wholePart x

/-- Whether the number is less than one; what is no number is not. -/
def lessThanOne : Quantity → Bool
  | whole n => n < 1
  | real x => x < 1

/-- The nearest float to an integer. -/
def floatOfInt (n : Int) : Except ValueProblem Float :=
  match Binary64.ofInt? n with
  | some x => .ok x
  | none => .error .integerTooLarge

/-- The middle of a range of the given length, rounded down.  An endless range has none. -/
def middle (x : Float) : Float := if Binary64.isFinite x then (x / 2).floor else x - x

/-- Whole steps from the middle of a range, which starts at zero, has the given size, and has its middle
    rounded down.  There is no answer if the position lies outside the range; what is no number
    lies nowhere outside.  A real size needs steps within the range of floats, and rounds the sum. -/
def fromMiddle? (size : Quantity) (steps : Int) : Except ValueProblem (Option Quantity) :=
  match size with
  | whole n =>
    let position := n / 2 + steps
    .ok (if 0 ≤ position ∧ position < n then some (whole position) else none)
  | real x =>
    (floatOfInt steps).map fun s =>
      let position := middle x + s
      if position < 0 || x ≤ position then none else some (real position)

/-- Whether two numbers are equal, one of them whole and the other real or not. -/
def same : Quantity → Quantity → Bool
  | whole m, whole n => m == n
  | real x, real y => x == y
  | whole n, real x | real x, whole n =>
    Binary64.isFinite x && Binary64.truncate x == n && x.floor == x

/-- The number as a float. -/
def toFloat : Quantity → Except ValueProblem Float
  | whole n => floatOfInt n
  | real x => .ok x

end Quantity
end LitSpheres
