/-
  The shortest decimal that reads back as a given float.

  1. **Program** — at each number of digits `1, 2, 3, …` the decimals of that many digits form a grid
     around the value, and only the two grid points beside it can be the nearest; the first grid on
     which one of them reads back gives the answer.

  2. **Specification** — the answer reads back; no decimal of fewer digits does; of two answers on the
     same grid the nearer one is taken, and of two equally near ones the even one.

  3. **The crux** — if any point of a grid reads back, so does one of the value's two neighbours on it,
     because the reals that round to one float form an interval.  The exact expansion of the value
     reads back, and it has finitely many digits, so the search ends.
-/
import LitSpheres.Decimal.Binary64

namespace LitSpheres.Binary64

/-- Whether the decimal reads back as the float of this rank. -/
def readsBack (rank : Nat) (d : Decimal) : Bool := d.nearest == rank

/-- The number of decimal digits of a natural; zero has one. -/
def digitCount (n : Nat) : Nat := (Nat.toDigits 10 n).length

/-- The `e` with `10 ^ e ≤ num / den < 10 ^ (e + 1)`. -/
def decimalOrder (num den : Nat) : Int :=
  if den ≤ num then (digitCount (num / den) : Int) - 1
  else -(digitCount ((den - 1) / num) : Int)

/-- The exact decimal expansion of a finite rank: a power of two below the point is a power of five
    tenths as far down. -/
def exactDecimal (rank : Nat) : Decimal :=
  { digits := mantissa rank * twoTo (lastBit rank).toNat * fiveTo (-lastBit rank).toNat
    exponent := min (lastBit rank) 0 }

/-- The value's lower neighbour on the grid of decimals with the given last exponent, with the
    rest above it as a fraction `excess / step` of one grid step. -/
structure GridFloor where
  floor : Nat
  excess : Nat
  step : Nat

/-- Where `num / den` lies on the grid of multiples of `10 ^ exponent`. -/
def gridFloor (num den : Nat) (exponent : Int) : GridFloor :=
  let scaled := num * tenTo (-exponent).toNat
  let step := den * tenTo exponent.toNat
  { floor := scaled / step, excess := scaled % step, step := step }

/-- The better of the two grid points beside the value that reads back, if one does. -/
def onGrid? (rank : Nat) (exponent : Int) : Option Decimal :=
  let g := gridFloor (numerator rank) (denominator rank) exponent
  let below : Decimal := ⟨g.floor, exponent⟩
  let above : Decimal := ⟨g.floor + 1, exponent⟩
  match readsBack rank below, readsBack rank above with
  | true, false => some below
  | false, true => some above
  | false, false => none
  | true, true =>
    if 2 * g.excess < g.step then some below
    else if g.step < 2 * g.excess then some above
    else if g.floor % 2 = 0 then some below else some above

/-- The shortest decimal that reads back as the positive finite float of this rank: the first grid
    that holds one, from one digit up to all digits of the exact expansion.  The grid of one digit reaches
    up to the next power of ten, which is a single digit of its own. -/
def shortest (rank : Nat) : Decimal :=
  let order := decimalOrder (numerator rank) (denominator rank)
  let exact := exactDecimal rank
  let found := (List.range (digitCount exact.digits)).findSome? fun (k : Nat) => onGrid? rank (order - k)
  (found.getD exact).reduced

/-! ## Running the search -/

example : shortest (Decimal.mk 1 (-1)).nearest = ⟨1, -1⟩ := by decide +kernel
example : shortest (Decimal.mk 1 23).nearest = ⟨1, 23⟩ := by decide +kernel
example : shortest 1 = ⟨5, -324⟩ := by decide +kernel
example : shortest (infinityRank - 1) = ⟨17976931348623157, 292⟩ := by decide +kernel

end LitSpheres.Binary64
