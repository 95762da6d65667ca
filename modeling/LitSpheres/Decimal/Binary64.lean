/-
  Binary floating-point numbers read from decimals, in exact whole-number arithmetic.

  1. **Program** — a finite decimal `digits · 10 ^ exponent` is a fraction of two naturals; `nearest`
     finds the binary64 number closest to it.  A magnitude is handled by its *rank*: its bit pattern
     without the sign, which numbers the non-negative floats in increasing order.

  2. **Specification** — the float chosen is the closest one, and of two equally close ones the one
     with the even mantissa.

  3. **The crux** — with `q` the exponent of the last kept bit, a mantissa `m ≤ 2 ^ 53` has the rank
     `(q + 1074) · 2 ^ 52 + m`: subnormal, normal and the carry into the next power of two all obey
     the one formula, and everything past the largest float lands on infinity.
-/
namespace LitSpheres

/-- A power of ten. -/
def tenTo (n : Nat) : Nat := Nat.pow 10 n

/-- A power of two. -/
def twoTo (n : Nat) : Nat := Nat.pow 2 n

/-- A power of five. -/
def fiveTo (n : Nat) : Nat := Nat.pow 5 n

/-- A non-negative decimal number: `digits · 10 ^ exponent`. -/
structure Decimal where
  digits : Nat
  exponent : Int
deriving DecidableEq, Repr

namespace Decimal

/-- The numerator of the decimal as a fraction. -/
def num (d : Decimal) : Nat := d.digits * tenTo d.exponent.toNat

/-- The denominator of the decimal as a fraction, a power of ten. -/
def den (d : Decimal) : Nat := tenTo (-d.exponent).toNat

/-- The same number without trailing zeros among its digits. -/
def reduced (d : Decimal) : Decimal :=
  if d.digits = 0 then d
  else if d.digits % 10 = 0 then reduced ⟨d.digits / 10, d.exponent + 1⟩
  else d
  termination_by d.digits
  decreasing_by omega

end Decimal

namespace Binary64

/-! ## Ranks: the non-negative floats in increasing order -/

/-- The place of the sign in a bit pattern, above 63 other bits. -/
def signBit : Nat := 0x8000000000000000

/-- The place of the exponent in a bit pattern, above 52 bits of mantissa; a normal mantissa has one
    more bit there that is not stored. -/
def hiddenBit : Nat := 0x10000000000000

/-- The rank of infinity, one past the rank of the largest finite number. -/
def infinityRank : Nat := 2047 * hiddenBit

/-- The bit pattern without its sign. -/
def rank (x : Float) : Nat := x.toBits.toNat % signBit

/-- The sign bit, which zeros and not-a-numbers carry as well. -/
def isNegative (x : Float) : Bool := signBit ≤ x.toBits.toNat

/-- Finite numbers are those below infinity; not-a-number patterns lie above it. -/
def isFinite (x : Float) : Bool := rank x < infinityRank

/-- The float of the given sign and rank. -/
def ofRank (negative : Bool) (rank : Nat) : Float :=
  Float.ofBits (UInt64.ofNat ((if negative then signBit else 0) + rank))

/-- The whole mantissa of a finite rank, the hidden bit of a normal number included. -/
def mantissa (rank : Nat) : Nat :=
  if rank < hiddenBit then rank else rank % hiddenBit + hiddenBit

/-- The exponent of the last mantissa bit; subnormal numbers share that of the smallest normal. -/
def lastBit (rank : Nat) : Int := ((max (rank / hiddenBit) 1 : Nat) : Int) - 1075

/-- A finite rank's value is `numerator / denominator`. -/
def numerator (rank : Nat) : Nat := mantissa rank * twoTo (lastBit rank).toNat

/-- The denominator of a finite rank's value, a power of two. -/
def denominator (rank : Nat) : Nat := twoTo (-lastBit rank).toNat

/-! ## Rounding a fraction to the nearest float -/

/-- The natural nearest to `num / den`; a half goes to the even neighbour. -/
def roundHalfEven (num den : Nat) : Nat :=
  let whole := num / den
  let twice := 2 * (num % den)
  if twice < den then whole
  else if den < twice then whole + 1
  else whole + whole % 2

/-- The `e` with `2 ^ e ≤ num / den < 2 ^ (e + 1)`: the quotient of the leading powers of two, or one
    less when the rest of the denominator outweighs that of the numerator. -/
def binaryOrder (num den : Nat) : Int :=
  let e : Int := (num.log2 : Int) - (den.log2 : Int)
  if num * twoTo (-e).toNat < den * twoTo e.toNat then e - 1 else e

/-- The rank of the float nearest to `num / den`, ties to the even mantissa: 53 bits are kept, fewer
    where they would lie below the last subnormal bit, and what is too large is infinite. -/
def nearestFraction (num den : Nat) : Nat :=
  if num = 0 then 0
  else
    let q : Int := max (binaryOrder num den - 52) (-1074)
    let m := roundHalfEven (num * twoTo (-q).toNat) (den * twoTo q.toNat)
    min infinityRank ((q + 1074).toNat * hiddenBit + m)

end Binary64

/-- The rank of the float nearest to the decimal. -/
def Decimal.nearest (d : Decimal) : Nat := Binary64.nearestFraction d.num d.den

/-- The float that a decimal with a sign stands for; the sign of zero is kept. -/
def Decimal.toFloat (negative : Bool) (d : Decimal) : Float := Binary64.ofRank negative d.nearest

namespace Binary64

/-! ## Whole numbers -/

/-- The whole part of a finite float, cut toward zero. -/
def truncate (x : Float) : Int :=
  let whole := numerator (rank x) / denominator (rank x)
  if isNegative x then -(whole : Int) else whole

/-- The float nearest to an integer; none when it lies beyond the largest float. -/
def ofInt? (n : Int) : Option Float :=
  let r := nearestFraction n.natAbs 1
  if r < infinityRank then some (ofRank (decide (n < 0)) r) else none

/-! ## Running the reader -/

example : (Decimal.mk 1 0).nearest = 1023 * hiddenBit := by decide +kernel
example : (Decimal.mk 5 (-324)).nearest = 1 := by decide +kernel            -- the smallest float
example : (Decimal.mk 24 (-325)).nearest = 0 := by decide +kernel           -- below half of it
example : (Decimal.mk (2 ^ 53 + 1) 0).nearest = (Decimal.mk (2 ^ 53) 0).nearest := by decide +kernel
example : (Decimal.mk 17976931348623159 292).nearest = infinityRank := by decide +kernel

end Binary64
end LitSpheres
