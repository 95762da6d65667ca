/-
  How the digits of a number are laid out as text.

  1. **Program** — the shortest digits of a float are written either positionally, with zeros filling
     up to the decimal point, or with one digit before the point and a power of ten behind.

  2. **Two layouts** — scene text is always positional, so that the scene reader needs no exponents;
     messages and object displays change to powers of ten for very large and very small numbers, and
     mark every positional number as a real one by a point.

  3. **The crux** — both layouts write the same digits, so a written number reads back exactly.
-/
import LitSpheres.Decimal.Shortest

namespace LitSpheres

namespace Decimal

/-- The decimal digits of the number's whole digit string. -/
def digitChars (d : Decimal) : List Char := Nat.toDigits 10 d.digits

/-- The power of ten of the leading digit. -/
def order (d : Decimal) : Int := (d.digitChars.length : Int) + d.exponent - 1

/-- The digits with zeros filled in up to the decimal point, and no point behind a whole number. -/
def positional (d : Decimal) : List Char :=
  let cs := d.digitChars
  if 0 ≤ d.exponent then cs ++ List.replicate d.exponent.toNat '0'
  else
    let places := (-d.exponent).toNat
    if places < cs.length then
      cs.take (cs.length - places) ++ '.' :: cs.drop (cs.length - places)
    else '0' :: '.' :: (List.replicate (places - cs.length) '0' ++ cs)

/-- A power of ten with its sign and at least two digits. -/
def exponentMark (e : Int) : List Char :=
  let cs := Nat.toDigits 10 e.natAbs
  'e' :: (if e < 0 then '-' else '+') :: (List.replicate (2 - cs.length) '0' ++ cs)

/-- One digit before the point, the others behind it, and the power of ten. -/
def scientific (d : Decimal) : List Char :=
  let mantissa := match d.digitChars with
    | [] => []
    | [c] => [c]
    | c :: cs => c :: '.' :: cs
  mantissa ++ exponentMark d.order

end Decimal

/-! ## Layouts -/

/-- The choices that a way of writing numbers makes. -/
structure NumberLayout where
  /-- The orders of magnitude that are written positionally: from the first to below the second, or
      all of them. -/
  positionalOrders : Option (Int × Int)
  /-- What stands behind a whole number. -/
  wholeMark : List Char

namespace NumberLayout

/-- Scene text: always positional, a whole number without a point. -/
def scene : NumberLayout := { positionalOrders := none, wholeMark := [] }

/-- Messages and displays: positional from a ten-thousandth up to sixteen digits. -/
def message : NumberLayout := { positionalOrders := some (-4, 16), wholeMark := ['.', '0'] }

/-- Whether a number of this order of magnitude is written positionally. -/
def isPositional (l : NumberLayout) (order : Int) : Bool :=
  match l.positionalOrders with
  | none => true
  | some (low, high) => low ≤ order && order < high

/-- A decimal without its sign. -/
def writeDecimal (l : NumberLayout) (d : Decimal) : List Char :=
  if l.isPositional d.order then
    if 0 ≤ d.exponent then d.positional ++ l.wholeMark else d.positional
  else d.scientific

/-- The shortest decimal of a finite rank; zero is its single digit. -/
def decimalOf (rank : Nat) : Decimal := if rank = 0 then ⟨0, 0⟩ else Binary64.shortest rank

/-- A float: the sign (of zero as well), then its shortest decimal, or the word for what is no number. -/
def writeChars (l : NumberLayout) (x : Float) : List Char :=
  let r := Binary64.rank x
  if Binary64.infinityRank < r then ['n', 'a', 'n']
  else
    let magnitude := if r = Binary64.infinityRank then ['i', 'n', 'f'] else l.writeDecimal (decimalOf r)
    if Binary64.isNegative x then '-' :: magnitude else magnitude

/-- A float as a string. -/
def write (l : NumberLayout) (x : Float) : String := String.ofList (l.writeChars x)

end NumberLayout

/-! ## Running the writer -/

example : NumberLayout.scene.writeDecimal ⟨15, -1⟩ = "1.5".toList := by decide
example : NumberLayout.scene.writeDecimal ⟨1, 3⟩ = "1000".toList := by decide
example : NumberLayout.scene.writeDecimal ⟨25, -4⟩ = "0.0025".toList := by decide
example : NumberLayout.message.writeDecimal ⟨1, 3⟩ = "1000.0".toList := by decide
example : NumberLayout.message.writeDecimal ⟨15, 20⟩ = "1.5e+21".toList := by decide
example : NumberLayout.message.writeDecimal ⟨1, -5⟩ = "1e-05".toList := by decide

end LitSpheres
