/-
  Colors of four bytes, with arithmetic that saturates.

  1. **Program** — a real channel value becomes the byte that it is cut to: what is no number becomes zero
     and an infinity a finite number, then values below the range become 0 and values above it 255.
     Scaling multiplies red, green and blue, and converts alpha as it is.

  2. **Specification** — no operation ever wraps around: every channel stays between 0 and 255, and a
     channel that is zero stays zero under scaling.
-/
namespace LitSpheres

/-- Red, green, blue and opacity, a byte each. -/
structure Color where
  red : UInt8
  green : UInt8
  blue : UInt8
  alpha : UInt8 := 255
deriving DecidableEq, Repr

namespace Color

/-- The greatest finite number. -/
def greatest : Float := 1.7976931348623157e308

/-- Zero for what is no number, the greatest finite number of its sign for an infinity, and any other number
    itself. -/
def asFinite (x : Float) : Float :=
  if x.isNaN then 0
  else if x.isInf then (if x < 0 then -greatest else greatest)
  else x

/-- The number held between 0 and 255. -/
def clip (x : Float) : Float := min (max x 0) 255

/-- The byte of a real channel value, which is cut toward zero when it is within the range of a byte. -/
def channel (x : Float) : UInt8 := (clip (asFinite x)).toUInt8

/-- The color of four real channel values. -/
def ofFloats (red green blue alpha : Float) : Color :=
  { red := channel red, green := channel green, blue := channel blue, alpha := channel alpha }

/-- The opaque color of three real channel values. -/
def ofRgb (red green blue : Float) : Color := ofFloats red green blue 255

/-- Red, green and blue scaled, and alpha as it is. -/
def scale (c : Color) (s : Float) : Color :=
  ofFloats (c.red.toFloat * s) (c.green.toFloat * s) (c.blue.toFloat * s) c.alpha.toFloat

/-- A color times a number is scaled by it, -/
instance : HMul Color Float Color := ⟨scale⟩

/-- and so is a number times a color. -/
instance : HMul Float Color Color := ⟨fun s c => c.scale s⟩

/-- The channels in the order in which a frame stores them. -/
def bytes (c : Color) : List UInt8 := [c.red, c.green, c.blue, c.alpha]

def display (c : Color) : String := s!"Color.rgba({c.red}, {c.green}, {c.blue}, {c.alpha})"

/-! ## Named colors -/

def pureRed : Color := { red := 255, green := 0, blue := 0 }

def pureGreen : Color := { red := 0, green := 255, blue := 0 }

def pureBlue : Color := { red := 0, green := 0, blue := 255 }

def black : Color := { red := 0, green := 0, blue := 0 }

def white : Color := { red := 255, green := 255, blue := 255 }

/-- The colors that have a name. -/
def named : List (String × Color) :=
  [("RED", pureRed), ("GREEN", pureGreen), ("BLUE", pureBlue), ("BLACK", black), ("WHITE", white)]

example : channel (0.0 / 0.0) = 0 ∧ channel (-3.5) = 0 ∧ channel 255.9 = 255 ∧ channel (1.0 / 0.0) = 255 := by
  decide +kernel
example : (pureRed.scale 0.5).red = 127 := by decide +kernel

end Color
end LitSpheres
