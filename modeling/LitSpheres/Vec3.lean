/-
  Vectors of three components, over any numbers that have a square root.

  1. **Program** — sums, differences, multiples, the dot product, the length, and the unit vector of a
     vector, component by component.

  2. **Specification** — the order of the operations is part of the meaning: over floating-point
     numbers the dot product starts from zero and adds the three products from left to right, so a
     negative zero never comes out of it.

  3. **The crux** — nothing here asks what the numbers are, so the same formulas can be read over floats,
     where they run, and over exact numbers, where their algebra holds.
-/
namespace LitSpheres

/-- Numbers with a square root. -/
class Root (α : Type) where
  sqrt : α → α

instance : Root Float := ⟨Float.sqrt⟩

/-- A position or direction in space. -/
structure Vec3 (α : Type) where
  x : α
  y : α
  z : α
deriving DecidableEq, Repr

namespace Vec3

variable {α : Type}

@[inline] instance [Add α] : Add (Vec3 α) := ⟨fun v w => ⟨v.x + w.x, v.y + w.y, v.z + w.z⟩⟩

@[inline] instance [Sub α] : Sub (Vec3 α) := ⟨fun v w => ⟨v.x - w.x, v.y - w.y, v.z - w.z⟩⟩

/-- The multiple of a vector by a number. -/
@[inline] def scale [Mul α] (v : Vec3 α) (s : α) : Vec3 α := ⟨v.x * s, v.y * s, v.z * s⟩

/-- Every component divided by a number. -/
@[inline] def divide [Div α] (v : Vec3 α) (s : α) : Vec3 α := ⟨v.x / s, v.y / s, v.z / s⟩

/-- The dot product, added up from zero. -/
@[inline] def dot [OfNat α 0] [Add α] [Mul α] (v w : Vec3 α) : α :=
  0 + v.x * w.x + v.y * w.y + v.z * w.z

/-- The length of a vector. -/
@[inline] def norm [OfNat α 0] [Add α] [Mul α] [Root α] (v : Vec3 α) : α := Root.sqrt (v.dot v)

/-- The vector divided by its length. -/
@[inline] def normalized [OfNat α 0] [Add α] [Mul α] [Div α] [Root α] (v : Vec3 α) : Vec3 α :=
  v.divide v.norm

/-- The components in order. -/
def toList (v : Vec3 α) : List α := [v.x, v.y, v.z]

/-- Component by component, as numbers compare: both zeros are equal and no not-a-number is. -/
def same [BEq α] (v w : Vec3 α) : Bool := v.x == w.x && v.y == w.y && v.z == w.z

/-- The point from which all directions are taken by default. -/
def origin [OfNat α 0] : Vec3 α := ⟨0, 0, 0⟩

example : (Vec3.mk 1 2 3 + Vec3.mk 4 5 6 : Vec3 Int) = ⟨5, 7, 9⟩ := by decide
example : Vec3.dot (Vec3.mk 1 2 3) (Vec3.mk 4 5 6 : Vec3 Int) = 32 := by decide

end Vec3
end LitSpheres
