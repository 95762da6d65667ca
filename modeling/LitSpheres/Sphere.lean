/-
  Spheres, and where rays meet them.

  1. **Program** — the points `origin + t · direction` of a ray lie on a sphere where a quadratic in `t`
     vanishes; the ray misses the sphere if its discriminant is negative.

  2. **Specification** — both solutions are given, the one with the positive root first.  A direction of
     length zero leaves no quadratic, and its solutions are no numbers.

  3. **The crux** — the formulas ask nothing of the numbers but their arithmetic, so over exact numbers
     the two solutions can be shown to be the only ones.
-/
import LitSpheres.Color
import LitSpheres.Definition.Display

namespace LitSpheres

section

variable {α : Type} [OfNat α 0] [Add α] [Sub α] [Mul α] [Div α]

/-- The `t` at which the ray `origin + t · direction` crosses the sphere, the larger one first when the
    direction is not zero. -/
@[specialize] def rayRoots [OfNat α 2] [OfNat α 4] [Neg α] [Root α] [LT α] [DecidableLT α]
    (center : Vec3 α) (radius : α) (origin direction : Vec3 α) : Option (α × α) :=
  let offset := origin - center
  let a := direction.dot direction
  let b := 2 * offset.dot direction
  let c := offset.dot offset - radius * radius
  let discriminant := b * b - 4 * a * c
  if discriminant < 0 then none
  else
    let root := Root.sqrt discriminant
    some ((-b + root) / (2 * a), (-b - root) / (2 * a))

/-- The unit vector that points out of a sphere at a point of its surface. -/
@[specialize] def outwardNormal [Root α] (center point : Vec3 α) : Vec3 α := (point - center).normalized

end

/-- A sphere with the color of its surface before lighting. -/
structure Sphere where
  center : Vec3 Float
  radius : Float
  color : Color
  radius_pos : 0 < radius

namespace Sphere

/-- The sphere with the given radius, if it is positive. -/
def of (center : Vec3 Float) (radius : Float) (color : Color) : Except ValueProblem Sphere :=
  if h : 0 < radius then .ok { center, radius, color, radius_pos := h }
  else .error (.sphereRadius radius)

/-- The sphere that a definition describes; its surface is opaque. -/
def ofSpec (s : SphereSpec) : Except ValueProblem Sphere :=
  of s.center s.radius (Color.ofRgb s.color.x s.color.y s.color.z)

/-- Where a ray crosses the sphere. -/
def intersect (s : Sphere) (origin direction : Vec3 Float) : Option (Float × Float) :=
  rayRoots s.center s.radius origin direction

/-- The unit vector that points out of the sphere at a point of its surface. -/
def normalAt (s : Sphere) (point : Vec3 Float) : Vec3 Float := outwardNormal s.center point

end Sphere

/-! ## Displays -/

/-- A point or direction in space. -/
def Vec3.display (v : Vec3 Float) : String := displayTriple "WorldCoordinate" v

def Sphere.display (s : Sphere) : String :=
  "Sphere(" ++ s.center.display ++ ", " ++ displayNumber s.radius ++ ", " ++ s.color.display ++ ")"

def Light.display : Light → String
  | .ambient i => "AmbientLight(" ++ displayNumber i ++ ")"
  | .point i position => "PointLight(" ++ position.display ++ ", " ++ displayNumber i ++ ")"
  | .directional i direction => "DirectionalLight(" ++ direction.display ++ ", " ++ displayNumber i ++ ")"

end LitSpheres
