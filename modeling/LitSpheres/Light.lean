/-
  Lights, and how much of their light arrives at a point of a surface.

  1. **Program** — ambient light arrives everywhere alike.  Other light counts by the cosine of the angle
     between the surface's normal and the direction towards the light, without loss over distance; a
     surface that faces away gets none.

  2. **Specification** — the cosine is the dot product divided by the product of the two lengths.  The
     division is refused when that product is zero.

  3. **The crux** — a dot product above zero does not keep the product of the lengths above zero: very
     short vectors have a length, or a product of lengths, that rounds to zero.
-/
import LitSpheres.ValueProblem
import LitSpheres.Vec3

namespace LitSpheres

/-- The lights that a scene can hold. -/
inductive Light where
  | ambient (intensity : Float)
  | point (intensity : Float) (position : Vec3 Float)
  /-- Light from infinitely far away; the direction points towards it. -/
  | directional (intensity : Float) (direction : Vec3 Float)

/-- The light of the given intensity, from the direction of the first vector, that a surface with the
    given normal receives. -/
def diffuse (towards normal : Vec3 Float) (intensity : Float) : Except ValueProblem Float :=
  let cosine := normal.dot towards
  if cosine ≤ 0 then .ok 0
  else
    let lengths := normal.norm * towards.norm
    if lengths == 0 then .error .divisionByZero else .ok (intensity * cosine / lengths)

namespace Light

/-- The intensity that the light was given. -/
def intensity : Light → Float
  | ambient i | point i _ | directional i _ => i

/-- The light that arrives at a point of a surface with the given normal. -/
def illuminate (light : Light) (at_ normal : Vec3 Float) : Except ValueProblem Float :=
  match light with
  | ambient i => .ok i
  | point i position => diffuse (position - at_) normal i
  | directional i direction => diffuse direction normal i

/-- The light of all lights together, added up in their order. -/
def total (lights : List Light) (at_ normal : Vec3 Float) : Except ValueProblem Float :=
  lights.foldlM (fun sum light => (light.illuminate at_ normal).map (sum + ·)) 0

end Light
end LitSpheres
