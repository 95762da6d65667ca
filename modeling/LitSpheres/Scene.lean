/-
  Scenes, and the color that is seen along a ray.

  1. **Program** — a ray from the camera may cross each sphere twice.  Of all crossings within the given
     range the first one in space is what is seen; the light that arrives there scales the color of
     its sphere.  A ray that hits nothing shows the background.

  2. **Specification** — the crossings are listed sphere by sphere, the far root of each before the near
     one; the hit is the earliest in that list among those with the least `t`.

  3. **The crux** — crossings outside the range, and those that are no numbers, are dropped before any
     two are compared, so they can neither hide nor reorder the others.
-/
import LitSpheres.Sphere
import LitSpheres.Viewport

namespace LitSpheres

/-- All that is needed to draw a picture. -/
structure Scene where
  canvas : Canvas
  spheres : List Sphere
  lights : List Light
  viewport : Viewport
  background : Color
  title : String
  camera : Vec3 Float

/-- A crossing of a ray with a sphere of a scene. -/
structure Crossing where
  t : Float
  sphere : Sphere
  /-- The position of the sphere in its scene. -/
  index : Nat

namespace Crossing

/-- The nearer of two crossings, the first one unless the second is strictly nearer. -/
def nearer (c d : Crossing) : Crossing := if d.t < c.t then d else c

/-- The nearest crossing of a list, and of several the first. -/
def nearest? : List Crossing → Option Crossing
  | [] => none
  | c :: cs => some (cs.foldl nearer c)

end Crossing

/-- What a ray hits. -/
structure Hit where
  t : Float
  point : Vec3 Float
  /-- The unit vector that points out of the sphere. -/
  normal : Vec3 Float
  sphere : Sphere
  /-- The position of the sphere in its scene. -/
  index : Nat

def Hit.display (h : Hit) : String :=
  "Hit(t=np.float64(" ++ displayNumber h.t ++ "), point=" ++ h.point.display ++ ")"

/-- The range of `t` in which crossings count, both ends included; from one on by default, so that nothing
    before the viewport is seen. -/
structure Span where
  least : Float := 1
  greatest : Float := 1 / 0

/-- Whether a crossing counts; what is no number never does. -/
def Span.holds (r : Span) (t : Float) : Bool := r.least ≤ t && t ≤ r.greatest

namespace Scene

/-- The same scene on a canvas of another size. -/
def resized (s : Scene) (width height : Quantity) : Except ValueProblem Scene :=
  (Canvas.of width height).map fun canvas => { s with canvas }

/-- The direction of the ray through a canvas point. -/
def direction (s : Scene) (p : CanvasPoint) : Except ValueProblem (Vec3 Float) :=
  s.viewport.direction p (.whole s.canvas.width) (.whole s.canvas.height)

/-- The crossings of a ray that count, sphere by sphere. -/
def crossings (s : Scene) (direction : Vec3 Float) (span : Span) : List Crossing :=
  s.spheres.zipIdx.flatMap fun (sphere, index) =>
    match sphere.intersect s.camera direction with
    | none => []
    | some (far, near) => ([far, near].filter span.holds).map fun t => { t, sphere, index }

/-- What a ray from the camera hits first, if it hits anything. -/
def intersect (s : Scene) (direction : Vec3 Float) (span : Span) : Option Hit :=
  (Crossing.nearest? (s.crossings direction span)).map fun c =>
    let point := s.camera + direction.scale c.t
    { t := c.t, point, normal := c.sphere.normalAt point, sphere := c.sphere, index := c.index }

/-- The light that arrives at a point of a surface with the given normal. -/
def lighting (s : Scene) (point normal : Vec3 Float) : Except ValueProblem Float :=
  Light.total s.lights point normal

/-- The color seen along a ray from the camera. -/
def trace (s : Scene) (direction : Vec3 Float) (span : Span) : Except ValueProblem Color :=
  match s.intersect direction span with
  | none => .ok s.background
  | some hit => (s.lighting hit.point hit.normal).map hit.sphere.color.scale

/-- The color of the pixel at a canvas point. -/
def shade (s : Scene) (p : CanvasPoint) : Except ValueProblem Color := do
  let direction ← s.direction p
  s.trace direction {}

end Scene
end LitSpheres
