/-
  The viewport: the window in space that rays are shot through.

  1. **Program** — a viewport has a width, a height and a distance from the camera; a canvas point is
     scaled from pixels to its width and height, and the vector to it is the direction of the ray.

  2. **Specification** — all three sizes are positive.  The size of the canvas divides the size of the
     viewport before the point multiplies it, and the horizontal axis is computed first.
-/
import LitSpheres.Canvas
import LitSpheres.Vec3

namespace LitSpheres

/-- A window in front of the camera. -/
structure Viewport where
  width : Float
  height : Float
  depth : Float
  width_pos : 0 < width
  height_pos : 0 < height
  depth_pos : 0 < depth

namespace Viewport

/-- The viewport of the given sizes, if all are positive. -/
def of (width height depth : Float) : Except ValueProblem Viewport :=
  if hw : 0 < width then
    if hh : 0 < height then
      if hd : 0 < depth then
        .ok { width, height, depth, width_pos := hw, height_pos := hh, depth_pos := hd }
      else .error (.viewportSide "depth" depth)
    else .error (.viewportSide "height" height)
  else .error (.viewportSide "width" width)

/-- One unit wide and high, one unit in front of the camera. -/
def unit : Viewport :=
  { width := 1, height := 1, depth := 1
    width_pos := by decide, height_pos := by decide, depth_pos := by decide }

/-- Viewports of the same sizes are the same. -/
def same (v w : Viewport) : Bool := v.width == w.width && v.height == w.height && v.depth == w.depth

def display (v : Viewport) : String :=
  let width := NumberLayout.message.write v.width
  let height := NumberLayout.message.write v.height
  let depth := NumberLayout.message.write v.depth
  s!"ViewPort({width}, {height}, {depth})"

/-- A canvas position along one axis, scaled from the canvas size to the viewport size. -/
def along (position : Int) (side : Float) (size : Quantity) : Except ValueProblem Float := do
  let pixels ← size.toFloat
  if pixels == 0 then .error .divisionByZero
  else
    let steps ← Quantity.floatOfInt position
    .ok (steps * (side / pixels))

/-- The direction from the camera through a point of a canvas of the given size. -/
def direction (v : Viewport) (p : CanvasPoint) (width height : Quantity) :
    Except ValueProblem (Vec3 Float) := do
  let x ← along p.x v.width width
  let y ← along p.y v.height height
  .ok ⟨x, y, v.depth⟩

end Viewport
end LitSpheres
