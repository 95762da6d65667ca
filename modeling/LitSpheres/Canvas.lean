/-
  The canvas: a grid of pixels around a center.

  1. **Program** — canvas points are counted from the middle of the picture, to the right and upward;
     screen points are counted from its top left corner, to the right and downward.  A canvas lists
     its points row by row from the top, each row from the left.

  2. **Specification** — the points that a canvas lists are exactly those that are on screen, in the
     order in which a frame stores them: the `k`-th one is on screen at `(k mod width, k div width)`.

  3. **The crux** — halves are rounded down, so an even canvas has one column more on the left and one
     row more at the top than on the other side.
-/
import LitSpheres.Quantity

namespace LitSpheres

/-- A pixel counted from the middle of the picture, upward and to the right. -/
structure CanvasPoint where
  x : Int
  y : Int
deriving DecidableEq, Repr

namespace CanvasPoint

/-- The pixel at whole parts of the given numbers. -/
def of (x y : Quantity) : Except ValueProblem CanvasPoint := do
  let x ← x.truncate
  let y ← y.truncate
  .ok { x, y }

def display (p : CanvasPoint) : String := s!"CanvasCoordinate({p.x}, {p.y})"

end CanvasPoint

/-- A pixel counted from the top left corner of the screen, or none of its pixels. -/
inductive ScreenPoint where
  | on (x y : Nat)
  | off
deriving DecidableEq, Repr

namespace ScreenPoint

def display : ScreenPoint → String
  | on x y => s!"OnScreen({x}, {y})"
  | off => "OFF_SCREEN"

/-- Whether the point is one of the screen's pixels. -/
def isOn : ScreenPoint → Bool
  | on _ _ => true
  | off => false

end ScreenPoint

/-- Where a canvas point lies on a screen of the given size, of which any integers are taken. -/
def CanvasPoint.toScreen (p : CanvasPoint) (width height : Int) : ScreenPoint :=
  let x := width / 2 + p.x
  let y := height / 2 - p.y
  if 0 ≤ x ∧ 0 ≤ y ∧ x < width ∧ y < height then .on x.toNat y.toNat else .off

/-- Where a canvas point lies on a screen whose sides are whole or real numbers. -/
def CanvasPoint.toScreenOf (p : CanvasPoint) (width height : Quantity) : Except ValueProblem ScreenPoint := do
  let x? ← width.fromMiddle? p.x
  let y? ← height.fromMiddle? (-p.y)
  match x?, y? with
  | some x, some y =>
    let x ← x.truncate
    let y ← y.truncate
    .ok (.on x.toNat y.toNat)
  | _, _ => .ok .off

/-- On a screen of whole sides nothing is refused. -/
theorem CanvasPoint.toScreenOf_whole (p : CanvasPoint) (width height : Int) :
    p.toScreenOf (.whole width) (.whole height) = .ok (p.toScreen width height) := by
  unfold toScreenOf toScreen Quantity.fromMiddle?
  by_cases hx : 0 ≤ width / 2 + p.x ∧ width / 2 + p.x < width <;>
    by_cases hy : 0 ≤ height / 2 + -p.y ∧ height / 2 + -p.y < height <;>
      simp only [hx, hy, Int.sub_eq_add_neg, bind, Except.bind, Quantity.truncate] <;> grind

/-- A grid of at least one pixel. -/
structure Canvas where
  width : Nat
  height : Nat
  width_pos : 0 < width := by decide
  height_pos : 0 < height := by decide

namespace Canvas

/-- The canvas of the given size in whole pixels, if there are any. -/
def ofInts (width height : Int) : Except ValueProblem Canvas :=
  if h : 0 < width ∧ 0 < height then
    .ok { width := width.toNat, height := height.toNat
          width_pos := by omega, height_pos := by omega }
  else .error (.canvasSize width height)

/-- The canvas of the given size, cut to whole pixels.  The size is compared before it is cut; what is no
    number passes the comparison, and is refused by the cut. -/
def of (width height : Quantity) : Except ValueProblem Canvas := do
  let tooSmall := width.lessThanOne || height.lessThanOne
  let w ← width.truncate
  let h ← height.truncate
  if tooSmall then .error (.canvasSize w h) else ofInts w h

/-- The number of bytes in a frame for this canvas, four for each pixel. -/
def frameSize (c : Canvas) : Nat := c.width * c.height * 4

/-- Canvases of the same size are the same. -/
def same (c d : Canvas) : Bool := c.width == d.width && c.height == d.height

def display (c : Canvas) : String := s!"Canvas({c.width}, {c.height})"

/-- Where a canvas point lies on screen. -/
def toScreen (c : Canvas) (p : CanvasPoint) : ScreenPoint := p.toScreen c.width c.height

/-- Whether a canvas point is on screen. -/
def contains (c : Canvas) (p : CanvasPoint) : Bool := (c.toScreen p).isOn

/-- The canvas height of each row, from the top one down. -/
def rows (c : Canvas) : List Int :=
  (List.range c.height).map fun (k : Nat) => (c.height : Int) / 2 - k

/-- The canvas position of each column, from the left. -/
def columns (c : Canvas) : List Int :=
  (List.range c.width).map fun (k : Nat) => (k : Int) - (c.width : Int) / 2

/-- The points of one row, from the left. -/
def row (c : Canvas) (y : Int) : List CanvasPoint := c.columns.map fun x => { x, y }

/-- All points, row by row from the top. -/
def points (c : Canvas) : List CanvasPoint := c.rows.flatMap c.row

/-! ## Running the scan -/

example : ({ width := 2, height := 3 } : Canvas).rows = [1, 0, -1] := by decide
example : ({ width := 4, height := 1 } : Canvas).columns = [-2, -1, 0, 1] := by decide
example : ({ width := 2, height := 2 } : Canvas).points.map ({ width := 2, height := 2 } : Canvas).toScreen
    = [.on 0 0, .on 1 0, .on 0 1, .on 1 1] := by decide

end Canvas
end LitSpheres
