/-
  Rendering: filling a frame with the colors of a scene.

  1. **Program** — each row of the canvas is a task that shades its points from the left and puts their
     colors into the frame.  A task ends at the first point that cannot be shaded.  One worker stops
     after the first task that fails; several workers run all tasks.  The frame is any buffer that has a
     size and takes colors.

  2. **Specification** — if every point can be shaded, every slot of the frame is written exactly once, and
     the frame does not depend on the number of workers.  Otherwise the problem is that of the first
     failing point in the order of the canvas, whichever task was faster.

  3. **The crux** — tasks write to disjoint slots, so their writes commute, and running the tasks one
     after another stands for every way of interleaving them.
-/
import LitSpheres.Frame
import LitSpheres.Scene

namespace LitSpheres

/-! ## Tasks -/

/-- A color for a point of the canvas. -/
structure Stroke where
  point : CanvasPoint
  color : Color

/-- What a task does: its strokes in order, and the problem that ends it before its row does. -/
structure Task where
  strokes : List Stroke
  failure : Option ValueProblem

/-- Shades points until one of them cannot be shaded. -/
def Task.ofPoints (shade : CanvasPoint → Except ValueProblem Color) : List CanvasPoint → Task
  | [] => { strokes := [], failure := none }
  | p :: ps =>
    match shade p with
    | .error problem => { strokes := [], failure := some problem }
    | .ok color =>
      let rest := Task.ofPoints shade ps
      { rest with strokes := { point := p, color } :: rest.strokes }

/-- The task of one row of the canvas. -/
def Scene.task (s : Scene) (y : Int) : Task := Task.ofPoints s.shade (s.canvas.row y)

/-! ## Buffers -/

/-- What a scene can be rendered into: it has a number of bytes, and takes a color for a point of a canvas. -/
class Buffer (β : Type) where
  size : β → Nat
  put : β → Canvas → CanvasPoint → Color → β

instance : Buffer Frame := ⟨Frame.size, Frame.put⟩

/-- Puts strokes into a buffer, one after another. -/
def Buffer.paint {β : Type} [Buffer β] (b : β) (canvas : Canvas) (strokes : List Stroke) : β :=
  strokes.foldl (fun b s => Buffer.put b canvas s.point s.color) b

/-- Puts strokes into a frame, one after another. -/
def Frame.paint (f : Frame) (canvas : Canvas) (strokes : List Stroke) : Frame := Buffer.paint f canvas strokes

@[simp] theorem Frame.size_paint (f : Frame) (canvas : Canvas) (strokes : List Stroke) :
    (f.paint canvas strokes).size = f.size := by
  induction strokes generalizing f with
  | nil => rfl
  | cons s ss ih => exact (ih (f.put canvas s.point s.color)).trans (f.size_put canvas s.point s.color)

/-! ## Rendering -/

variable {β : Type}

/-- A frame, or another buffer, after rendering, and the problem if there was one. -/
structure Rendering (β : Type) where
  frame : β
  failure : Option ValueProblem

/-- Whether the work is done by one worker, task after task; so it is when no number is given, and
    when it is no more than one. -/
def isSerial (workers : Option Int) : Bool :=
  match workers with
  | none => true
  | some n => n ≤ 1

/-- Runs the task of one more row, unless one worker has already failed. -/
def Rendering.addRow [Buffer β] (s : Scene) (serial : Bool) (r : Rendering β) (y : Int) : Rendering β :=
  if serial && r.failure.isSome then r
  else
    let task := s.task y
    { frame := Buffer.paint r.frame s.canvas task.strokes, failure := r.failure.or task.failure }

/-- Whether the frame has exactly the bytes that the scene's canvas needs. -/
def Scene.fits [Buffer β] (s : Scene) (frame : β) : Bool := Buffer.size frame == s.canvas.frameSize

/-- Renders a scene into a frame of the right size; another frame is left as it is. -/
def Scene.render [Buffer β] (s : Scene) (frame : β) (workers : Option Int) : Rendering β :=
  if s.fits frame then
    s.canvas.rows.foldl (Rendering.addRow s (isSerial workers)) { frame, failure := none }
  else { frame, failure := some (.frameSize (Buffer.size frame) s.canvas.width s.canvas.height) }

end LitSpheres
