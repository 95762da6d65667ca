/-
  Pictures: frames with a width and a height, as they are saved and shown.

  1. **Program** — a picture views a frame as rows of pixels of four bytes; saving keeps all four, showing
     leaves out the last one.

  2. **Specification** — the bytes of the frame are exactly those of the pixels, and a later change of a
     byte changes the picture and not its size.
-/
import LitSpheres.Frame
import LitSpheres.Render

namespace LitSpheres

/-- A frame seen as rows of pixels. -/
structure Picture where
  width : Nat
  height : Nat
  frame : Frame
  size_eq : frame.size = width * height * 4

/-- The bytes of one row, of rows of the given number of pixels. -/
def Frame.row (f : Frame) (width k : Nat) : List UInt8 :=
  (f.bytes.extract (k * (width * 4)) ((k + 1) * (width * 4))).toList

/-- The bytes cut into rows of the given number of pixels; the last row may be shorter. -/
def Frame.rows (f : Frame) (width : Nat) : List (List UInt8) :=
  let rowSize := width * 4
  (List.range ((f.size + (rowSize - 1)) / rowSize)).map (f.row width)

namespace Picture

/-- A frame seen as a picture of the given size, if it has that many bytes.  A side can still be too long
    when the other one is zero. -/
def ofFrame (frame : Frame) (width height : Int) : Except ValueProblem Picture :=
  if hs : (frame.size : Int) = width * height * 4 then
    if !(ByteStore.isIndex width && ByteStore.isIndex height) then .error .pictureSideUncountable
    else if h : 0 ≤ width ∧ 0 ≤ height then
      if ByteStore.lastIndex < max width height * 4 then .error .pictureUncountable
      else .ok { width := width.toNat, height := height.toNat, frame
                 size_eq := by
                   have : ((width.toNat * height.toNat * 4 : Nat) : Int) = width * height * 4 := by
                     rw [Int.natCast_mul, Int.natCast_mul, Int.toNat_of_nonneg h.1, Int.toNat_of_nonneg h.2]
                     rfl
                   exact Int.ofNat.inj (hs.trans this.symm) }
    else .error (.pictureSides width height)
  else .error (.pictureSize frame.size (width * height * 4))

/-- The pixels, row by row from the top. -/
def rows (p : Picture) : List (List UInt8) := (List.range p.height).map (p.frame.row p.width)

/-- Of the bytes of pixels those of the colors, three for each pixel. -/
def colorBytes : List UInt8 → List UInt8
  | red :: green :: blue :: _ :: rest => red :: green :: blue :: colorBytes rest
  | _ => []

/-- The colors of the pixels, row by row from the top. -/
def colorRows (p : Picture) : List (List UInt8) := p.rows.map colorBytes

/-- Whether the picture has no pixels. -/
def isEmpty (p : Picture) : Bool := p.width == 0 || p.height == 0

/-- What keeps the picture from being saved. -/
def savingProblem? (p : Picture) : Option ValueProblem :=
  if 2147483647 < max p.width p.height then some .savedSide
  else if p.isEmpty then some .savedEmpty
  else none

/-- The picture after a change of one byte of its frame. -/
def storeByte (p : Picture) (store : ByteStore) (index : Int) (byte : UInt8) : Except ValueProblem Picture :=
  match h : p.frame.storeByte store index byte with
  | .error problem => .error problem
  | .ok frame => .ok { p with frame, size_eq := (Frame.size_of_storeByte h).trans p.size_eq }

/-- The picture of a whole canvas. -/
def ofCanvas (c : Canvas) (frame : Frame) (h : frame.size = c.frameSize) : Picture :=
  { width := c.width, height := c.height, frame, size_eq := h }

end Picture

theorem Rendering.size_addRow (s : Scene) (serial : Bool) (r : Rendering Frame) (y : Int) :
    (r.addRow s serial y).frame.size = r.frame.size := by
  unfold Rendering.addRow
  split
  · rfl
  · exact Frame.size_paint _ _ _

/-- Rendering never changes the size of a frame. -/
theorem Scene.size_render (s : Scene) (frame : Frame) (workers : Option Int) :
    (s.render frame workers).frame.size = frame.size := by
  have fold (ys : List Int) (r : Rendering Frame) :
      (ys.foldl (Rendering.addRow s (isSerial workers)) r).frame.size = r.frame.size := by
    induction ys generalizing r with
    | nil => rfl
    | cons y ys ih => rw [List.foldl_cons, ih, Rendering.size_addRow]
  unfold Scene.render
  split
  · exact fold _ _
  · rfl

/-- The picture of a scene, rendered into a frame of its own. -/
def Scene.picture (s : Scene) (workers : Option Int) : Except ValueProblem Picture :=
  let r := s.render (Frame.ofCanvas s.canvas) workers
  match r.failure with
  | some problem => .error problem
  | none =>
    .ok (Picture.ofCanvas s.canvas r.frame
      ((s.size_render _ _).trans (by simp [Frame.ofCanvas, Frame.filled, Frame.size])))

/-- The picture of a scene, if the frame that it is rendered into can be kept. -/
def Scene.keptPicture (s : Scene) (workers : Option Int) : Except ValueProblem Picture :=
  match Frame.sizeProblem? .array s.canvas.frameSize with
  | some problem => .error problem
  | none => s.picture workers

/-! ## Showing -/

/-- One drawing on the screen: its title, and the width and height of each picture drawn into it. -/
structure Drawing where
  title : String
  pictures : List (Nat × Nat)

/-- The drawings after one more picture is shown: in a drawing of its own, or in the one that is there. -/
def showPicture (shown : List Drawing) (p : Picture) (title : Option String) (ofItsOwn : Bool) :
    List Drawing :=
  let added := (p.width, p.height)
  match shown.getLast?, ofItsOwn with
  | some d, false =>
    let name := title.getD ""
    shown.dropLast ++
      [{ title := if name.isEmpty then d.title else name, pictures := d.pictures ++ [added] }]
  | _, _ => shown ++ [{ title := title.getD "", pictures := [added] }]

/-- The drawings of a picture that is shown so many times; without pixels it cannot be shown once. -/
def drawingsOf (p : Picture) (title : Option String) (ofItsOwn : Bool) (times : Nat) :
    Except ValueProblem (List Drawing) :=
  if p.isEmpty ∧ times ≠ 0 then .error .shownEmpty
  else .ok (Nat.repeat (showPicture · p title ofItsOwn) times [])

end LitSpheres
