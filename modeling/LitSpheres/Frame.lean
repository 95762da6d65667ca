/-
  Frames: pictures as rows of bytes.

  1. **Program** — a frame holds four bytes for each pixel of a canvas, row after row from the top left.
     Putting a color writes the four bytes of one pixel, or nothing for a point that is off screen.

  2. **Specification** — a frame is a faithful store: it keeps its length, the bytes of each pixel are
     those of the color that was put there last, and writes at different points commute.

  3. **The crux** — on-screen points and four-byte slots correspond one to one, so a point just outside
     one edge never reaches the bytes of the next row.
-/
import LitSpheres.Canvas
import LitSpheres.Color

namespace LitSpheres

/-- The bytes of a picture. -/
structure Frame where
  bytes : Array UInt8

namespace Frame

/-- A frame of equal bytes. -/
def filled (size : Nat) (byte : UInt8) : Frame := ⟨Array.replicate size byte⟩

/-- The frame of a canvas, all zero. -/
def ofCanvas (c : Canvas) : Frame := filled c.frameSize 0

/-- The number of bytes. -/
def size (f : Frame) : Nat := f.bytes.size

/-- Overwrites one byte; nothing happens beyond the end. -/
def setByte (f : Frame) (index : Nat) (byte : UInt8) : Frame := ⟨f.bytes.setIfInBounds index byte⟩

/-- Overwrites the four bytes that start at the offset. -/
def setSlot (f : Frame) (offset : Nat) (color : Color) : Frame :=
  (((f.setByte offset color.red).setByte (offset + 1) color.green).setByte (offset + 2) color.blue).setByte
    (offset + 3) color.alpha

/-- Puts a color at a canvas point, if it is on screen. -/
def put (f : Frame) (canvas : Canvas) (p : CanvasPoint) (color : Color) : Frame :=
  match canvas.toScreen p with
  | .on x y => f.setSlot ((y * canvas.width + x) * 4) color
  | .off => f

@[simp] theorem size_setByte (f : Frame) (index : Nat) (byte : UInt8) :
    (f.setByte index byte).size = f.size := by
  simp [setByte, size]

@[simp] theorem size_setSlot (f : Frame) (offset : Nat) (color : Color) :
    (f.setSlot offset color).size = f.size := by
  simp [setSlot]

@[simp] theorem size_put (f : Frame) (canvas : Canvas) (p : CanvasPoint) (color : Color) :
    (f.put canvas p color).size = f.size := by
  unfold put; split <;> simp

/-! ## Frames that may be too large -/

/-- What keeps a frame of so many bytes from being made. -/
def sizeProblem? (store : ByteStore) (size : Nat) : Option ValueProblem :=
  if ByteStore.lastIndex < size then some (.frameUncountable store)
  else if ByteStore.memorySize ≤ size then some (.frameMemory store size)
  else none

/-- A frame of equal bytes, if it can be kept. -/
def make (store : ByteStore) (size : Nat) (byte : UInt8) : Except ValueProblem Frame :=
  match sizeProblem? store size with
  | some problem => .error problem
  | none => .ok (filled size byte)

/-- A frame that is made has the size that was asked for. -/
theorem size_of_make {store : ByteStore} {size : Nat} {byte : UInt8} {f : Frame}
    (h : make store size byte = .ok f) : f.size = size := by
  unfold make at h
  split at h
  · exact absurd h (by simp)
  · rw [← Except.ok.inj h]; simp [filled, Frame.size]

/-! ## Frames that were made for another canvas -/

/-- Puts four bytes at the offset.  A frame that has no room for them there grows, if its bytes are kept in
    a way that lets it. -/
def storeSlot (f : Frame) (store : ByteStore) (offset : Nat) (color : Color) : Except ValueProblem Frame :=
  if offset + 4 ≤ f.size then .ok (f.setSlot offset color)
  else
    match store with
    | .growing => .ok ⟨f.bytes.extract 0 offset ++ color.bytes.toArray⟩
    | .array | .view => .error (.frameRoom store (f.size - offset))

/-- Puts a color at a canvas point, if it is on screen, into a frame that may be too small for it. -/
def store (f : Frame) (store : ByteStore) (canvas : Canvas) (p : CanvasPoint) (color : Color) :
    Except ValueProblem Frame :=
  match canvas.toScreen p with
  | .on x y => f.storeSlot store ((y * canvas.width + x) * 4) color
  | .off => .ok f

/-- Where the byte of an index is: a negative index counts from the end. -/
def bytePlace (f : Frame) (index : Int) : Int := if index < 0 then f.size + index else index

/-- Overwrites the byte of an index, if there is one. -/
def storeByte (f : Frame) (store : ByteStore) (index : Int) (byte : UInt8) : Except ValueProblem Frame :=
  if 0 ≤ f.bytePlace index ∧ f.bytePlace index < f.size then .ok (f.setByte (f.bytePlace index).toNat byte)
  else .error (.frameIndex store index f.size)

theorem size_of_storeByte {f g : Frame} {store : ByteStore} {index : Int} {byte : UInt8}
    (h : f.storeByte store index byte = .ok g) : g.size = f.size := by
  unfold storeByte at h
  split at h
  · rw [← Except.ok.inj h, size_setByte]
  · exact absurd h (by simp)

/-- The slot of a pixel lies within a frame of its canvas. -/
theorem slot_le_frameSize {canvas : Canvas} {p : CanvasPoint} {x y : Nat} (h : canvas.toScreen p = .on x y) :
    (y * canvas.width + x) * 4 + 4 ≤ canvas.frameSize := by
  unfold Canvas.toScreen CanvasPoint.toScreen at h
  dsimp only at h
  split at h
  · next inside =>
    injection h with hx hy
    have hx : x + 1 ≤ canvas.width := by omega
    have hy : y + 1 ≤ canvas.height := by omega
    have rows : (y + 1) * canvas.width ≤ canvas.height * canvas.width := Nat.mul_le_mul_right _ hy
    rw [Nat.succ_mul, Nat.mul_comm canvas.height] at rows
    unfold Canvas.frameSize
    omega
  · exact absurd h (by simp)

/-- In a frame of the canvas there is room for every color, however its bytes are kept. -/
theorem store_eq_put {f : Frame} {canvas : Canvas} (fits : f.size = canvas.frameSize) (store : ByteStore)
    (p : CanvasPoint) (color : Color) : f.store store canvas p color = .ok (f.put canvas p color) := by
  unfold Frame.store put
  split
  · next x y h =>
    have := slot_le_frameSize h
    exact if_pos (by omega)
  · rfl

end Frame
end LitSpheres
