/-
  What a rendering leaves in the frame.

  1. **Program** — the tasks of the rows put their strokes into the frame one after another; a picture
     is the frame of a rendering seen as rows.

  2. **Specification** — if every pixel can be shaded, the strokes go to the slots `0, 1, 2, …`, each of
     them once, and afterwards each slot holds the color of its pixel, whatever the frame held before.
     A frame of another size is refused and left as it is.

  3. **The crux** — no two strokes of a rendering disagree on a point, so any of them may be taken to be
     the last one; a slot therefore holds the color of its stroke.  How often a slot was written cannot be
     seen in a frame; but a rendering does the same with any buffer, so it can be read off one that records
     its strokes.
-/
import LitSpheres.Picture
import LitSpheres.Proofs.Frame.Slot
import Mathlib.Data.List.Basic

namespace LitSpheres

/-! ## Tasks -/

namespace Task

variable {shade : CanvasPoint → Except ValueProblem Color}

theorem ofPoints_cons_ok {p : CanvasPoint} {color : Color} (h : shade p = .ok color)
    (ps : List CanvasPoint) :
    ofPoints shade (p :: ps) =
      { strokes := { point := p, color } :: (ofPoints shade ps).strokes
        failure := (ofPoints shade ps).failure } := by
  rw [ofPoints, h]

theorem ofPoints_cons_error {p : CanvasPoint} {problem : ValueProblem} (h : shade p = .error problem)
    (ps : List CanvasPoint) :
    ofPoints shade (p :: ps) = { strokes := [], failure := some problem } := by
  rw [ofPoints, h]

/-- A task puts no color but the one its point was shaded with. -/
theorem shade_of_mem_strokes {ps : List CanvasPoint} {s : Stroke} (h : s ∈ (ofPoints shade ps).strokes) :
    shade s.point = .ok s.color := by
  fun_induction ofPoints shade ps with
  | case1 => exact absurd h List.not_mem_nil
  | case2 => exact absurd h List.not_mem_nil
  | case3 p ps color hp rest ih =>
    rcases List.mem_cons.1 h with rfl | h
    · exact hp
    · exact ih h

/-- A task whose points can all be shaded puts a color at each of them and does not fail. -/
theorem ofPoints_of_shades {ps : List CanvasPoint} (h : ∀ p ∈ ps, ∃ color, shade p = .ok color) :
    (ofPoints shade ps).strokes.map (·.point) = ps ∧ (ofPoints shade ps).failure = none := by
  fun_induction ofPoints shade ps with
  | case1 => exact ⟨rfl, rfl⟩
  | case2 p ps problem hp =>
    obtain ⟨color, hc⟩ := h p List.mem_cons_self
    exact absurd (hp.symm.trans hc) (by simp)
  | case3 p ps color hp rest ih =>
    obtain ⟨points, ends⟩ := ih fun q hq => h q (List.mem_cons_of_mem p hq)
    exact ⟨congrArg (p :: ·) points, ends⟩

end Task

namespace Scene

/-- Every pixel of the canvas can be shaded. -/
def Shades (s : Scene) : Prop := ∀ p ∈ s.canvas.points, ∃ color, s.shade p = .ok color

instance (s : Scene) : Decidable s.Shades :=
  decidable_of_iff (∀ p ∈ s.canvas.points, (s.shade p).isOk = true)
    (forall₂_congr fun p _ => by cases s.shade p <;> simp [Except.isOk, Except.toBool])

/-- What the rows shade, the top row first: the strokes that a rendering is expected to make. -/
def strokes (s : Scene) : List Stroke := s.canvas.rows.flatMap fun y => (s.task y).strokes

variable {s : Scene}

theorem shade_of_mem_strokes {t : Stroke} (h : t ∈ s.strokes) : s.shade t.point = .ok t.color := by
  obtain ⟨y, -, ht⟩ := List.mem_flatMap.1 h
  exact Task.shade_of_mem_strokes ht

/-- Strokes that are shaded by one scene agree. -/
theorem agree_of_shaded {strokes : List Stroke} (h : ∀ t ∈ strokes, s.shade t.point = .ok t.color) :
    Frame.Agree strokes := by
  intro t ht u hu point
  have same := (h t ht).symm.trans (point ▸ h u hu)
  exact Except.ok.inj same

theorem mem_points_of_row {y : Int} (hy : y ∈ s.canvas.rows) {p : CanvasPoint} (hp : p ∈ s.canvas.row y) :
    p ∈ s.canvas.points :=
  List.mem_flatMap.2 ⟨y, hy, hp⟩

theorem Shades.task {y : Int} (h : s.Shades) (hy : y ∈ s.canvas.rows) :
    (s.task y).strokes.map (·.point) = s.canvas.row y ∧ (s.task y).failure = none :=
  Task.ofPoints_of_shades fun p hp => h p (mem_points_of_row hy hp)

/-- The strokes go through the points of the canvas in order. -/
theorem Shades.points_strokes (h : s.Shades) : s.strokes.map (·.point) = s.canvas.points := by
  rw [strokes, Canvas.points, List.map_flatMap]
  exact List.flatMap_congr fun y hy => (h.task hy).1

/-- The strokes go to each slot exactly once, in the order of the frame. -/
theorem Shades.slots_strokes (h : s.Shades) :
    s.strokes.map (fun t => s.canvas.slot? t.point) = (List.range s.canvas.pixelCount).map some := by
  calc s.strokes.map (fun t => s.canvas.slot? t.point)
      = (s.strokes.map (·.point)).map s.canvas.slot? := by rw [List.map_map]; rfl
    _ = ((List.range s.canvas.pixelCount).map s.canvas.pixel).map s.canvas.slot? := by
        rw [h.points_strokes, Canvas.points_eq]
    _ = (List.range s.canvas.pixelCount).map some := by
        rw [List.map_map]
        exact List.map_congr_left fun k hk => Canvas.slot?_pixel _ (List.mem_range.1 hk)

end Scene

/-! ## Frames that record -/

theorem Buffer.paint_append {β : Type} [Buffer β] (b : β) (canvas : Canvas) (first second : List Stroke) :
    paint b canvas (first ++ second) = paint (paint b canvas first) canvas second :=
  List.foldl_append

/-- A frame, and all the strokes that were put into it, in order. -/
structure RecordedFrame where
  frame : Frame
  strokes : List Stroke

namespace RecordedFrame

/-- It has the size of its frame, and a put is one more stroke. -/
instance : Buffer RecordedFrame where
  size r := r.frame.size
  put r canvas p color :=
    { frame := r.frame.put canvas p color, strokes := r.strokes ++ [{ point := p, color }] }

/-- Recording does not change what a painting does. -/
theorem paint_eq (r : RecordedFrame) (canvas : Canvas) (strokes : List Stroke) :
    Buffer.paint r canvas strokes =
      { frame := r.frame.paint canvas strokes, strokes := r.strokes ++ strokes } := by
  induction strokes generalizing r with
  | nil => exact congrArg (RecordedFrame.mk r.frame) (List.append_nil r.strokes).symm
  | cons t ts ih =>
    have first : Buffer.paint r canvas (t :: ts) =
        Buffer.paint (RecordedFrame.mk (r.frame.put canvas t.point t.color) (r.strokes ++ [t])) canvas ts := rfl
    rw [first, ih, List.append_assoc, List.singleton_append, Frame.paint_cons]

end RecordedFrame

/-! ## Paintings of a scene -/

/-- A slot holds the color of a stroke to it, if the strokes agree. -/
theorem Frame.slot_paint {f : Frame} {canvas : Canvas} (fits : f.size = canvas.frameSize)
    {strokes : List Stroke} (agree : Agree strokes) {t : Stroke} (ht : t ∈ strokes) {k : Nat}
    (hk : canvas.slot? t.point = some k) : (f.paint canvas strokes).slot k = t.color.bytes := by
  obtain ⟨before, after, rfl⟩ := List.append_of_mem ht
  -- the stroke may as well be the last one, so nothing writes over it
  have last : (before ++ t :: after).Perm ((before ++ after) ++ [t]) :=
    List.perm_middle.trans (List.perm_append_singleton t _).symm
  rw [paint_perm fits last agree, paint_append, paint_cons, paint_nil,
    slot_put (by rw [size_paint, fits]), if_pos hk]

namespace Scene

variable {s : Scene} {f : Frame}

/-- **The contents of a painted frame**: each slot holds the color that its pixel is shaded with. -/
theorem Shades.slot_paint_strokes (h : s.Shades) (fits : f.size = s.canvas.frameSize) {p : CanvasPoint}
    {k : Nat} (hk : s.canvas.slot? p = some k) :
    ∃ color, s.shade p = .ok color ∧ (f.paint s.canvas s.strokes).slot k = color.bytes := by
  have hp : p ∈ s.strokes.map (·.point) := by
    rw [h.points_strokes]
    exact Canvas.mem_points_iff.2 ⟨k, hk⟩
  obtain ⟨t, ht, rfl⟩ := List.mem_map.1 hp
  refine ⟨t.color, shade_of_mem_strokes ht, ?_⟩
  exact Frame.slot_paint fits (agree_of_shaded fun u hu => shade_of_mem_strokes hu) ht hk

/-- Nothing of what a frame held before survives a painting. -/
theorem Shades.paint_strokes_eq (h : s.Shades) {g : Frame} (hf : f.size = s.canvas.frameSize)
    (hg : g.size = s.canvas.frameSize) :
    f.paint s.canvas s.strokes = g.paint s.canvas s.strokes := by
  refine Frame.ext_slots (n := s.canvas.pixelCount) (by rw [Frame.size_paint, hf]; rfl)
    (by rw [Frame.size_paint, hg]; rfl) fun k hk => ?_
  have slot := Canvas.slot?_pixel s.canvas hk
  obtain ⟨a, ha, left⟩ := h.slot_paint_strokes hf slot
  obtain ⟨b, hb, right⟩ := h.slot_paint_strokes hg slot
  rw [left, right, Except.ok.inj (ha.symm.trans hb)]

/-! ## Renderings into any buffer -/

section Buffers

variable {β : Type} [Buffer β] {b : β}

/-- Rows that do not fail are painted one after another, by one worker or by several. -/
theorem foldl_addRow_of_ok (serial : Bool) {ys : List Int} (h : ∀ y ∈ ys, (s.task y).failure = none)
    (b : β) :
    ys.foldl (Rendering.addRow s serial) { frame := b, failure := none } =
      { frame := Buffer.paint b s.canvas (ys.flatMap fun y => (s.task y).strokes), failure := none } := by
  induction ys generalizing b with
  | nil => rfl
  | cons y ys ih =>
    have row : Rendering.addRow s serial { frame := b, failure := none } y =
        { frame := Buffer.paint b s.canvas (s.task y).strokes, failure := none } := by
      rw [Rendering.addRow, if_neg (by simp)]
      dsimp only
      rw [h y List.mem_cons_self]
      rfl
    rw [List.foldl_cons, row, ih (fun z hz => h z (List.mem_cons_of_mem y hz)), List.flatMap_cons,
      Buffer.paint_append]

theorem fits_iff : s.fits b = true ↔ Buffer.size b = s.canvas.frameSize := beq_iff_eq

/-- A buffer of the right size is worked on row by row. -/
theorem render_of_fits (fits : Buffer.size b = s.canvas.frameSize) (workers : Option Int) :
    s.render b workers =
      s.canvas.rows.foldl (Rendering.addRow s (isSerial workers)) { frame := b, failure := none } := by
  rw [render, if_pos (fits_iff.2 fits)]

/-- **A scene that can be shaded is painted**, into any buffer of its size and with any number of workers. -/
theorem Shades.render_buffer (h : s.Shades) (fits : Buffer.size b = s.canvas.frameSize)
    (workers : Option Int) :
    s.render b workers = { frame := Buffer.paint b s.canvas s.strokes, failure := none } := by
  rw [render_of_fits fits]
  exact foldl_addRow_of_ok _ (fun y hy => (h.task hy).2) b

/-- A buffer of another size is refused before the first pixel. -/
theorem render_of_misfit (misfit : Buffer.size b ≠ s.canvas.frameSize) (workers : Option Int) :
    s.render b workers =
      { frame := b, failure := some (.frameSize (Buffer.size b) s.canvas.width s.canvas.height) } := by
  rw [render, if_neg fun fits => misfit (fits_iff.1 fits)]

end Buffers

theorem Shades.render_eq (h : s.Shades) (fits : f.size = s.canvas.frameSize) (workers : Option Int) :
    s.render f workers = { frame := f.paint s.canvas s.strokes, failure := none } :=
  h.render_buffer fits workers

/-- **Each slot is written exactly once**, in the order of the frame: so it is recorded by a frame that a
    scene is rendered into. -/
theorem Shades.render_recorded (h : s.Shades) (fits : f.size = s.canvas.frameSize) (workers : Option Int) :
    s.render (RecordedFrame.mk f []) workers =
      { frame := { frame := f.paint s.canvas s.strokes, strokes := s.strokes }, failure := none } := by
  have recorded : Buffer.size (RecordedFrame.mk f []) = s.canvas.frameSize := fits
  rw [h.render_buffer recorded, RecordedFrame.paint_eq, List.nil_append]

end Scene

/-! ## Pictures -/

namespace Picture

/-- The channels of a pixel, counted from the top left, in the rows that the picture shows. -/
def pixelAt? (p : Picture) (sx sy : Nat) : Option (List UInt8) :=
  p.rows[sy]?.map fun row => (row.drop (4 * sx)).take 4

/-- The bytes of every row lie within the frame. -/
theorem row_inside (p : Picture) {k : Nat} (hk : k < p.height) :
    (k + 1) * (p.width * 4) ≤ p.frame.bytes.size := by
  have size : p.frame.bytes.size = p.height * (p.width * 4) := by
    rw [← Nat.mul_assoc, Nat.mul_comm p.height]
    exact p.size_eq
  rw [size]
  exact Nat.mul_le_mul_right _ hk

/-- The rows of a picture are as long as its width says, four bytes for each pixel. -/
theorem length_of_mem_rows (p : Picture) {row : List UInt8} (h : row ∈ p.rows) :
    row.length = p.width * 4 := by
  obtain ⟨k, hk, rfl⟩ := List.mem_map.1 h
  unfold Frame.row
  rw [Array.length_toList, Array.size_extract, Nat.min_eq_left (p.row_inside (List.mem_range.1 hk)),
    ← Nat.sub_mul, Nat.add_sub_cancel_left, Nat.one_mul]

/-- The picture shows at each place the slot of the frame that belongs there. -/
theorem pixelAt?_eq_slot (p : Picture) {sx sy : Nat} (hx : sx < p.width) (hy : sy < p.height) :
    p.pixelAt? sx sy = some (p.frame.slot (sy * p.width + sx)) := by
  have row : p.rows[sy]? = some (p.frame.row p.width sy) := by
    unfold rows
    rw [List.getElem?_map, List.getElem?_range hy]
    rfl
  have start : sy * (p.width * 4) = 4 * (sy * p.width) := by rw [← Nat.mul_assoc, Nat.mul_comm]
  have stop : (sy + 1) * (p.width * 4) = 4 * (sy * p.width) + 4 * p.width := by
    rw [Nat.succ_mul, start, Nat.mul_comm p.width]
  have inside := p.row_inside hy
  unfold pixelAt?
  rw [row, Option.map_some]
  refine congrArg some (List.ext_getElem? fun i => ?_)
  rw [Frame.getElem?_slot, List.getElem?_take]
  split
  · rw [List.getElem?_drop]
    unfold Frame.row
    rw [Array.getElem?_toList, Array.getElem?_extract, start, stop, if_pos (by omega)]
    congr 1
    omega
  · rfl

end Picture

namespace Scene

variable {s : Scene}

/-- The picture of a scene that can be shaded shows the frame of its rendering. -/
theorem Shades.picture_eq (h : s.Shades) (workers : Option Int) :
    ∃ picture, s.picture workers = .ok picture ∧
      picture.width = s.canvas.width ∧ picture.height = s.canvas.height ∧
      picture.frame = (Frame.ofCanvas s.canvas).paint s.canvas s.strokes := by
  have fits : (Frame.ofCanvas s.canvas).size = s.canvas.frameSize := by
    simp [Frame.ofCanvas, Frame.filled, Frame.size]
  have rendered := h.render_eq fits workers
  have failure : (s.render (Frame.ofCanvas s.canvas) workers).failure = none := by rw [rendered]
  unfold picture
  dsimp only
  split
  · next problem failed => exact absurd (failure.symm.trans failed) (by simp)
  · exact ⟨_, rfl, rfl, rfl, congrArg Rendering.frame rendered⟩

/-! ## The frame of a rendering by one worker -/

/-- **A rendering fills its frame with exactly the shaded pixels.**  For a scene that can be shaded and a
    frame of its canvas, the strokes that are made go to each slot exactly once, as the same frame records
    them; afterwards the frame is as long as before, each slot holds the color of its pixel, and every
    frame of that size would have become the same.  A picture of the scene shows these colors as rows.
    Any other frame is refused and left as it is, without a stroke. -/
theorem render_fills (s : Scene) (f : Frame) (workers : Option Int) :
    (f.size = s.canvas.frameSize → s.Shades →
      ∃ filled written picture,
        s.render f workers = { frame := filled, failure := none } ∧
        s.render (RecordedFrame.mk f []) workers =
          { frame := { frame := filled, strokes := written }, failure := none } ∧
        written.map (fun t => s.canvas.slot? t.point) =
          (List.range (s.canvas.width * s.canvas.height)).map some ∧
        filled = f.paint s.canvas written ∧
        filled.size = f.size ∧
        (∀ g : Frame, g.size = f.size → (s.render g workers).frame = filled) ∧
        s.picture workers = .ok picture ∧
        (Frame.sizeProblem? .array s.canvas.frameSize = none → s.keptPicture workers = .ok picture) ∧
        picture.rows.length = s.canvas.height ∧
        (∀ row ∈ picture.rows, row.length = s.canvas.width * 4) ∧
        ∀ sx sy : Nat, sx < s.canvas.width → sy < s.canvas.height →
          ∃ color,
            s.shade { x := (sx : Int) - (s.canvas.width : Int) / 2
                      y := (s.canvas.height : Int) / 2 - (sy : Int) } = .ok color ∧
            filled.slot (sy * s.canvas.width + sx) = [color.red, color.green, color.blue, color.alpha] ∧
            picture.pixelAt? sx sy = some [color.red, color.green, color.blue, color.alpha]) ∧
    (f.size ≠ s.canvas.frameSize →
      s.render f workers =
          { frame := f, failure := some (.frameSize f.size s.canvas.width s.canvas.height) } ∧
        s.render (RecordedFrame.mk f []) workers =
          { frame := { frame := f, strokes := [] }
            failure := some (.frameSize f.size s.canvas.width s.canvas.height) }) := by
  refine ⟨fun fits shades => ?_, fun misfit =>
    ⟨render_of_misfit misfit workers, render_of_misfit misfit workers⟩⟩
  obtain ⟨picture, shown, hw, hh, frame⟩ := shades.picture_eq workers
  have fitsOwn : (Frame.ofCanvas s.canvas).size = s.canvas.frameSize := by
    simp [Frame.ofCanvas, Frame.filled, Frame.size]
  refine ⟨f.paint s.canvas s.strokes, s.strokes, picture, shades.render_eq fits workers,
    shades.render_recorded fits workers, shades.slots_strokes, rfl, Frame.size_paint _ _ _,
    fun g hg => ?_, shown, fun room => ?_, ?_, fun row hrow => ?_, fun sx sy hx hy => ?_⟩
  · rw [shades.render_eq (hg.trans fits) workers]
    exact shades.paint_strokes_eq (hg.trans fits) fits
  · unfold keptPicture
    rw [room]
    exact shown
  · rw [← hh]
    exact (List.length_map _).trans List.length_range
  · rw [← hw]
    exact picture.length_of_mem_rows hrow
  · obtain ⟨color, hc, slot⟩ :=
      shades.slot_paint_strokes fits (Canvas.slot?_pointAt s.canvas hx hy)
    refine ⟨color, hc, slot, ?_⟩
    rw [picture.pixelAt?_eq_slot (hw ▸ hx) (hh ▸ hy), hw, frame, shades.paint_strokes_eq fitsOwn fits]
    exact congrArg some slot

/-- A red ball straight ahead, in flat light, on six pixels. -/
def ball : Scene :=
  { canvas := { width := 3, height := 2 }
    spheres := [{ center := ⟨0, 0, 3.0⟩, radius := 1.5, color := .pureRed, radius_pos := by decide }]
    lights := [.ambient 0.5]
    viewport := .unit
    background := .white
    title := "Ball"
    camera := .origin }

/-- The frame of the ball, in which there were other bytes before: it takes one stroke for each of its six
    pixels, and the middle of its lower row shows what the center of the canvas is shaded with.  One byte
    less is refused. -/
theorem render_fills_ball :
    (Frame.filled 24 7).size = ball.canvas.frameSize ∧ ball.Shades ∧
    (Frame.filled 23 7).size ≠ ball.canvas.frameSize ∧
    (ball.render (RecordedFrame.mk (Frame.filled 24 7) []) (some 1)).frame.strokes.map
      (fun t => ball.canvas.slot? t.point) = [some 0, some 1, some 2, some 3, some 4, some 5] ∧
    (∃ color, ball.shade { x := 0, y := 0 } = .ok color ∧
      (ball.render (Frame.filled 24 7) (some 1)).frame.slot 4 =
        [color.red, color.green, color.blue, color.alpha]) ∧
    ball.render (Frame.filled 23 7) (some 1) =
      { frame := Frame.filled 23 7, failure := some (.frameSize 23 3 2) } := by
  have fits : (Frame.filled 24 7).size = ball.canvas.frameSize := by decide
  have misfit : (Frame.filled 23 7).size ≠ ball.canvas.frameSize := by decide
  have shades : ball.Shades := by decide +kernel
  obtain ⟨filled, written, picture, rendered, recorded, once, -, -, -, -, -, -, -, pixels⟩ :=
    (render_fills ball (Frame.filled 24 7) (some 1)).1 fits shades
  obtain ⟨color, shaded, slot, -⟩ := pixels 1 1 (by decide) (by decide)
  refine ⟨fits, shades, misfit, ?_, ⟨color, shaded, ?_⟩, ?_⟩
  · rw [recorded]
    exact once
  · rw [rendered]
    exact slot
  · exact ((render_fills ball (Frame.filled 23 7) (some 1)).2 misfit).1

end Scene
end LitSpheres
