/-
  What a rendering leaves in the frame when some pixel cannot be shaded.

  1. **Program** — a task puts the colors of its row from the left and ends at the first pixel that cannot
     be shaded.  One worker goes no further; several workers do what they can of every row.

  2. **Specification** — one worker leaves the colors of the pixels before the first one of the canvas that
     fails, several workers those before the first one of each row; every other byte is what it was.
     The problem that is reported is that of the first failing pixel of the canvas, whatever the
     schedule.

  3. **The crux** — the rows of one worker are one long task, so both ways of working are paintings.  A
     painting changes the bytes of its own slots only, and the points of its strokes are known.
-/
import LitSpheres.Proofs.Render.Failure
import LitSpheres.Proofs.Render.Schedule

namespace LitSpheres

/-! ## Bytes that a painting leaves alone -/

namespace Frame

variable {f : Frame} {canvas : Canvas} {i : Nat}

/-- A put changes no byte outside the slot of its point. -/
theorem getElem?_put_of_ne (fits : f.size = canvas.frameSize) {p : CanvasPoint} (color : Color)
    (h : canvas.slot? p ≠ some (i / 4)) : (f.put canvas p color).bytes[i]? = f.bytes[i]? := by
  cases hp : canvas.slot? p with
  | none => rw [put_of_off f color hp]
  | some k =>
    have inside := (Canvas.pixel_of_slot? hp).2
    have other : k ≠ i / 4 := by
      rintro rfl
      exact h hp
    rw [Canvas.frameSize_eq] at fits
    rw [put_of_slot? f color hp, getElem?_setSlot f color (by omega), if_neg (by omega)]

/-- A painting changes no byte outside the slots of its strokes. -/
theorem getElem?_paint_of_ne (fits : f.size = canvas.frameSize) {strokes : List Stroke}
    (h : ∀ t ∈ strokes, canvas.slot? t.point ≠ some (i / 4)) :
    (f.paint canvas strokes).bytes[i]? = f.bytes[i]? := by
  induction strokes generalizing f with
  | nil => rfl
  | cons t ts ih =>
    have fitsPut : (f.put canvas t.point t.color).size = canvas.frameSize := by rw [size_put, fits]
    rw [paint_cons, ih fitsPut fun u hu => h u (List.mem_cons_of_mem t hu)]
    exact getElem?_put_of_ne fits t.color (h t List.mem_cons_self)

end Frame

/-! ## Tasks in a row -/

namespace Task

variable {shade : CanvasPoint → Except ValueProblem Color} {ps : List CanvasPoint}

/-- A task puts colors at its points up to the first one that cannot be shaded. -/
theorem points_ofPoints (ps : List CanvasPoint) :
    (ofPoints shade ps).strokes.map (·.point) = ps.takeWhile fun p => (shade p).isOk := by
  induction ps with
  | nil => rfl
  | cons p ps ih =>
    rw [List.takeWhile_cons]
    cases hp : shade p with
    | error problem =>
      rw [ofPoints_cons_error hp]
      rfl
    | ok color =>
      rw [ofPoints_cons_ok hp]
      exact congrArg (p :: ·) ih

/-- A task that does not fail goes on with further points. -/
theorem ofPoints_append_of_none (h : (ofPoints shade ps).failure = none) (qs : List CanvasPoint) :
    ofPoints shade (ps ++ qs) =
      { strokes := (ofPoints shade ps).strokes ++ (ofPoints shade qs).strokes
        failure := (ofPoints shade qs).failure } := by
  induction ps with
  | nil => rfl
  | cons p ps ih =>
    cases hp : shade p with
    | error problem =>
      rw [ofPoints_cons_error hp] at h
      exact absurd h nofun
    | ok color =>
      rw [ofPoints_cons_ok hp] at h
      rw [List.cons_append, ofPoints_cons_ok hp, ofPoints_cons_ok hp, ih h]
      rfl

/-- A task that fails does not come to further points. -/
theorem ofPoints_append_of_some {problem : ValueProblem} (h : (ofPoints shade ps).failure = some problem)
    (qs : List CanvasPoint) : ofPoints shade (ps ++ qs) = ofPoints shade ps := by
  induction ps with
  | nil => exact absurd h nofun
  | cons p ps ih =>
    cases hp : shade p with
    | error other => rw [List.cons_append, ofPoints_cons_error hp, ofPoints_cons_error hp]
    | ok color =>
      rw [ofPoints_cons_ok hp] at h
      rw [List.cons_append, ofPoints_cons_ok hp, ofPoints_cons_ok hp, ih h]

end Task

namespace Scene

variable {s : Scene} {f g : Frame}

/-- The points before the first one that cannot be shaded. -/
def reached (s : Scene) (ps : List CanvasPoint) : List CanvasPoint := ps.takeWhile fun p => (s.shade p).isOk

/-- One worker that has failed does nothing more. -/
theorem foldl_addRow_failed {r : Rendering Frame} (failed : r.failure.isSome) (ys : List Int) :
    ys.foldl (Rendering.addRow s true) r = r := by
  induction ys with
  | nil => rfl
  | cons y ys ih =>
    have kept : Rendering.addRow s true r y = r := if_pos failed
    rw [List.foldl_cons, kept, ih]

/-- **The rows of one worker are one long task.** -/
theorem foldl_addRow_serial (ys : List Int) (f : Frame) :
    ys.foldl (Rendering.addRow s true) { frame := f, failure := none } =
      { frame := f.paint s.canvas (Task.ofPoints s.shade (ys.flatMap s.canvas.row)).strokes
        failure := (Task.ofPoints s.shade (ys.flatMap s.canvas.row)).failure } := by
  induction ys generalizing f with
  | nil => rfl
  | cons y ys ih =>
    have row : Rendering.addRow s true { frame := f, failure := none } y =
        { frame := f.paint s.canvas (s.task y).strokes, failure := (s.task y).failure } := rfl
    rw [List.foldl_cons, row, List.flatMap_cons]
    cases hy : (s.task y).failure with
    | none =>
      rw [ih, Task.ofPoints_append_of_none hy, Frame.paint_append]
      rfl
    | some problem =>
      rw [foldl_addRow_failed rfl, Task.ofPoints_append_of_some hy]
      exact congrArg (Rendering.mk _) hy.symm

/-! ## The frame of a rendering -/

theorem frame_render_serial (fits : f.size = s.canvas.frameSize) {workers : Option Int}
    (serial : isSerial workers = true) :
    (s.render f workers).frame = f.paint s.canvas (Task.ofPoints s.shade s.canvas.points).strokes := by
  rw [render_of_fits (b := f) fits, serial, foldl_addRow_serial]
  rfl

theorem frame_render_parallel (fits : f.size = s.canvas.frameSize) {workers : Option Int}
    (several : isSerial workers = false) : (s.render f workers).frame = f.paint s.canvas s.strokes := by
  rw [render_of_fits (b := f) fits, several, Pool.foldl_addRow_parallel]
  rfl

/-- The strokes of all rows reach in each row as far as it goes. -/
theorem points_strokes (s : Scene) :
    s.strokes.map (·.point) = s.canvas.rows.flatMap fun y => s.reached (s.canvas.row y) := by
  rw [strokes, List.map_flatMap]
  exact List.flatMap_congr fun y _ => Task.points_ofPoints _

/-- The new frame holds the colors of the given points, and every other byte of the old one. -/
structure PaintedJust (s : Scene) (points : List CanvasPoint) (old new : Frame) : Prop where
  size_eq : new.size = old.size
  /-- Each of the points is on screen, can be shaded, and has its color in its slot. -/
  color : ∀ p ∈ points, ∃ k color, s.canvas.slot? p = some k ∧ s.shade p = .ok color ∧
    new.slot k = [color.red, color.green, color.blue, color.alpha]
  /-- A byte that is not one of the four of such a point is kept. -/
  kept : ∀ i : Nat, (∀ p ∈ points, s.canvas.slot? p ≠ some (i / 4)) → new.bytes[i]? = old.bytes[i]?

/-- **Strokes that the scene has shaded** leave their colors and nothing else. -/
theorem paintedJust_paint (fits : f.size = s.canvas.frameSize) {strokes : List Stroke}
    (shaded : ∀ t ∈ strokes, s.shade t.point = .ok t.color)
    (inside : ∀ t ∈ strokes, t.point ∈ s.canvas.points) :
    s.PaintedJust (strokes.map (·.point)) f (f.paint s.canvas strokes) where
  size_eq := Frame.size_paint _ _ _
  color := by
    intro p hp
    obtain ⟨t, ht, rfl⟩ := List.mem_map.1 hp
    obtain ⟨k, hk⟩ := Canvas.mem_points_iff.1 (inside t ht)
    exact ⟨k, t.color, hk, shaded t ht, Frame.slot_paint fits (agree_of_shaded shaded) ht hk⟩
  kept := by
    intro i untouched
    exact Frame.getElem?_paint_of_ne fits fun t ht => untouched t.point (List.mem_map_of_mem ht)

/-- One worker paints the pixels before the first that fails. -/
theorem paintedJust_serial (fits : f.size = s.canvas.frameSize) {workers : Option Int}
    (serial : isSerial workers = true) :
    s.PaintedJust (s.reached s.canvas.points) f (s.render f workers).frame := by
  have points : (Task.ofPoints s.shade s.canvas.points).strokes.map (·.point) = s.reached s.canvas.points :=
    Task.points_ofPoints _
  rw [frame_render_serial fits serial, ← points]
  refine paintedJust_paint fits (fun t ht => Task.shade_of_mem_strokes ht) fun t ht => ?_
  have reached : t.point ∈ s.reached s.canvas.points := points ▸ List.mem_map_of_mem ht
  exact (List.takeWhile_prefix _).subset reached

/-- Several workers paint in each row the pixels before the first that fails there. -/
theorem paintedJust_parallel (fits : f.size = s.canvas.frameSize) {workers : Option Int}
    (several : isSerial workers = false) :
    s.PaintedJust (s.canvas.rows.flatMap fun y => s.reached (s.canvas.row y)) f (s.render f workers).frame := by
  rw [frame_render_parallel fits several, ← points_strokes]
  refine paintedJust_paint fits (fun t ht => shade_of_mem_strokes ht) fun t ht => ?_
  have reached : t.point ∈ s.canvas.rows.flatMap fun y => s.reached (s.canvas.row y) :=
    points_strokes s ▸ List.mem_map_of_mem ht
  obtain ⟨y, hy, ht⟩ := List.mem_flatMap.1 reached
  exact mem_points_of_row hy ((List.takeWhile_prefix _).subset ht)

/-! ## The first failing pixel -/

/-- The pixels that are reached end at one that fails, unless they are all. -/
theorem exists_failing {ps : List CanvasPoint} (h : ∃ p ∈ ps, ∃ problem, s.shade p = .error problem) :
    ∃ p after problem, ps = s.reached ps ++ p :: after ∧ s.shade p = .error problem := by
  induction ps with
  | nil =>
    obtain ⟨p, hp, -⟩ := h
    exact absurd hp List.not_mem_nil
  | cons q qs ih =>
    unfold reached
    rw [List.takeWhile_cons]
    cases hq : s.shade q with
    | error problem => exact ⟨q, qs, problem, rfl, hq⟩
    | ok color =>
      have later : ∃ p ∈ qs, ∃ problem, s.shade p = .error problem := by
        obtain ⟨p, hp, problem, failed⟩ := h
        rcases List.mem_cons.1 hp with rfl | hp
        · exact absurd (hq.symm.trans failed) nofun
        · exact ⟨p, hp, problem, failed⟩
      obtain ⟨p, after, problem, split, failed⟩ := ih later
      exact ⟨p, after, problem, congrArg (q :: ·) split, failed⟩

/-- What is reached can be shaded. -/
theorem problemAt?_of_mem_reached {ps : List CanvasPoint} {p : CanvasPoint} (h : p ∈ s.reached ps) :
    s.problemAt? p = none := by
  have shaded : (s.shade p).isOk = true := List.all_eq_true.1 List.all_takeWhile p h
  unfold problemAt?
  cases hp : s.shade p with
  | error problem =>
    rw [hp] at shaded
    exact absurd shaded Bool.false_ne_true
  | ok color => rfl

/-- The failure of a rendering is that of the pixel behind those that are reached. -/
theorem failure_render_of_split (fits : f.size = s.canvas.frameSize) (workers : Option Int) {p : CanvasPoint}
    {after : List CanvasPoint} {problem : ValueProblem}
    (split : s.canvas.points = s.reached s.canvas.points ++ p :: after) (failed : s.shade p = .error problem) :
    (s.render f workers).failure = some problem := by
  have before : (s.reached s.canvas.points).findSome? s.problemAt? = none :=
    List.findSome?_eq_none_iff.2 fun q hq => problemAt?_of_mem_reached hq
  rw [failure_render fits, split, List.findSome?_append, before, Option.none_or, List.findSome?_cons,
    problemAt?_eq_some_iff.2 failed]

/-! ## Any number of workers -/

/-- Whatever a rendering may leave is what one row after another leaves. -/
theorem Renders.eq_render {workers : Option Int} {r : Rendering Frame} (fits : f.size = s.canvas.frameSize)
    (h : s.Renders f workers r) : r = s.render f workers := by
  unfold Renders at h
  split at h
  · next several =>
    obtain ⟨pool, run, ended, rfl⟩ := h
    exact Pool.rendering_eq_render fits several.2 run ended
  · exact h

/-- There is a rendering for every number of workers. -/
theorem exists_renders (s : Scene) (f : Frame) (workers : Option Int) : ∃ r, s.Renders f workers r := by
  unfold Renders
  split
  · obtain ⟨pool, run, ended⟩ := Pool.exists_ended s (Pool.start s f)
    exact ⟨_, pool, run, ended, rfl⟩
  · exact ⟨_, rfl⟩

theorem isSerial_of_le_one {workers : Option Int} (h : ∀ n ∈ workers, n ≤ 1) : isSerial workers = true := by
  cases workers with
  | none => rfl
  | some n => exact decide_eq_true (h n rfl)

theorem isSerial_of_two_le {workers : Option Int} (h : ∃ n ∈ workers, 2 ≤ n) : isSerial workers = false := by
  obtain ⟨n, rfl, two⟩ := h
  have beyond : ¬ n ≤ 1 := by omega
  exact decide_eq_false beyond

/-- **What a rendering leaves when it fails.**  For a scene with pixels that cannot be shaded and a frame of
    its canvas, let the first of those be the one behind the pixels that are reached, row by row from the
    top and each row from the left.  Then with any number of workers and under any schedule there is a
    rendering, and it fails with the problem of this pixel.  If no number of workers is given or at most
    one, the frame holds the colors of the pixels before it, and every other byte is what it was; with
    two workers or more, it holds in each row the colors of the pixels before the first that fails in
    that row, and every other byte is what it was. -/
theorem renders_up_to_failure (s : Scene) (frame : Frame) (fits : frame.size = s.canvas.frameSize)
    (dark : ∃ p ∈ s.canvas.points, ∃ problem, s.shade p = .error problem) (workers : Option Int) :
    ∃ p after problem, s.canvas.points = s.reached s.canvas.points ++ p :: after ∧
      s.shade p = .error problem ∧
      (∃ r, s.Renders frame workers r) ∧
      ∀ r, s.Renders frame workers r →
        r.failure = some problem ∧
        ((∀ n ∈ workers, n ≤ 1) → s.PaintedJust (s.reached s.canvas.points) frame r.frame) ∧
        ((∃ n ∈ workers, 2 ≤ n) →
          s.PaintedJust (s.canvas.rows.flatMap fun y => s.reached (s.canvas.row y)) frame r.frame) := by
  obtain ⟨p, after, problem, split, failed⟩ := exists_failing dark
  refine ⟨p, after, problem, split, failed, exists_renders s frame workers, ?_⟩
  intro r hr
  obtain rfl := hr.eq_render fits
  refine ⟨failure_render_of_split fits workers split failed, ?_, ?_⟩
  · intro one
    exact paintedJust_serial fits (isSerial_of_le_one one)
  · intro several
    exact paintedJust_parallel fits (isSerial_of_two_le several)

/-- A small ball above the middle, in light whose direction is too short to have a length: its one pixel,
    the middle one of the upper row, cannot be shaded. -/
def lamp : Scene :=
  { ball with
    spheres := [{ center := ⟨0, 1.5, 3.0⟩, radius := 0.5, color := .pureRed, radius_pos := by decide }]
    lights := [.directional 1 ⟨0, 0, -1e-170⟩]
    title := "Lamp" }

/-- One worker does not come to the lower row, two workers paint it. -/
theorem renders_up_to_failure_lamp :
    (Frame.filled 24 7).size = lamp.canvas.frameSize ∧
    (∃ p ∈ lamp.canvas.points, ∃ problem, lamp.shade p = .error problem) ∧
    (∀ r, lamp.Renders (Frame.filled 24 7) none r → r.failure.isSome ∧ r.frame.bytes[12]? = some 7) ∧
    (∀ r, lamp.Renders (Frame.filled 24 7) (some 2) r →
      r.failure.isSome ∧ r.frame.slot 3 = [255, 255, 255, 255]) := by
  have fits : (Frame.filled 24 7).size = lamp.canvas.frameSize := by decide
  have unlit : (lamp.shade { x := 0, y := 1 }).isOk = false := by decide +kernel
  have dark : ∃ p ∈ lamp.canvas.points, ∃ problem, lamp.shade p = .error problem := by
    refine ⟨{ x := 0, y := 1 }, by decide, ?_⟩
    cases hp : lamp.shade { x := 0, y := 1 } with
    | error problem => exact ⟨problem, rfl⟩
    | ok color => exact absurd (hp ▸ unlit) nofun
  refine ⟨fits, dark, ?_, ?_⟩
  · intro r hr
    obtain ⟨p, after, problem, -, -, -, all⟩ := renders_up_to_failure lamp (Frame.filled 24 7) fits dark none
    obtain ⟨failed, serial, -⟩ := all r hr
    have points : ∀ p ∈ lamp.reached lamp.canvas.points, lamp.canvas.slot? p ≠ some (12 / 4) := by
      decide +kernel
    exact ⟨by rw [failed]; rfl, ((serial (by simp)).kept 12 points).trans (by decide)⟩
  · intro r hr
    obtain ⟨p, after, problem, -, -, -, all⟩ :=
      renders_up_to_failure lamp (Frame.filled 24 7) fits dark (some 2)
    obtain ⟨failed, -, parallel⟩ := all r hr
    have painted := parallel ⟨2, rfl, by decide⟩
    have row : (⟨-1, 0⟩ : CanvasPoint) ∈
        lamp.canvas.rows.flatMap fun y => lamp.reached (lamp.canvas.row y) := by
      decide +kernel
    obtain ⟨k, color, hk, shaded, slot⟩ := painted.color _ row
    obtain rfl : 3 = k := Option.some.inj hk
    have white : (lamp.shade ⟨-1, 0⟩).toOption = some .white := by decide +kernel
    rw [shaded] at white
    obtain rfl : color = .white := Option.some.inj white
    exact ⟨by rw [failed]; rfl, slot⟩

end Scene
end LitSpheres
