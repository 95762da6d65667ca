/-
  The scan of a canvas, numbered.

  1. **Program** — a canvas lists its points row by row; each point on screen has a slot, four bytes
     wide, in the frame.

  2. **Specification** — the `k`-th point of the scan has slot `k`, for every `k` below the number of
     pixels, and no point outside the scan has a slot.  So the scan goes through the screen row by row,
     every pixel once, and the points of its rows and columns are all that is on screen.

  3. **The crux** — `slot?` and `pixel` are inverse to each other.  Both halves of the canvas are
     rounded down, so the shift from a screen position to a canvas position undoes the shift back
     whatever the parity of the sides.
-/
import LitSpheres.Canvas

namespace LitSpheres.Canvas

/-- The number of pixels. -/
def pixelCount (c : Canvas) : Nat := c.width * c.height

/-- The number of a point's slot in the frame, if the point is on screen. -/
def slot? (c : Canvas) (p : CanvasPoint) : Option Nat :=
  match c.toScreen p with
  | .on x y => some (y * c.width + x)
  | .off => none

/-- The canvas point at a screen position. -/
def pointAt (c : Canvas) (sx sy : Nat) : CanvasPoint :=
  { x := (sx : Int) - (c.width : Int) / 2, y := (c.height : Int) / 2 - sy }

/-- The canvas point of a slot. -/
def pixel (c : Canvas) (k : Nat) : CanvasPoint := c.pointAt (k % c.width) (k / c.width)

theorem frameSize_eq (c : Canvas) : c.frameSize = c.pixelCount * 4 := rfl

/-! ## Screen positions and slots -/

theorem toScreen_pointAt (c : Canvas) {sx sy : Nat} (hx : sx < c.width) (hy : sy < c.height) :
    c.toScreen (c.pointAt sx sy) = .on sx sy := by
  unfold toScreen CanvasPoint.toScreen pointAt
  dsimp only
  rw [if_pos (by omega)]
  congr 1 <;> omega

/-- A point on screen is the point at its screen position. -/
theorem eq_pointAt_of_toScreen {c : Canvas} {p : CanvasPoint} {sx sy : Nat}
    (h : c.toScreen p = .on sx sy) : p = c.pointAt sx sy ∧ sx < c.width ∧ sy < c.height := by
  unfold toScreen CanvasPoint.toScreen at h
  dsimp only at h
  split at h
  · next inside =>
    injection h with hx hy
    refine ⟨?_, by omega, by omega⟩
    obtain ⟨px, py⟩ := p
    unfold pointAt
    congr 1 <;> (dsimp only at *; omega)
  · exact absurd h (by simp)

theorem slot_lt {w h sx sy : Nat} (hx : sx < w) (hy : sy < h) : sy * w + sx < w * h := by
  have rows : (sy + 1) * w ≤ h * w := Nat.mul_le_mul_right w hy
  rw [Nat.succ_mul, Nat.mul_comm h] at rows
  omega

theorem slot?_pointAt (c : Canvas) {sx sy : Nat} (hx : sx < c.width) (hy : sy < c.height) :
    c.slot? (c.pointAt sx sy) = some (sy * c.width + sx) := by
  unfold slot?
  rw [toScreen_pointAt c hx hy]

theorem pixel_slot (c : Canvas) {sx : Nat} (sy : Nat) (hx : sx < c.width) :
    c.pixel (sy * c.width + sx) = c.pointAt sx sy := by
  unfold pixel
  rw [Nat.mul_comm sy, Nat.mul_add_mod, Nat.mod_eq_of_lt hx, Nat.mul_add_div c.width_pos,
    Nat.div_eq_of_lt hx, Nat.add_zero]

/-- The pixel of a slot is on screen where the slot is in its row. -/
theorem toScreen_pixel {c : Canvas} {k : Nat} (hk : k < c.pixelCount) :
    c.toScreen (c.pixel k) = .on (k % c.width) (k / c.width) :=
  toScreen_pointAt c (Nat.mod_lt _ c.width_pos)
    ((Nat.div_lt_iff_lt_mul c.width_pos).2 (Nat.mul_comm .. ▸ hk))

/-- **The scan is numbered by slots**, one way: the pixel of a slot has that slot. -/
theorem slot?_pixel (c : Canvas) {k : Nat} (hk : k < c.pixelCount) : c.slot? (c.pixel k) = some k := by
  unfold slot?
  rw [toScreen_pixel hk]
  dsimp only
  rw [Nat.mul_comm, Nat.div_add_mod]

/-- And back: a point with a slot is the pixel of that slot. -/
theorem pixel_of_slot? {c : Canvas} {p : CanvasPoint} {k : Nat} (h : c.slot? p = some k) :
    p = c.pixel k ∧ k < c.pixelCount := by
  unfold slot? at h
  split at h
  · next sx sy on =>
    obtain ⟨rfl, hx, hy⟩ := eq_pointAt_of_toScreen on
    obtain rfl := Option.some.inj h
    exact ⟨(pixel_slot c sy hx).symm, slot_lt hx hy⟩
  · exact absurd h (by simp)

/-- Different points on screen have different slots. -/
theorem slot?_inj {c : Canvas} {p q : CanvasPoint} {k : Nat} (hp : c.slot? p = some k)
    (hq : c.slot? q = some k) : p = q :=
  (pixel_of_slot? hp).1.trans (pixel_of_slot? hq).1.symm

/-! ## The scan in order -/

/-- Rows of equal length, one behind the other, are one long row. -/
theorem flatMap_rows {α : Type} (f : Nat → α) (w h : Nat) :
    (List.range h).flatMap (fun y => (List.range w).map fun x => f (y * w + x)) =
      (List.range (h * w)).map f := by
  induction h with
  | zero => simp
  | succ h ih =>
    rw [List.range_succ, List.flatMap_append, ih, Nat.succ_mul, List.range_add, List.map_append,
      List.map_map]
    simp [Function.comp_def]

/-- **The scan**: the canvas lists the pixels of slot `0, 1, 2, …`. -/
theorem points_eq (c : Canvas) : c.points = (List.range c.pixelCount).map c.pixel := by
  have rows : ∀ y : Nat, c.row ((c.height : Int) / 2 - y) =
      (List.range c.width).map fun x => c.pixel (y * c.width + x) := by
    intro y
    unfold row columns
    rw [List.map_map]
    refine List.map_congr_left fun x hx => ?_
    rw [pixel_slot c y (List.mem_range.1 hx)]
    rfl
  unfold points Canvas.rows pixelCount
  rw [List.flatMap_map, Nat.mul_comm, ← flatMap_rows]
  simp only [rows]

theorem mem_points_iff {c : Canvas} {p : CanvasPoint} : p ∈ c.points ↔ ∃ k, c.slot? p = some k := by
  rw [points_eq, List.mem_map]
  constructor
  · rintro ⟨k, hk, rfl⟩
    exact ⟨k, slot?_pixel c (List.mem_range.1 hk)⟩
  · rintro ⟨k, h⟩
    obtain ⟨rfl, hk⟩ := pixel_of_slot? h
    exact ⟨k, List.mem_range.2 hk, rfl⟩

/-! ## The scan as a numbering of the screen -/

variable {c : Canvas} {p : CanvasPoint}

/-- No pixel is listed twice: pixels of different slots are different. -/
theorem nodup_points (c : Canvas) : c.points.Nodup := by
  rw [points_eq]
  refine List.pairwise_map.2 (List.nodup_range.imp_of_mem fun {i j} hi hj different same => different ?_)
  have slots : some i = some j := by
    rw [← slot?_pixel c (List.mem_range.1 hi), ← slot?_pixel c (List.mem_range.1 hj), same]
  exact Option.some.inj slots

theorem contains_iff : c.contains p = true ↔ ∃ k, c.slot? p = some k := by
  unfold contains slot?
  cases c.toScreen p with
  | on x y => exact ⟨fun _ => ⟨_, rfl⟩, fun _ => rfl⟩
  | off => exact ⟨nofun, fun ⟨k, h⟩ => absurd h nofun⟩

/-- A point is listed if its column and its row are. -/
theorem mem_points_iff_row : p ∈ c.points ↔ p.x ∈ c.columns ∧ p.y ∈ c.rows := by
  unfold points row
  rw [List.mem_flatMap]
  constructor
  · rintro ⟨y, hy, hp⟩
    obtain ⟨x, hx, rfl⟩ := List.mem_map.1 hp
    exact ⟨hx, hy⟩
  · rintro ⟨hx, hy⟩
    exact ⟨p.y, hy, List.mem_map.2 ⟨p.x, hx, rfl⟩⟩

/-- **The scan goes through the frame slot by slot.**  A canvas lists as many points as it has pixels, no point
    twice, and the `k`-th of them is on screen in column `k mod width` and row `k div width`.  A point of any
    coordinates is contained exactly if it is listed, which is exactly if its column and its row are; every
    other point is off screen. -/
theorem points_in_frame_order (c : Canvas) :
    c.points.length = c.width * c.height ∧ c.points.Nodup ∧
    (∀ k < c.width * c.height, ∃ p, c.points[k]? = some p ∧
      c.toScreen p = .on (k % c.width) (k / c.width)) ∧
    ∀ p : CanvasPoint, (c.contains p = true ↔ p ∈ c.points) ∧
      (p ∈ c.points ↔ p.x ∈ c.columns ∧ p.y ∈ c.rows) ∧ (p ∉ c.points → c.toScreen p = .off) := by
  refine ⟨?_, nodup_points c, fun k hk => ⟨c.pixel k, ?_, toScreen_pixel hk⟩, fun p => ?_⟩
  · rw [points_eq, List.length_map, List.length_range]
    rfl
  · have inside : k < c.pixelCount := hk
    rw [points_eq, List.getElem?_map, List.getElem?_range inside]
    rfl
  · refine ⟨contains_iff.trans mem_points_iff.symm, mem_points_iff_row, fun unlisted => ?_⟩
    cases h : c.toScreen p with
    | off => rfl
    | on x y =>
      have contained : c.contains p = true := congrArg ScreenPoint.isOn h
      exact absurd (mem_points_iff.2 (contains_iff.1 contained)) unlisted

end LitSpheres.Canvas
