/-
  A frame holds the colors that were put last.

  1. **Program** — strokes are put into a frame one after another, each at any canvas point, on screen or off
     it, and however the bytes of the frame are kept.

  2. **Specification** — in a frame of the canvas there is room for every stroke, and its length stays.  The
     four bytes of a pixel are the channels of the color that was put there last, or what they were before.

  3. **The crux** — a put is seen in one slot only, so a frame is told by the last color of each pixel, and
     strokes that leave the same last colors on screen leave the same frame: strokes off screen can be left
     out, and two strokes at different points can change places.
-/
import Mathlib.Data.List.Induction
import LitSpheres.Proofs.Frame.Slot

namespace LitSpheres

/-! ## The last color of a point -/

/-- The color that the last of the strokes to a point puts there, if there is one. -/
def Stroke.last? (strokes : List Stroke) (p : CanvasPoint) : Option Color :=
  (strokes.reverse.find? (·.point = p)).map (·.color)

namespace Stroke

variable {canvas : Canvas} {p : CanvasPoint} {s t : Stroke}

theorem last?_singleton (s : Stroke) (p : CanvasPoint) :
    last? [s] p = if s.point = p then some s.color else none := by
  unfold last?
  by_cases h : s.point = p
  · simp [h]
  · simp [h]

/-- Of two lists of strokes the second one decides, if it has a stroke to the point. -/
theorem last?_append (first second : List Stroke) (p : CanvasPoint) :
    last? (first ++ second) p = (last? second p).or (last? first p) := by
  unfold last?
  rw [List.reverse_append, List.find?_append, Option.map_or]

theorem last?_cons (s : Stroke) (strokes : List Stroke) (p : CanvasPoint) :
    last? (s :: strokes) p = (last? strokes p).or (if s.point = p then some s.color else none) := by
  rw [← last?_singleton]
  exact last?_append [s] strokes p

/-- Two strokes at different points can change places. -/
theorem last?_swap (h : s.point ≠ t.point) (before after : List Stroke) (p : CanvasPoint) :
    last? (before ++ t :: s :: after) p = last? (before ++ s :: t :: after) p := by
  rw [last?_append, last?_append, last?_cons, last?_cons, last?_cons, last?_cons]
  by_cases hs : s.point = p
  · have ht : t.point ≠ p := fun ht => h (hs.trans ht.symm)
    rw [if_neg ht, Option.or_none, Option.or_none]
  · rw [if_neg hs, Option.or_none, Option.or_none]

/-- For a point on screen the strokes off screen do not count. -/
theorem last?_filter (on : canvas.contains p = true) (strokes : List Stroke) :
    last? (strokes.filter fun s => canvas.contains s.point) p = last? strokes p := by
  induction strokes with
  | nil => rfl
  | cons s strokes ih =>
    rw [List.filter_cons]
    by_cases inside : canvas.contains s.point = true
    · rw [if_pos inside, last?_cons, last?_cons, ih]
    · have other : s.point ≠ p := by
        rintro rfl
        exact inside on
      rw [if_neg inside, last?_cons, if_neg other, Option.or_none, ih]

end Stroke

namespace Frame

variable {f : Frame} {canvas : Canvas}

/-! ## Strokes in a row -/

/-- **What strokes do**: each slot holds the last color of its point, or what it held. -/
theorem slot_paint_eq (fits : f.size = canvas.frameSize) (strokes : List Stroke) {p : CanvasPoint} {k : Nat}
    (hk : canvas.slot? p = some k) :
    (f.paint canvas strokes).slot k = ((Stroke.last? strokes p).map Color.bytes).getD (f.slot k) := by
  induction strokes using List.reverseRecOn with
  | nil => rfl
  | append_singleton before s ih =>
    rw [paint_append, paint_cons, paint_nil, slot_put (by rw [size_paint, fits]), ih, Stroke.last?_append,
      Stroke.last?_singleton]
    by_cases h : s.point = p
    · rw [if_pos (by rw [h, hk]), if_pos h]
      rfl
    · have other : canvas.slot? s.point ≠ some k := fun same => h (Canvas.slot?_inj same hk)
      rw [if_neg other, if_neg h, Option.none_or]

/-- **The last colors tell the frame**: strokes that leave the same ones on screen leave the same frame. -/
theorem paint_congr (fits : f.size = canvas.frameSize) {xs ys : List Stroke}
    (h : ∀ p, canvas.contains p = true → Stroke.last? xs p = Stroke.last? ys p) :
    f.paint canvas xs = f.paint canvas ys := by
  refine ext_slots (n := canvas.pixelCount) (by rw [size_paint, fits]; rfl) (by rw [size_paint, fits]; rfl)
    fun k hk => ?_
  have slot := Canvas.slot?_pixel canvas hk
  rw [slot_paint_eq fits xs slot, slot_paint_eq fits ys slot, h _ (Canvas.contains_iff.2 ⟨k, slot⟩)]

/-- Puts strokes into a frame one after another, which may be too small for them. -/
def storeAll (f : Frame) (store : ByteStore) (canvas : Canvas) (strokes : List Stroke) :
    Except ValueProblem Frame :=
  strokes.foldlM (fun f s => f.store store canvas s.point s.color) f

/-- In a frame of the canvas there is room for all of them. -/
theorem storeAll_eq_paint (fits : f.size = canvas.frameSize) (store : ByteStore) (strokes : List Stroke) :
    f.storeAll store canvas strokes = .ok (f.paint canvas strokes) := by
  induction strokes generalizing f with
  | nil => rfl
  | cons s strokes ih =>
    unfold storeAll
    rw [List.foldlM_cons, store_eq_put fits]
    exact ih (by rw [size_put, fits])

/-- **A frame is a faithful store.**  Into a frame of the canvas, with any bytes and however they are kept, any
    strokes can be put, at points of any coordinates.  Afterwards its length is the same, and the four bytes
    of each pixel are the channels of the color that was put there last, or what they were if none was.
    Without the strokes off screen the frame would be the same, and so it would with two strokes at different
    points in the other order. -/
theorem holds_last_colors (f : Frame) (canvas : Canvas) (fits : f.size = canvas.frameSize) (store : ByteStore)
    (strokes : List Stroke) :
    ∃ g, f.storeAll store canvas strokes = .ok g ∧ g.size = f.size ∧
      (∀ p x y, canvas.toScreen p = .on x y → g.slot (y * canvas.width + x) =
        ((Stroke.last? strokes p).map Color.bytes).getD (f.slot (y * canvas.width + x))) ∧
      f.storeAll store canvas (strokes.filter fun s => canvas.contains s.point) = .ok g ∧
      ∀ before s t after, strokes = before ++ s :: t :: after → s.point ≠ t.point →
        f.storeAll store canvas (before ++ t :: s :: after) = .ok g := by
  refine ⟨f.paint canvas strokes, storeAll_eq_paint fits store strokes, size_paint f canvas strokes, ?_, ?_, ?_⟩
  · intro p x y on
    have slot : canvas.slot? p = some (y * canvas.width + x) := by
      unfold Canvas.slot?
      rw [on]
    exact slot_paint_eq fits strokes slot
  · rw [storeAll_eq_paint fits]
    exact congrArg Except.ok (paint_congr fits fun p on => Stroke.last?_filter on strokes)
  · rintro before s t after rfl apart
    rw [storeAll_eq_paint fits]
    exact congrArg Except.ok (paint_congr fits fun p _ => Stroke.last?_swap apart before after p)

/-- Two pixels by two, with the bytes 0 to 15.  Red is put at the top left and then blue; between them green,
    just beyond the right end of the top row, and then white at the bottom right. -/
theorem holds_last_colors_corners :
    let canvas : Canvas := { width := 2, height := 2 }
    let f : Frame := ⟨#[0, 1, 2, 3, 4, 5, 6, 7, 8, 9, 10, 11, 12, 13, 14, 15]⟩
    ∃ g, f.storeAll .view canvas [⟨⟨-1, 1⟩, .pureRed⟩, ⟨⟨1, 1⟩, .pureGreen⟩, ⟨⟨-1, 1⟩, .pureBlue⟩,
        ⟨⟨0, 0⟩, .white⟩] = .ok g ∧
      g.slot 0 = [0, 0, 255, 255] ∧ g.slot 1 = [4, 5, 6, 7] ∧ g.slot 2 = [8, 9, 10, 11] ∧
      g.slot 3 = [255, 255, 255, 255] ∧
      f.storeAll .view canvas [⟨⟨-1, 1⟩, .pureRed⟩, ⟨⟨1, 1⟩, .pureGreen⟩, ⟨⟨0, 0⟩, .white⟩,
        ⟨⟨-1, 1⟩, .pureBlue⟩] = .ok g := by
  intro canvas f
  obtain ⟨g, stored, -, slots, -, swapped⟩ := holds_last_colors f canvas (by decide) .view
    [⟨⟨-1, 1⟩, .pureRed⟩, ⟨⟨1, 1⟩, .pureGreen⟩, ⟨⟨-1, 1⟩, .pureBlue⟩, ⟨⟨0, 0⟩, .white⟩]
  refine ⟨g, stored, ?_, ?_, ?_, ?_, ?_⟩
  · exact (slots ⟨-1, 1⟩ 0 0 (by decide)).trans (by decide)
  · exact (slots ⟨0, 1⟩ 1 0 (by decide)).trans (by decide)
  · exact (slots ⟨-1, 0⟩ 0 1 (by decide)).trans (by decide)
  · exact (slots ⟨0, 0⟩ 1 1 (by decide)).trans (by decide)
  · exact swapped [⟨⟨-1, 1⟩, .pureRed⟩, ⟨⟨1, 1⟩, .pureGreen⟩] _ _ [] rfl (by decide)

end Frame
end LitSpheres
