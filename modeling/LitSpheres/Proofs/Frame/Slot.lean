/-
  A frame as a store of slots.

  1. **Program** — `Frame.put` overwrites the four bytes of one slot; a painting is a fold of puts.

  2. **Specification** — after a put, the slot that was written holds the color and every other slot
     holds what it held before; a frame of whole slots is determined by them.

  3. **The crux** — the byte ranges of two slots are disjoint, so puts at different points commute.
     Puts of the same color at the same point commute as well, and that is all that a painting needs
     for its order not to matter.
-/
import LitSpheres.Proofs.Canvas.Scan
import LitSpheres.Render

namespace LitSpheres

@[simp] theorem Color.length_bytes (c : Color) : c.bytes.length = 4 := rfl

namespace Frame

/-! ## Bytes -/

theorem ext_bytes {f g : Frame} (h : ∀ i : Nat, f.bytes[i]? = g.bytes[i]?) : f = g := by
  obtain ⟨fs⟩ := f
  obtain ⟨gs⟩ := g
  exact congrArg Frame.mk (Array.ext_getElem? h)

theorem getElem?_setByte (f : Frame) (i : Nat) (b : UInt8) (j : Nat) :
    (f.setByte i b).bytes[j]? = if i = j ∧ j < f.size then some b else f.bytes[j]? := by
  unfold setByte Frame.size
  rw [Array.getElem?_setIfInBounds]
  by_cases hij : i = j
  · subst hij
    by_cases hi : i < f.bytes.size
    · simp [hi]
    · simp [hi]
  · simp [hij]

/-- What the four bytes at an offset are after they are overwritten, and that no other byte changes. -/
theorem getElem?_setSlot (f : Frame) {o : Nat} (c : Color) (fits : o + 4 ≤ f.size) (j : Nat) :
    (f.setSlot o c).bytes[j]? = if o ≤ j ∧ j < o + 4 then c.bytes[j - o]? else f.bytes[j]? := by
  unfold setSlot
  simp only [getElem?_setByte, size_setByte]
  by_cases inside : o ≤ j ∧ j < o + 4
  · obtain ⟨k, rfl⟩ := Nat.exists_eq_add_of_le inside.1
    have four : k = 0 ∨ k = 1 ∨ k = 2 ∨ k = 3 := by omega
    rw [if_pos inside, Nat.add_sub_cancel_left]
    -- only one of the four writes goes to this byte
    rcases four with rfl | rfl | rfl | rfl
    · rw [if_neg (by omega), if_neg (by omega), if_neg (by omega), if_pos (by omega)]; rfl
    · rw [if_neg (by omega), if_neg (by omega), if_pos (by omega)]; rfl
    · rw [if_neg (by omega), if_pos (by omega)]; rfl
    · rw [if_pos (by omega)]; rfl
  · rw [if_neg inside, if_neg (by omega), if_neg (by omega), if_neg (by omega), if_neg (by omega)]

/-! ## Slots -/

/-- The bytes of a slot. -/
def slot (f : Frame) (k : Nat) : List UInt8 := (f.bytes.toList.drop (4 * k)).take 4

theorem getElem?_slot (f : Frame) (k i : Nat) :
    (f.slot k)[i]? = if i < 4 then f.bytes[4 * k + i]? else none := by
  unfold slot
  rw [List.getElem?_take]
  split
  · rw [List.getElem?_drop, Array.getElem?_toList]
  · rfl

/-- The slot that is overwritten holds the color. -/
theorem slot_setSlot_self (f : Frame) {k : Nat} (c : Color) (fits : 4 * k + 4 ≤ f.size) :
    (f.setSlot (k * 4) c).slot k = c.bytes := by
  refine List.ext_getElem? fun i => ?_
  rw [getElem?_slot]
  split
  · next hi =>
    rw [getElem?_setSlot f c (by omega), if_pos (by omega)]
    congr 1
    omega
  · next hi => rw [List.getElem?_eq_none (by simp only [Color.length_bytes]; omega)]

/-- Every other slot is left alone. -/
theorem slot_setSlot_of_ne (f : Frame) {k j : Nat} (c : Color) (fits : 4 * k + 4 ≤ f.size) (h : j ≠ k) :
    (f.setSlot (k * 4) c).slot j = f.slot j := by
  refine List.ext_getElem? fun i => ?_
  rw [getElem?_slot, getElem?_slot]
  split
  · rw [getElem?_setSlot f c (by omega), if_neg (by omega)]
  · rfl

/-- **A frame of whole slots is determined by them.** -/
theorem ext_slots {f g : Frame} {n : Nat} (hf : f.size = n * 4) (hg : g.size = n * 4)
    (h : ∀ k, k < n → f.slot k = g.slot k) : f = g := by
  refine ext_bytes fun i => ?_
  by_cases hi : i < n * 4
  · have both := congrArg (fun s => s[i % 4]?) (h (i / 4) (by omega))
    simp only [getElem?_slot, if_pos (Nat.mod_lt i (by decide : 0 < 4)), Nat.div_add_mod] at both
    exact both
  · unfold Frame.size at hf hg
    rw [Array.getElem?_eq_none (by omega), Array.getElem?_eq_none (by omega)]

/-! ## Puts -/

variable {f : Frame} {canvas : Canvas}

theorem put_of_slot? (f : Frame) {p : CanvasPoint} {k : Nat} (color : Color)
    (h : canvas.slot? p = some k) : f.put canvas p color = f.setSlot (k * 4) color := by
  unfold put
  unfold Canvas.slot? at h
  cases on : canvas.toScreen p with
  | on x y =>
    rw [on] at h
    rw [← Option.some.inj h]
  | off =>
    rw [on] at h
    exact absurd h (by simp)

theorem put_of_off (f : Frame) {p : CanvasPoint} (color : Color) (h : canvas.slot? p = none) :
    f.put canvas p color = f := by
  unfold put
  unfold Canvas.slot? at h
  cases on : canvas.toScreen p with
  | on x y =>
    rw [on] at h
    exact absurd h (by simp)
  | off => rfl

/-- **What a put does**: the slot of its point holds the color, every other slot what it held. -/
theorem slot_put (fits : f.size = canvas.frameSize) (p : CanvasPoint) (color : Color) (j : Nat) :
    (f.put canvas p color).slot j = if canvas.slot? p = some j then color.bytes else f.slot j := by
  rw [Canvas.frameSize_eq] at fits
  cases h : canvas.slot? p with
  | none => rw [put_of_off f color h, if_neg (by simp)]
  | some k =>
    have hk := (Canvas.pixel_of_slot? h).2
    rw [put_of_slot? f color h]
    by_cases hj : j = k
    · subst hj
      rw [if_pos rfl, slot_setSlot_self f color (by omega)]
    · rw [if_neg (fun e => hj (Option.some.inj e).symm), slot_setSlot_of_ne f color (by omega) hj]

/-- Puts at different points commute, and so do puts of the same color. -/
theorem put_comm (fits : f.size = canvas.frameSize) {p q : CanvasPoint} {a b : Color}
    (h : p = q → a = b) :
    (f.put canvas p a).put canvas q b = (f.put canvas q b).put canvas p a := by
  have fitsA : (f.put canvas p a).size = canvas.frameSize := by rw [size_put, fits]
  have fitsB : (f.put canvas q b).size = canvas.frameSize := by rw [size_put, fits]
  refine ext_slots (n := canvas.pixelCount) (by rw [size_put, fitsA]; rfl) (by rw [size_put, fitsB]; rfl)
    fun j _ => ?_
  rw [slot_put fitsA, slot_put fitsB, slot_put fits, slot_put fits]
  by_cases hp : canvas.slot? p = some j
  · by_cases hq : canvas.slot? q = some j
    · -- both go to this slot, so they are the same point and have the same color
      rw [if_pos hq, if_pos hp, h (Canvas.slot?_inj hp hq)]
    · rw [if_neg hq, if_neg hq]
  · rw [if_neg hp, if_neg hp]

/-! ## Paintings -/

@[simp] theorem paint_nil (f : Frame) (canvas : Canvas) : f.paint canvas [] = f := rfl

@[simp] theorem paint_cons (f : Frame) (canvas : Canvas) (s : Stroke) (strokes : List Stroke) :
    f.paint canvas (s :: strokes) = (f.put canvas s.point s.color).paint canvas strokes := rfl

theorem paint_append (f : Frame) (canvas : Canvas) (first second : List Stroke) :
    f.paint canvas (first ++ second) = (f.paint canvas first).paint canvas second :=
  List.foldl_append

/-- Strokes that agree on the color of each point. -/
def Agree (strokes : List Stroke) : Prop :=
  ∀ s ∈ strokes, ∀ t ∈ strokes, s.point = t.point → s.color = t.color

/-- **The order of agreeing strokes does not matter.** -/
theorem paint_perm (fits : f.size = canvas.frameSize) {xs ys : List Stroke} (h : xs.Perm ys)
    (agree : Agree xs) : f.paint canvas xs = f.paint canvas ys := by
  induction h generalizing f with
  | nil => rfl
  | cons s _ ih =>
    rw [paint_cons, paint_cons]
    exact ih (by rw [size_put, fits])
      fun x hx y hy => agree x (List.mem_cons_of_mem s hx) y (List.mem_cons_of_mem s hy)
  | swap s t us =>
    simp only [paint_cons]
    rw [put_comm fits fun e => agree t List.mem_cons_self s (List.mem_cons_of_mem t List.mem_cons_self) e]
  | trans hxy _ ihx ihy =>
    exact (ihx fits agree).trans
      (ihy fits fun x hx y hy => agree x (hxy.mem_iff.2 hx) y (hxy.mem_iff.2 hy))

end Frame
end LitSpheres
