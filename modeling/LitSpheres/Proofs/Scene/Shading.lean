/-
  Which pixels of a loaded scene can be shaded.

  1. **Program** — a pixel's ray is found from the sides of the canvas, what it hits is lit by all lights
     together, and the color there is scaled.  Lengths and sides are divided by, and refused if zero.

  2. **Specification** — every ray is found, and lighting fails exactly if the surface faces a light while
     the product of the two lengths is zero.  It fails with nothing but that division.

  3. **The crux** — the sides of a loaded canvas are defaults or whole parts of finite floats, so they and
     all positions become floats again, and a side becomes no zero.
-/
import LitSpheres.Proofs.Canvas.Scan
import LitSpheres.Proofs.Scene.Loaded

namespace LitSpheres

/-! ## Lights -/

namespace Light

/-- The vector from a surface point towards the light, if the light comes from somewhere. -/
def towards? (l : Light) (at_ : Vec3 Float) : Option (Vec3 Float) :=
  match l with
  | ambient _ => none
  | point _ position => some (position - at_)
  | directional _ direction => some direction

/-- The surface does not face away from the light, but the product of the two lengths is zero. -/
def Vanishes (l : Light) (at_ normal : Vec3 Float) : Prop :=
  ∃ v, l.towards? at_ = some v ∧ ¬ normal.dot v ≤ 0 ∧ (normal.norm * v.norm == 0) = true

variable {l : Light} {lights : List Light} {at_ normal v : Vec3 Float} {intensity : Float}
  {problem : ValueProblem}

theorem diffuse_eq_error_iff : diffuse v normal intensity = .error problem ↔
    problem = .divisionByZero ∧ ¬ normal.dot v ≤ 0 ∧ (normal.norm * v.norm == 0) = true := by
  unfold diffuse
  dsimp only
  by_cases away : normal.dot v ≤ 0
  · rw [if_pos away]
    exact ⟨nofun, fun h => absurd away h.2.1⟩
  · rw [if_neg away]
    by_cases zero : (normal.norm * v.norm == 0) = true
    · rw [if_pos zero]
      exact ⟨fun h => ⟨(Except.error.inj h).symm, away, zero⟩, fun h => by rw [h.1]⟩
    · rw [if_neg zero]
      exact ⟨nofun, fun h => absurd h.2.2 zero⟩

theorem illuminate_eq_error_iff :
    l.illuminate at_ normal = .error problem ↔ problem = .divisionByZero ∧ l.Vanishes at_ normal := by
  have from_ (v : Vec3 Float) (i : Float) (h : l.towards? at_ = some v) :
      diffuse v normal i = .error problem ↔ problem = .divisionByZero ∧ l.Vanishes at_ normal := by
    refine diffuse_eq_error_iff.trans (and_congr_right' ⟨fun zero => ⟨v, h, zero⟩, ?_⟩)
    rintro ⟨w, hw, zero⟩
    obtain rfl := Option.some.inj (h.symm.trans hw)
    exact zero
  cases l with
  | ambient i => exact ⟨nofun, fun ⟨_, v, hv, _⟩ => absurd hv nofun⟩
  | point i position => exact from_ (position - at_) i rfl
  | directional i direction => exact from_ direction i rfl

/-- **Adding up lights fails** exactly if one of them vanishes. -/
theorem total_eq_error_iff : total lights at_ normal = .error problem ↔
    problem = .divisionByZero ∧ ∃ l ∈ lights, l.Vanishes at_ normal := by
  unfold total
  generalize (0 : Float) = sum
  induction lights generalizing sum with
  | nil => exact ⟨nofun, fun ⟨_, l, hl, _⟩ => absurd hl List.not_mem_nil⟩
  | cons first others ih =>
    rw [List.foldlM_cons]
    cases h : first.illuminate at_ normal with
    | error p =>
      obtain ⟨rfl, vanishes⟩ := illuminate_eq_error_iff.1 h
      constructor
      · intro failed
        exact ⟨(Except.error.inj failed).symm, first, List.mem_cons_self, vanishes⟩
      · rintro ⟨rfl, -⟩
        rfl
    | ok a =>
      have lit : ¬ first.Vanishes at_ normal := fun vanishes =>
        absurd (h.symm.trans (illuminate_eq_error_iff.2 ⟨rfl, vanishes⟩)) nofun
      refine (ih (sum + a)).trans (and_congr_right' ?_)
      constructor
      · rintro ⟨l, hl, vanishes⟩
        exact ⟨l, List.mem_cons_of_mem first hl, vanishes⟩
      · rintro ⟨l, hl, vanishes⟩
        rcases List.mem_cons.1 hl with rfl | hl
        · exact absurd vanishes lit
        · exact ⟨l, hl, vanishes⟩

end Light

/-! ## Rays -/

/-- The sides of the canvas are not beyond the largest float. -/
structure Canvas.Representable (c : Canvas) : Prop where
  width : c.width ≤ Binary64.largest
  height : c.height ≤ Binary64.largest

theorem Canvas.natAbs_le_of_mem {c : Canvas} {p : CanvasPoint} (h : p ∈ c.points) :
    p.x.natAbs ≤ c.width ∧ p.y.natAbs ≤ c.height := by
  obtain ⟨y, hy, inRow⟩ := List.mem_flatMap.1 h
  obtain ⟨x, hx, rfl⟩ := List.mem_map.1 inRow
  obtain ⟨j, hj, rfl⟩ := List.mem_map.1 hx
  obtain ⟨k, hk, rfl⟩ := List.mem_map.1 hy
  have column : j < c.width := List.mem_range.1 hj
  have row : k < c.height := List.mem_range.1 hk
  dsimp only
  omega

theorem Viewport.exists_along {position : Int} {size : Nat} (side : Float) (positive : 0 < size)
    (bound : size ≤ Binary64.largest) (inside : position.natAbs ≤ size) :
    ∃ x, along position side (.whole size) = .ok x := by
  obtain ⟨pixels, hp, -, some⟩ := Binary64.exists_ofInt (n := size) bound
  obtain ⟨steps, hs, -⟩ := Binary64.exists_ofInt (inside.trans bound)
  have sized : (Quantity.whole size).toFloat = .ok pixels := by
    show Quantity.floatOfInt size = _
    unfold Quantity.floatOfInt
    rw [hp]
  have stepped : Quantity.floatOfInt position = .ok steps := by
    unfold Quantity.floatOfInt
    rw [hs]
  have nonzero : ¬ (pixels == 0) = true := mt Binary64.beq_zero_iff.1 (some (by omega)).ne'
  refine ⟨steps * (side / pixels), ?_⟩
  unfold along
  rw [sized]
  refine (if_neg nonzero).trans ?_
  rw [stepped]
  rfl

namespace Scene

variable {s : Scene} {p : CanvasPoint} {problem : ValueProblem}

/-- **Every ray is found.** -/
theorem exists_direction (sides : s.canvas.Representable) (h : p ∈ s.canvas.points) :
    ∃ direction, s.direction p = .ok direction := by
  obtain ⟨inWidth, inHeight⟩ := Canvas.natAbs_le_of_mem h
  obtain ⟨x, hx⟩ := Viewport.exists_along s.viewport.width s.canvas.width_pos sides.width inWidth
  obtain ⟨y, hy⟩ := Viewport.exists_along s.viewport.height s.canvas.height_pos sides.height inHeight
  refine ⟨⟨x, y, s.viewport.depth⟩, ?_⟩
  unfold direction Viewport.direction
  rw [hx, hy]
  rfl

/-! ## Pixels -/

/-- The ray of a pixel hits a surface that faces a light while the product of the lengths is zero. -/
def VanishesAt (s : Scene) (p : CanvasPoint) : Prop :=
  ∃ direction hit, s.direction p = .ok direction ∧ s.intersect direction {} = some hit ∧
    ∃ l ∈ s.lights, l.Vanishes hit.point hit.normal

theorem trace_eq_error_iff {direction : Vec3 Float} {span : Span} : s.trace direction span = .error problem ↔
    problem = .divisionByZero ∧
      ∃ hit, s.intersect direction span = some hit ∧ ∃ l ∈ s.lights, l.Vanishes hit.point hit.normal := by
  unfold trace
  cases s.intersect direction span with
  | none => exact ⟨nofun, fun ⟨_, hit, nothing, _⟩ => absurd nothing nofun⟩
  | some hit =>
    dsimp only
    cases h : s.lighting hit.point hit.normal with
    | error p =>
      obtain ⟨rfl, vanishes⟩ := Light.total_eq_error_iff.1 h
      constructor
      · intro failed
        exact ⟨(Except.error.inj failed).symm, hit, rfl, vanishes⟩
      · rintro ⟨rfl, -⟩
        rfl
    | ok light =>
      refine ⟨nofun, ?_⟩
      rintro ⟨-, other, same, vanishes⟩
      obtain rfl := Option.some.inj same
      exact absurd (h.symm.trans (Light.total_eq_error_iff.2 ⟨rfl, vanishes⟩)) nofun

/-- **A pixel fails** exactly if a light vanishes there. -/
theorem shade_eq_error_iff (found : ∃ direction, s.direction p = .ok direction) :
    s.shade p = .error problem ↔ problem = .divisionByZero ∧ s.VanishesAt p := by
  obtain ⟨direction, hd⟩ := found
  have traced : s.shade p = s.trace direction {} := by
    unfold shade
    rw [hd]
    rfl
  rw [traced]
  refine trace_eq_error_iff.trans (and_congr_right' ?_)
  constructor
  · rintro ⟨hit, hh, vanishes⟩
    exact ⟨direction, hit, hd, hh, vanishes⟩
  · rintro ⟨other, hit, hd', hh, vanishes⟩
    obtain rfl := Except.ok.inj (hd.symm.trans hd')
    exact ⟨hit, hh, vanishes⟩

/-! ## Loaded scenes -/

variable {text : List Char} {d : Defaults}

theorem sound_of_loadText (loaded : loadText text d = .ok s) (width : d.width.AtLeastOne)
    (height : d.height.AtLeastOne) : s.Sound d := by
  obtain ⟨definitions, read, made⟩ := exists_load_of_loadText loaded
  obtain ⟨other, same, sound⟩ := exists_load_of_parse read width height
  obtain rfl := Except.ok.inj (same.symm.trans made)
  exact sound

/-- The default sides are whole numbers, and whole parts of finite floats are not too large. -/
theorem le_largest_of_setFrom {start : Int} {q : Quantity} {n : Nat} (h : (Quantity.whole start).SetFrom q)
    (bound : start.natAbs ≤ Binary64.largest) (cut : q.truncate = .ok (n : Int)) : n ≤ Binary64.largest := by
  rcases h with rfl | ⟨x, finite, -, rfl⟩
  · obtain rfl := Except.ok.inj cut
    exact bound
  · have whole : Binary64.truncate x = n := Except.ok.inj cut
    have small := Binary64.natAbs_truncate_le finite
    rw [whole] at small
    exact small

/-- The sides of a canvas that a text sets, or leaves as they are by default, are floats. -/
theorem representable_of_loadText (loaded : loadText text {} = .ok s) : s.canvas.Representable := by
  have width : (1 : Int) ≤ 1000 := by decide
  have height : (1 : Int) ≤ 700 := by decide
  have sound := sound_of_loadText loaded width height
  obtain ⟨w, widthSet, hw⟩ := sound.width
  obtain ⟨h, heightSet, hh⟩ := sound.height
  constructor
  · exact le_largest_of_setFrom widthSet (by decide +kernel) hw
  · exact le_largest_of_setFrom heightSet (by decide +kernel) hh

/-- Of a loaded scene every ray is found. -/
theorem found_of_loadText (loaded : loadText text {} = .ok s) :
    ∀ p ∈ s.canvas.points, ∃ direction, s.direction p = .ok direction := by
  intro p hp
  exact exists_direction (representable_of_loadText loaded) hp

end Scene
end LitSpheres
