/-
  The size of a canvas, compared and cut.

  1. **Program** — the sides of a canvas are compared with one as they are given, then cut to whole
     pixels; a size that is refused is told in whole pixels too.

  2. **Specification** — it makes no difference whether a size is compared before or after it is cut: the
     same canvas is made or the same problem found, also where both sides are bad in different ways.

  3. **The crux** — what has a whole part is less than one exactly if its whole part is; what has none is
     refused by the cut, whatever the comparison said.
-/
import LitSpheres.Canvas
import LitSpheres.Proofs.Binary64.Whole

namespace LitSpheres

namespace Quantity

variable {q : Quantity} {x : Float} {n : Int}

theorem wholePart_of_finite (h : Binary64.isFinite x) : wholePart x = .ok (Binary64.truncate x) := if_pos h

/-- What has a whole part is a finite number. -/
theorem wholePart_eq_ok (h : wholePart x = .ok n) : Binary64.isFinite x ∧ n = Binary64.truncate x := by
  by_cases finite : Binary64.isFinite x
  · rw [wholePart_of_finite finite] at h
    exact ⟨finite, (Except.ok.inj h).symm⟩
  · unfold wholePart at h
    rw [if_neg finite] at h
    split at h <;> cases h

/-- Only a float can be without a whole part. -/
theorem truncate_eq_error {problem : ValueProblem} (h : q.truncate = .error problem) :
    problem = .wholeOfNaN ∨ problem = .wholeOfInfinity := by
  cases q with
  | whole n => cases h
  | real x =>
    have refused : wholePart x = .error problem := h
    unfold wholePart at refused
    split at refused
    · cases refused
    · split at refused
      · exact .inr (Except.error.inj refused).symm
      · exact .inl (Except.error.inj refused).symm

/-- **The cut keeps the comparison with one.** -/
theorem lessThanOne_iff (h : q.truncate = .ok n) : q.lessThanOne = true ↔ n < 1 := by
  cases q with
  | whole m =>
    obtain rfl := Except.ok.inj h
    exact decide_eq_true_iff
  | real x =>
    obtain ⟨finite, rfl⟩ := wholePart_eq_ok h
    refine decide_eq_true_iff.trans ⟨Binary64.truncate_lt_one, fun below => ?_⟩
    by_contra notBelow
    -- floats are ordered like their values, as long as both are numbers
    have one : 1 ≤ x :=
      Binary64.le_of_not_lt (Binary64.isNumber_of_isFinite finite) (by decide +kernel) notBelow
    exact below.not_ge (Binary64.one_le_truncate one)

end Quantity

namespace Canvas

/-- **A canvas is made of whole parts**: comparing the size before the cut or after it is the same. -/
theorem of_eq (width height : Quantity) : of width height = (do
    let w ← width.truncate
    let h ← height.truncate
    ofInts w h) := by
  unfold of
  cases hw : width.truncate with
  | error problem => rfl
  | ok w =>
    cases hh : height.truncate with
    | error problem => rfl
    | ok h =>
      show (if (width.lessThanOne || height.lessThanOne) = true then Except.error (.canvasSize w h)
        else ofInts w h) = ofInts w h
      by_cases small : (width.lessThanOne || height.lessThanOne) = true
      · rw [if_pos small]
        have none : ¬ (0 < w ∧ 0 < h) := by
          rcases Bool.or_eq_true_iff.1 small with narrow | low
          · have := (Quantity.lessThanOne_iff hw).1 narrow
            omega
          · have := (Quantity.lessThanOne_iff hh).1 low
            omega
        unfold ofInts
        rw [dif_neg none]
      · exact if_neg small

/-- Sides of at least one pixel are those of a canvas. -/
theorem exists_of {width height : Quantity} {w h : Int} (hw : width.truncate = .ok w)
    (hh : height.truncate = .ok h) (wide : 1 ≤ w) (high : 1 ≤ h) :
    ∃ c, of width height = .ok c ∧ (c.width : Int) = w ∧ (c.height : Int) = h := by
  have some : 0 < w ∧ 0 < h := ⟨wide, high⟩
  refine ⟨{ width := w.toNat, height := h.toNat, width_pos := by omega, height_pos := by omega }, ?_,
    Int.toNat_of_nonneg (by omega), Int.toNat_of_nonneg (by omega)⟩
  rw [of_eq, hw, hh]
  exact dif_pos some

/-- The canvas of a size has the whole parts of its sides. -/
theorem of_eq_ok_iff {width height : Quantity} {c : Canvas} :
    of width height = .ok c ↔ width.truncate = .ok (c.width : Int) ∧ height.truncate = .ok (c.height : Int) := by
  rw [of_eq]
  constructor
  · intro h
    cases hw : width.truncate with
    | error problem =>
      rw [hw] at h
      cases h
    | ok w =>
      cases hh : height.truncate with
      | error problem =>
        rw [hw, hh] at h
        cases h
      | ok n =>
        rw [hw, hh] at h
        have made : ofInts w n = .ok c := h
        unfold ofInts at made
        split at made
        · next some =>
          obtain rfl := Except.ok.inj made
          exact ⟨congrArg Except.ok (Int.toNat_of_nonneg some.1.le).symm,
            congrArg Except.ok (Int.toNat_of_nonneg some.2.le).symm⟩
        · cases made
  · rintro ⟨hw, hh⟩
    rw [hw, hh]
    exact dif_pos ⟨Int.natCast_pos.2 c.width_pos, Int.natCast_pos.2 c.height_pos⟩

/-- A size of which no canvas is made has a side without a whole part, or one that is less than one pixel. -/
theorem of_eq_error {width height : Quantity} {problem : ValueProblem} (h : of width height = .error problem) :
    (problem = .wholeOfNaN ∨ problem = .wholeOfInfinity) ∨
      ∃ w h, width.truncate = .ok w ∧ height.truncate = .ok h ∧ (w < 1 ∨ h < 1) ∧
        problem = .canvasSize w h := by
  rw [of_eq] at h
  cases hw : width.truncate with
  | error other =>
    rw [hw] at h
    obtain rfl : other = problem := Except.error.inj h
    exact .inl (Quantity.truncate_eq_error hw)
  | ok w =>
    cases hh : height.truncate with
    | error other =>
      rw [hw, hh] at h
      obtain rfl : other = problem := Except.error.inj h
      exact .inl (Quantity.truncate_eq_error hh)
    | ok n =>
      rw [hw, hh] at h
      have refused : ofInts w n = .error problem := h
      unfold ofInts at refused
      split at refused
      · cases refused
      · next none => exact .inr ⟨w, n, rfl, rfl, by omega, (Except.error.inj refused).symm⟩

end Canvas
end LitSpheres
