/-
  Where a ray meets a sphere, over exact numbers.

  1. **Program** — the crossings of a ray with a sphere are read off a quadratic, and the normal at a point is
     the vector to it from the center, divided by its length.

  2. **Specification** — over the rationals, with exact square roots, nothing is given only if no point of the
     ray lies on the sphere; else the two solutions are all the points that do, the larger one first, and the
     normal at either has the length one.

  3. **The crux** — put into the equation of the sphere, the ray gives the very quadratic that the program
     solves, and its leading coefficient is a sum of squares, which is positive unless the direction is zero.
-/
import Mathlib.Algebra.QuadraticDiscriminant
import Mathlib.Data.Rat.Sqrt
import Mathlib.Tactic.FieldSimp
import Mathlib.Tactic.LinearCombination
import Mathlib.Tactic.Linarith
import Mathlib.Tactic.Ring
import LitSpheres.Sphere

namespace LitSpheres

/-- The square root of a rational square is exact. -/
instance : Root ℚ := ⟨Rat.sqrt⟩

theorem root_mul_self (q : ℚ) : Root.sqrt (q * q) = |q| := Rat.sqrt_eq q

/-- The point lies on the surface of the sphere. -/
def OnSphere (center : Vec3 ℚ) (radius : ℚ) (point : Vec3 ℚ) : Prop :=
  (point.x - center.x) ^ 2 + (point.y - center.y) ^ 2 + (point.z - center.z) ^ 2 = radius ^ 2

section

variable (center origin direction : Vec3 ℚ) (radius : ℚ)

/-! ## The quadratic of a ray -/

/-- The coefficient of `t * t`. -/
def rayLeading : ℚ := direction.dot direction

/-- The coefficient of `t`. -/
def rayLinear : ℚ := 2 * (origin - center).dot direction

/-- The coefficient without `t`. -/
def rayConstant : ℚ := (origin - center).dot (origin - center) - radius * radius

/-- What the square root is taken of. -/
def rayDiscriminant : ℚ :=
  rayLinear center origin direction * rayLinear center origin direction -
    4 * rayLeading direction * rayConstant center origin radius

theorem discrim_eq : discrim (rayLeading direction) (rayLinear center origin direction)
    (rayConstant center origin radius) = rayDiscriminant center origin direction radius := by
  rw [discrim, rayDiscriminant, sq]

/-- The points of the ray by the coefficients of their quadratic. -/
theorem onSphere_iff (t : ℚ) : OnSphere center radius (origin + direction.scale t) ↔
    rayLeading direction * (t * t) + rayLinear center origin direction * t +
      rayConstant center origin radius = 0 := by
  show (origin.x + direction.x * t - center.x) ^ 2 + (origin.y + direction.y * t - center.y) ^ 2 +
    (origin.z + direction.z * t - center.z) ^ 2 = radius ^ 2 ↔
    (0 + direction.x * direction.x + direction.y * direction.y + direction.z * direction.z) * (t * t) +
      2 * (0 + (origin.x - center.x) * direction.x + (origin.y - center.y) * direction.y +
        (origin.z - center.z) * direction.z) * t +
      (0 + (origin.x - center.x) * (origin.x - center.x) + (origin.y - center.y) * (origin.y - center.y) +
        (origin.z - center.z) * (origin.z - center.z) - radius * radius) = 0
  -- both equations say the same of the difference of their sides
  constructor
  · intro h
    linear_combination h
  · intro h
    linear_combination h

/-- The program solves it. -/
theorem rayRoots_eq : rayRoots center radius origin direction =
    if rayDiscriminant center origin direction radius < 0 then none
    else some
      ((-rayLinear center origin direction + Root.sqrt (rayDiscriminant center origin direction radius)) /
          (2 * rayLeading direction),
        (-rayLinear center origin direction - Root.sqrt (rayDiscriminant center origin direction radius)) /
          (2 * rayLeading direction)) := rfl

variable {center origin direction radius}

/-- A direction that is not zero leaves a quadratic. -/
theorem rayLeading_pos (somewhere : direction ≠ Vec3.origin) : 0 < rayLeading direction := by
  have squares : rayLeading direction = direction.x ^ 2 + direction.y ^ 2 + direction.z ^ 2 := by
    rw [rayLeading, Vec3.dot]
    ring
  rw [squares]
  by_contra none
  have zero {a : ℚ} (h : a ^ 2 ≤ 0) : a = 0 := pow_eq_zero_iff two_ne_zero |>.1 (le_antisymm h (sq_nonneg a))
  have x : direction.x = 0 := zero (by linarith [sq_nonneg direction.y, sq_nonneg direction.z])
  have y : direction.y = 0 := zero (by linarith [sq_nonneg direction.x, sq_nonneg direction.z])
  have z : direction.z = 0 := zero (by linarith [sq_nonneg direction.x, sq_nonneg direction.y])
  refine somewhere ?_
  show (⟨direction.x, direction.y, direction.z⟩ : Vec3 ℚ) = ⟨0, 0, 0⟩
  rw [x, y, z]

/-- A ray with a negative discriminant misses. -/
theorem not_onSphere (negative : rayDiscriminant center origin direction radius < 0) (t : ℚ) :
    ¬ OnSphere center radius (origin + direction.scale t) := by
  rw [onSphere_iff]
  intro h
  have square := discrim_eq_sq_of_quadratic_eq_zero h
  have nonneg : 0 ≤ rayDiscriminant center origin direction radius := by
    rw [← discrim_eq, square]
    exact sq_nonneg _
  exact absurd negative nonneg.not_gt

/-! ## The normal at a point of the surface -/

/-- **On the surface the normal has the length one.** -/
theorem norm_outwardNormal {point : Vec3 ℚ} (positive : 0 < radius) (h : OnSphere center radius point) :
    (outwardNormal center point).norm = 1 := by
  have square : (point - center).dot (point - center) = radius * radius := by
    show 0 + (point.x - center.x) * (point.x - center.x) + (point.y - center.y) * (point.y - center.y) +
      (point.z - center.z) * (point.z - center.z) = radius * radius
    rw [OnSphere] at h
    linear_combination h
  have length : (point - center).norm = radius := by
    rw [Vec3.norm, square, root_mul_self, abs_of_pos positive]
  have unit : ((point - center).divide radius).dot ((point - center).divide radius) = 1 * 1 := by
    have divided : ((point - center).divide radius).dot ((point - center).divide radius) =
        (point - center).dot (point - center) / (radius * radius) := by
      simp only [Vec3.dot, Vec3.divide, zero_add]
      field_simp
    rw [divided, square, div_self (mul_pos positive positive).ne', mul_one]
  rw [outwardNormal, Vec3.normalized, length, Vec3.norm, unit, root_mul_self, abs_one]

/-! ## Crossings -/

/-- **The crossings of a ray are the solutions of its equation.**  Over the rationals, and where the square
    root is exact: if no crossing is given then no point of the ray lies on the sphere; and of the two that
    are given the first is not the smaller one, they are all that lie on the sphere, and the normal at either
    has the length one. -/
theorem rayRoots_solve (positive : 0 < radius) (somewhere : direction ≠ Vec3.origin)
    (exact : rayDiscriminant center origin direction radius < 0 ∨
      IsSquare (rayDiscriminant center origin direction radius)) :
    match rayRoots center radius origin direction with
    | none => ∀ t, ¬ OnSphere center radius (origin + direction.scale t)
    | some (far, near) => near ≤ far ∧
        (∀ t, OnSphere center radius (origin + direction.scale t) ↔ t = far ∨ t = near) ∧
        (outwardNormal center (origin + direction.scale far)).norm = 1 ∧
        (outwardNormal center (origin + direction.scale near)).norm = 1 := by
  have leading := rayLeading_pos somewhere
  rw [rayRoots_eq]
  by_cases negative : rayDiscriminant center origin direction radius < 0
  · rw [if_pos negative]
    exact not_onSphere negative
  · rw [if_neg negative]
    obtain ⟨s, square⟩ := exact.resolve_left negative
    rw [square, root_mul_self]
    -- whichever root was taken, the two solutions are those with its absolute value
    have solved (t : ℚ) : OnSphere center radius (origin + direction.scale t) ↔
        t = (-rayLinear center origin direction + |s|) / (2 * rayLeading direction) ∨
          t = (-rayLinear center origin direction - |s|) / (2 * rayLeading direction) := by
      rw [onSphere_iff]
      refine quadratic_eq_zero_iff leading.ne' ?_ t
      rw [discrim_eq, square, abs_mul_abs_self]
    refine ⟨?_, solved, ?_, ?_⟩
    · have order : -rayLinear center origin direction - |s| ≤ -rayLinear center origin direction + |s| := by
        have := abs_nonneg s
        linarith
      exact div_le_div_of_nonneg_right order (by linarith)
    · exact norm_outwardNormal positive ((solved _).2 (.inl rfl))
    · exact norm_outwardNormal positive ((solved _).2 (.inr rfl))

end

/-- A ray that runs along no axis crosses a sphere of radius three at a third and at five thirds. -/
theorem rayRoots_solve_slanted :
    rayRoots ⟨0, 0, 0⟩ 3 ⟨-3, -2, -1⟩ ⟨1, 2, 2⟩ = some ((5 / 3 : ℚ), (1 / 3 : ℚ)) ∧
      (∀ t, OnSphere ⟨0, 0, 0⟩ 3 (⟨-3, -2, -1⟩ + Vec3.scale ⟨1, 2, 2⟩ t) ↔ t = 5 / 3 ∨ t = 1 / 3) ∧
      (outwardNormal ⟨0, 0, 0⟩ (⟨-3, -2, -1⟩ + Vec3.scale ⟨1, 2, 2⟩ (1 / 3 : ℚ))).norm = 1 := by
  have roots : rayRoots ⟨0, 0, 0⟩ 3 ⟨-3, -2, -1⟩ ⟨1, 2, 2⟩ = some ((5 / 3 : ℚ), (1 / 3 : ℚ)) := by decide +kernel
  have solved := @rayRoots_solve ⟨0, 0, 0⟩ ⟨-3, -2, -1⟩ ⟨1, 2, 2⟩ 3 (by decide +kernel) (by decide +kernel)
    (.inr (by decide +kernel))
  rw [roots] at solved
  exact ⟨roots, solved.2.1, solved.2.2.2⟩

end LitSpheres
