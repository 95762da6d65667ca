/-
  Rounding keeps the order.

  1. **Program** — a positive rational is rounded to the float nearest to it; a float has a value, and its
     whole part is that value cut toward zero.

  2. **Specification** — of two rationals the smaller one is not rounded to the greater rank; of two ranks
     the smaller one does not have the greater value; and of two finite floats the lower one does not have
     the greater whole part.

  3. **The crux** — where two rationals keep the same last bit, halves go the same way for both.  Where the
     greater one keeps a higher last bit it has all 53 bits of its mantissa, and the smaller one, rounded up
     as far as it can be, only just reaches it.
-/
import LitSpheres.Proofs.Binary64.Whole

namespace LitSpheres.Binary64

/-! ## Rounding -/

section

variable {u v : ℚ}

/-- Rounding goes to one of the two neighbours. -/
theorem floor_le_halfEven (v : ℚ) : ⌊v⌋₊ ≤ halfEven v ∧ halfEven v ≤ ⌊v⌋₊ + 1 := by
  rw [halfEven]
  split_ifs <;> omega

theorem halfEven_mono (h : u ≤ v) : halfEven u ≤ halfEven v := by
  have floors : ⌊u⌋₊ ≤ ⌊v⌋₊ := Nat.floor_mono h
  rcases Nat.lt_or_eq_of_le floors with apart | same
  · have low := floor_le_halfEven u
    have high := floor_le_halfEven v
    omega
  · -- with one whole part between them, only the rests are compared, and both round a half alike
    have rests : u - ⌊u⌋₊ ≤ v - ⌊v⌋₊ := by
      rw [same]
      linarith
    rw [halfEven, halfEven, same] at *
    split_ifs <;> first | omega | linarith

theorem keptBit_mono (hu : 0 < u) (h : u ≤ v) : keptBit u ≤ keptBit v := by
  have order : Int.log 2 u ≤ Int.log 2 v := Int.log_mono_right hu h
  rw [keptBit, keptBit]
  omega

/-- In units of the last bit that is kept, and above the subnormal numbers, a rational is at least the smallest
    mantissa that has its leading bit. -/
theorem le_units (hv : 0 < v) (normal : -1074 < keptBit v) : (2 ^ 52 : Nat) ≤ v / 2 ^ keptBit v := by
  have kept : Int.log 2 v = 52 + keptBit v := by
    rw [keptBit] at *
    omega
  have low : (2 : ℚ) ^ Int.log 2 v ≤ v := Int.zpow_log_le_self (by decide) hv
  rw [le_div_iff₀ (zpow_pos (by norm_num) _)]
  calc ((2 ^ 52 : Nat) : ℚ) * 2 ^ keptBit v = 2 ^ (52 + keptBit v) := by
        rw [zpow_add₀ (by norm_num)]
        norm_num
    _ = 2 ^ Int.log 2 v := by rw [kept]
    _ ≤ v := low

/-- **Rounding keeps the order.** -/
theorem nearestRank_mono (hu : 0 < u) (h : u ≤ v) : nearestRank u ≤ nearestRank v := by
  have kept := keptBit_mono hu h
  have least : -1074 ≤ keptBit u := le_max_right _ _
  refine min_le_min_left _ ?_
  rcases Int.lt_or_eq_of_le kept with apart | same
  · -- the rest of the ranks of one last bit is what a mantissa can be rounded up to
    have low : halfEven (u / 2 ^ keptBit u) ≤ 2 ^ 53 := halfEven_le (units_le u)
    have high : 2 ^ 52 ≤ halfEven (v / 2 ^ keptBit v) := by
      have mantissa := halfEven_mono (le_units (hu.trans_le h) (by omega))
      rwa [halfEven_natCast] at mantissa
    rw [hiddenBit]
    omega
  · rw [same]
    have mantissas : halfEven (u / 2 ^ keptBit v) ≤ halfEven (v / 2 ^ keptBit v) :=
      halfEven_mono (div_le_div_of_nonneg_right h (zpow_pos (by norm_num) _).le)
    omega

end

/-! ## Values -/

/-- From one rank to the next the value grows by one unit of the last bit. -/
theorem value_succ (r : Nat) : value (r + 1) = value r + 2 ^ lastBit r := by
  have split := Nat.div_add_mod r hiddenBit
  rcases Nat.lt_or_ge ((r + 1) % hiddenBit) 1 with carry | inside
  · -- the next rank is the first one of a higher exponent
    rcases Nat.lt_or_ge r hiddenBit with subnormal | normal
    · have next : r + 1 = hiddenBit := by
        rw [hiddenBit] at *
        omega
      have mantissas : mantissa (r + 1) = mantissa r + 1 := by
        rw [mantissa, mantissa, if_pos subnormal, next]
        rfl
      have lasts : lastBit (r + 1) = lastBit r := by
        rw [lastBit, lastBit, next, Nat.div_eq_of_lt subnormal]
        rfl
      rw [value, value, mantissas, lasts]
      push_cast
      ring
    · have mantissas : 2 * mantissa (r + 1) = mantissa r + 1 := by
        rw [mantissa, mantissa, if_neg (by omega), if_neg (by omega)]
        rw [hiddenBit] at *
        omega
      have lasts : lastBit (r + 1) = lastBit r + 1 := by
        rw [lastBit, lastBit]
        rw [hiddenBit] at *
        omega
      have doubled : (mantissa r : ℚ) + 1 = 2 * mantissa (r + 1) := by exact_mod_cast mantissas.symm
      rw [value, value, lasts, zpow_add_one₀ (by norm_num), ← add_one_mul, doubled]
      ring
  · have mantissas : mantissa (r + 1) = mantissa r + 1 := by
      rw [mantissa, mantissa]
      rw [hiddenBit] at *
      split_ifs <;> omega
    have lasts : lastBit (r + 1) = lastBit r := by
      rw [lastBit, lastBit]
      rw [hiddenBit] at *
      omega
    rw [value, value, mantissas, lasts]
    push_cast
    ring

theorem value_mono : Monotone value := by
  refine monotone_nat_of_le_succ fun r => ?_
  rw [value_succ]
  exact le_add_of_nonneg_right (zpow_pos (by norm_num) _).le

/-- A finite rank's value as a fraction. -/
theorem value_eq_div (r : Nat) : value r = (numerator r : ℚ) / denominator r := by
  rw [value, numerator, denominator, zpow_two_eq]
  push_cast
  ring

/-- The whole part of a rank is that of its value. -/
theorem floor_value (r : Nat) : ⌊value r⌋₊ = numerator r / denominator r := by
  rw [value_eq_div]
  exact Nat.floor_div_eq_div _ _

theorem value_zero : value 0 = 0 := by
  have none : mantissa 0 = 0 := by decide
  rw [value, none, Nat.cast_zero, zero_mul]

theorem value_pos {r : Nat} (h : 0 < r) : 0 < value r :=
  mul_pos (by exact_mod_cast mantissa_pos h) (zpow_pos (by norm_num) _)

/-! ## Whole parts -/

section

variable {x y : Float}

/-- The whole part by its size and its sign. -/
theorem truncate_of_sign (x : Float) :
    truncate x = if isNegative x then -(⌊value (rank x)⌋₊ : Int) else ⌊value (rank x)⌋₊ := by
  rw [truncate, floor_value]

/-- **The whole part keeps the order.** -/
theorem truncate_mono (h : x ≤ y) : truncate x ≤ truncate y := by
  obtain ⟨-, -, levels⟩ := le_iff_level.1 h
  rw [level, level] at levels
  rw [truncate_of_sign, truncate_of_sign]
  by_cases nx : isNegative x = true
  · rw [if_pos nx] at *
    by_cases ny : isNegative y = true
    · rw [if_pos ny] at *
      have floors : ⌊value (rank y)⌋₊ ≤ ⌊value (rank x)⌋₊ := Nat.floor_mono (value_mono (by omega))
      omega
    · rw [if_neg ny]
      omega
  · rw [if_neg nx] at *
    by_cases ny : isNegative y = true
    · -- only zero is both at least and at most zero
      rw [if_pos ny] at *
      have zero : rank x = 0 ∧ rank y = 0 := by omega
      rw [zero.1, zero.2, value_zero, Nat.floor_zero]
      decide
    · rw [if_neg ny] at *
      have floors : ⌊value (rank x)⌋₊ ≤ ⌊value (rank y)⌋₊ := Nat.floor_mono (value_mono (by omega))
      omega

end

end LitSpheres.Binary64
