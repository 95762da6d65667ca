/-
  Rounding to the nearest float, as a function of the rational number that is rounded.

  1. **Program** — a fraction of two naturals is rounded by whole-number arithmetic: its order of magnitude
     fixes the last bit that is kept, and the quotient in units of that bit is rounded half to even.

  2. **Specification** — the outcome depends on the value of the fraction alone, and a value that is
     that of a float rounds to that float.

  3. **The crux** — the order of magnitude is the integer logarithm to base two.  A float's own value
     lies in the stretch where the last bit kept is the float's last bit, so nothing is cut off.
-/
import Mathlib.Algebra.Order.Floor.Semifield
import Mathlib.Data.Int.Log
import Mathlib.Data.Rat.Floor
import Mathlib.Tactic.FieldSimp
import Mathlib.Tactic.Linarith
import Mathlib.Tactic.Positivity
import Mathlib.Tactic.Ring
import LitSpheres.Decimal.Binary64

namespace LitSpheres.Binary64

variable {num den : Nat}

/-! ## The rounding of a rational -/

/-- The natural nearest to a rational that is not negative; a half goes to the even neighbour. -/
def halfEven (v : ℚ) : Nat :=
  if v - ⌊v⌋₊ < 1 / 2 then ⌊v⌋₊
  else if 1 / 2 < v - ⌊v⌋₊ then ⌊v⌋₊ + 1
  else ⌊v⌋₊ + ⌊v⌋₊ % 2

/-- The exponent of the last bit that is kept of a positive rational. -/
def keptBit (v : ℚ) : Int := max (Int.log 2 v - 52) (-1074)

/-- The rank of the float nearest to a positive rational. -/
def nearestRank (v : ℚ) : Nat :=
  min infinityRank ((keptBit v + 1074).toNat * hiddenBit + halfEven (v / 2 ^ keptBit v))

/-! ## Fractions of naturals -/

@[simp] theorem cast_twoTo (n : Nat) : (twoTo n : ℚ) = 2 ^ n := by
  show ((2 ^ n : Nat) : ℚ) = 2 ^ n
  exact Nat.cast_pow 2 n

theorem twoTo_pos (n : Nat) : 0 < twoTo n := Nat.pow_pos (by decide)

/-- A power with any exponent is a quotient of two powers with natural ones. -/
theorem zpow_eq_div (b : ℚ) (e : Int) : b ^ e = b ^ e.toNat / b ^ (-e).toNat := by
  rcases Int.le_total 0 e with h | h
  · have none : (-e).toNat = 0 := by omega
    rw [none, pow_zero, div_one, ← zpow_natCast, Int.toNat_of_nonneg h]
  · have none : e.toNat = 0 := by omega
    have turned : ((-e).toNat : Int) = -e := Int.toNat_of_nonneg (by omega)
    rw [none, pow_zero, ← zpow_natCast, turned, zpow_neg, one_div, inv_inv]

theorem zpow_two_eq (e : Int) : (2 : ℚ) ^ e = twoTo e.toNat / twoTo (-e).toNat := by
  rw [cast_twoTo, cast_twoTo]
  exact zpow_eq_div 2 e

/-- The logarithm is the exponent of the stretch from one power to the next. -/
theorem log_eq_of_between {v : ℚ} {e : Int} (hv : 0 < v) (low : (2 : ℚ) ^ e ≤ v)
    (high : v < 2 ^ (e + 1)) : Int.log 2 v = e := by
  have atLeast : e ≤ Int.log 2 v := (Int.zpow_le_iff_le_log (by decide) hv).1 (by exact_mod_cast low)
  have below : Int.log 2 v < e + 1 := (Int.lt_zpow_iff_log_lt (by decide) hv).1 (by exact_mod_cast high)
  omega

/-- The test of the program is whether the fraction lies below the power. -/
theorem mul_twoTo_lt_iff (hd : 0 < den) (e : Int) :
    num * twoTo (-e).toNat < den * twoTo e.toNat ↔ (num : ℚ) / den < 2 ^ e := by
  have hd' : (0 : ℚ) < den := by exact_mod_cast hd
  have hp : (0 : ℚ) < twoTo (-e).toNat := by exact_mod_cast twoTo_pos _
  rw [zpow_two_eq, div_lt_div_iff₀ hd' hp, mul_comm (twoTo e.toNat : ℚ)]
  exact_mod_cast Iff.rfl

/-- **The order of magnitude** of a fraction is its logarithm. -/
theorem binaryOrder_eq_log (hn : 0 < num) (hd : 0 < den) :
    binaryOrder num den = Int.log 2 ((num : ℚ) / den) := by
  have hn' : (0 : ℚ) < num := by exact_mod_cast hn
  have hd' : (0 : ℚ) < den := by exact_mod_cast hd
  have numLow : (2 : ℚ) ^ num.log2 ≤ num := by exact_mod_cast Nat.log2_self_le hn.ne'
  have numHigh : (num : ℚ) < 2 ^ num.log2 * 2 := by exact_mod_cast Nat.lt_log2_self (n := num)
  have denLow : (2 : ℚ) ^ den.log2 ≤ den := by exact_mod_cast Nat.log2_self_le hd.ne'
  have denHigh : (den : ℚ) < 2 ^ den.log2 * 2 := by exact_mod_cast Nat.lt_log2_self (n := den)
  have leading : (2 : ℚ) ^ ((num.log2 : Int) - den.log2) = 2 ^ num.log2 / 2 ^ den.log2 := by
    rw [zpow_sub₀ (by norm_num), zpow_natCast, zpow_natCast]
  -- the quotient of the leading powers is less than a factor of two off, either way
  have above : (2 : ℚ) ^ ((num.log2 : Int) - den.log2 - 1) ≤ num / den := by
    rw [zpow_sub_one₀ (by norm_num), leading, ← div_eq_mul_inv, div_div,
      div_le_div_iff₀ (by positivity) hd']
    exact mul_le_mul numLow denHigh.le hd'.le hn'.le
  have below : (num : ℚ) / den < 2 ^ ((num.log2 : Int) - den.log2 + 1) := by
    rw [zpow_add_one₀ (by norm_num), leading, div_mul_eq_mul_div, div_lt_div_iff₀ hd' (by positivity)]
    exact mul_lt_mul numHigh denLow (by positivity) (by positivity)
  unfold binaryOrder
  by_cases h : num * twoTo (-((num.log2 : Int) - den.log2)).toNat <
      den * twoTo ((num.log2 : Int) - den.log2).toNat
  · have high := (mul_twoTo_lt_iff hd _).1 h
    refine (if_pos h).trans (log_eq_of_between (by positivity) above ?_).symm
    rw [Int.sub_add_cancel]
    exact high
  · have low := not_lt.1 (mt (mul_twoTo_lt_iff hd _).2 h)
    exact (if_neg h).trans (log_eq_of_between (by positivity) low below).symm

/-- Rounding half to even looks at the quotient only. -/
theorem roundHalfEven_eq (hd : 0 < den) : roundHalfEven num den = halfEven ((num : ℚ) / den) := by
  have hd' : (0 : ℚ) < den := by exact_mod_cast hd
  have whole : ⌊(num : ℚ) / den⌋₊ = num / den := Nat.floor_div_eq_div num den
  have rest : (num : ℚ) / den - (num / den : Nat) = (num % den : Nat) / den := by
    rw [eq_div_iff hd'.ne', sub_mul, div_mul_cancel₀ _ hd'.ne', sub_eq_iff_eq_add]
    exact_mod_cast (Nat.mod_add_div' num den).symm
  have less : (num % den : Nat) / (den : ℚ) < 1 / 2 ↔ 2 * (num % den) < den := by
    rw [div_lt_div_iff₀ hd' (by norm_num), one_mul, mul_comm]
    exact_mod_cast Iff.rfl
  have more : 1 / 2 < (num % den : Nat) / (den : ℚ) ↔ den < 2 * (num % den) := by
    rw [div_lt_div_iff₀ (by norm_num) hd', one_mul, mul_comm ((num % den : Nat) : ℚ)]
    exact_mod_cast Iff.rfl
  unfold roundHalfEven halfEven
  rw [whole, rest]
  simp only [less, more]

/-- **Rounding looks at the value only**: fractions of the same value are rounded alike. -/
theorem nearestFraction_eq (hn : 0 < num) (hd : 0 < den) :
    nearestFraction num den = nearestRank ((num : ℚ) / den) := by
  have units (q : Int) : ((num * twoTo (-q).toNat : Nat) : ℚ) / (den * twoTo q.toNat : Nat) =
      num / den / 2 ^ q := by
    have hq : (twoTo q.toNat : ℚ) ≠ 0 := by exact_mod_cast (twoTo_pos _).ne'
    rw [zpow_two_eq]
    push_cast
    field_simp
  unfold nearestFraction nearestRank keptBit
  rw [if_neg hn.ne', binaryOrder_eq_log hn hd]
  simp only
  rw [roundHalfEven_eq (Nat.mul_pos hd (twoTo_pos _)), units]

/-! ## The values of floats -/

/-- The value of a finite rank. -/
def value (rank : Nat) : ℚ := mantissa rank * 2 ^ lastBit rank

variable {rank : Nat}

theorem mantissa_pos (h : 0 < rank) : 0 < mantissa rank := by
  unfold mantissa hiddenBit
  split <;> omega

theorem mantissa_lt (rank : Nat) : mantissa rank < 2 ^ 53 := by
  unfold mantissa hiddenBit
  split <;> omega

/-- Exponent and mantissa side by side are the rank, for subnormal and normal numbers alike. -/
theorem lastBit_mantissa (rank : Nat) : (lastBit rank + 1074).toNat * hiddenBit + mantissa rank = rank := by
  have split := Nat.div_add_mod rank hiddenBit
  unfold lastBit mantissa
  by_cases h : rank < hiddenBit
  · have first : rank / hiddenBit = 0 := Nat.div_eq_of_lt h
    rw [if_pos h, first]
    simp
  · have positive : 1 ≤ rank / hiddenBit := (Nat.one_le_div_iff (by decide)).2 (Nat.le_of_not_lt h)
    have places : (((max (rank / hiddenBit) 1 : Nat) : Int) - 1075 + 1074).toNat = rank / hiddenBit - 1 := by
      omega
    rw [if_neg h, places, Nat.sub_mul]
    unfold hiddenBit at *
    omega

/-- The last bit that is kept of a float's value is the float's last bit. -/
theorem keptBit_value (h : 0 < rank) : keptBit (value rank) = lastBit rank := by
  have positive : (0 : ℚ) < mantissa rank := by exact_mod_cast mantissa_pos h
  have bound : (mantissa rank : ℚ) < 2 ^ 53 := by exact_mod_cast mantissa_lt rank
  have power : (0 : ℚ) < 2 ^ lastBit rank := zpow_pos (by norm_num) _
  have value_pos : 0 < value rank := mul_pos positive power
  have high : value rank < 2 ^ (lastBit rank + 52 + 1) := by
    rw [add_assoc, zpow_add₀ (by norm_num)]
    exact (mul_comm _ _).trans_lt (mul_lt_mul_of_pos_left bound power)
  unfold keptBit
  by_cases hr : rank < hiddenBit
  · -- a subnormal number lies below the smallest normal one
    have last : lastBit rank = -1074 := by
      unfold lastBit
      rw [Nat.div_eq_of_lt hr]
      rfl
    have order := (Int.lt_zpow_iff_log_lt (b := 2) (by decide) value_pos).1 (by exact_mod_cast high)
    omega
  · -- the mantissa of a normal number has its leading bit
    have last : -1074 ≤ lastBit rank := by
      unfold lastBit
      omega
    have leading : (2 : ℚ) ^ 52 ≤ mantissa rank := by
      have : 2 ^ 52 ≤ mantissa rank := by
        unfold mantissa
        rw [if_neg hr]
        exact Nat.le_add_left _ _
      exact_mod_cast this
    have low : (2 : ℚ) ^ (lastBit rank + 52) ≤ value rank := by
      rw [zpow_add₀ (by norm_num), mul_comm]
      exact mul_le_mul_of_nonneg_right leading power.le
    have order := log_eq_of_between value_pos low high
    omega

theorem halfEven_natCast (n : Nat) : halfEven n = n := by
  unfold halfEven
  rw [Nat.floor_natCast, sub_self, if_pos (by norm_num)]

/-- **Exactness**: the value of a finite float is rounded to that float. -/
theorem nearestRank_value (h : 0 < rank) (finite : rank < infinityRank) :
    nearestRank (value rank) = rank := by
  have units : value rank / 2 ^ keptBit (value rank) = mantissa rank := by
    rw [keptBit_value h]
    exact mul_div_cancel_right₀ _ (zpow_ne_zero _ (by norm_num))
  unfold nearestRank
  rw [units, halfEven_natCast, keptBit_value h, lastBit_mantissa]
  exact Nat.min_eq_right finite.le

end LitSpheres.Binary64
