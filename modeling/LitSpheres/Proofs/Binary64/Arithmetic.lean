/-
  Sums, products, quotients and roots of floats.

  1. **Program** — an exact result is a mantissa with an exponent.  Bits below the last one that is kept are
     shifted out; of those, the first and whether any other was set decide how the rest is rounded.

  2. **Specification** — the sum and the product of positive floats are the exact ones, rounded to the nearest
     float.  Nothing that is computed of numbers that are not below zero is below zero, unless it is no
     number; and no number comes of an infinity times zero, and of a quotient of two infinities or zeros.

  3. **The crux** — a mantissa with its round bit and its sticky bit stands for a rational, and shifting it by
     one place halves the rational.  So the bits that are shifted out need no bookkeeping of their own.
-/
import LitSpheres.Proofs.Binary64.Packed

namespace LitSpheres.Binary64

open Float.Model Float.Model.UnpackedFloat

/-! ## Mantissas with the bits that were shifted out -/

/-- The round bit says on which side of the middle the rest lies, and the sticky bit that it lies neither there
    nor at the lower end. -/
def StandsFor (em : ExtendedMantissa) (v : ℚ) : Prop :=
  match em.roundBit, em.stickyBit with
  | false, false => v = em.mantissa
  | false, true => em.mantissa < v ∧ v < em.mantissa + 1 / 2
  | true, false => v = em.mantissa + 1 / 2
  | true, true => em.mantissa + 1 / 2 < v ∧ v < em.mantissa + 1

theorem standsFor_exact (m : Nat) : StandsFor (.ofMantissaAndAccuracy m .exact) m := rfl

namespace StandsFor

variable {em : ExtendedMantissa} {v : ℚ}

theorem between (h : StandsFor em v) : em.mantissa ≤ v ∧ v < em.mantissa + 1 := by
  obtain ⟨m, r, s⟩ := em
  cases r <;> cases s <;> simp only [StandsFor] at h <;> constructor <;> linarith

theorem floor (h : StandsFor em v) : ⌊v⌋₊ = em.mantissa := by
  have low := h.between.1
  exact (Nat.floor_eq_iff ((Nat.cast_nonneg _).trans low)).2 h.between

/-- The bits decide what rounding half to even decides. -/
theorem rounded (h : StandsFor em v) : em.roundedMantissa = halfEven v := by
  have floor := h.floor
  rw [halfEven, floor]
  obtain ⟨m, r, s⟩ := em
  cases r <;> cases s <;> simp only [StandsFor] at h
  · exact (if_pos (by linarith)).symm
  · exact (if_pos (by linarith)).symm
  · exact ((if_neg (by linarith)).trans (if_neg (by linarith))).symm
  · exact ((if_neg (by linarith)).trans (if_pos (by linarith))).symm

/-- **One place more** is half of it. -/
theorem shiftRightOne (h : StandsFor em v) : StandsFor em.shiftRightOne (v / 2) := by
  obtain ⟨m, r, s⟩ := em
  have parts : (m : ℚ) = 2 * (m / 2 : Nat) + (m % 2 : Nat) := by exact_mod_cast (Nat.div_add_mod m 2).symm
  rcases Nat.mod_two_eq_zero_or_one m with even | odd
  · rw [even] at parts
    cases r <;> cases s <;>
      simp [StandsFor, ExtendedMantissa.shiftRightOne, even] at h parts ⊢ <;> (try constructor) <;> linarith
  · rw [odd] at parts
    cases r <;> cases s <;>
      simp [StandsFor, ExtendedMantissa.shiftRightOne, odd] at h parts ⊢ <;> (try constructor) <;> linarith

/-- Several places, one after another. -/
theorem shiftRight (h : StandsFor em v) (n : Nat) : StandsFor (em >>> n) (v / 2 ^ n) := by
  show StandsFor (n.repeat ExtendedMantissa.shiftRightOne em) _
  induction n with
  | zero =>
    rw [pow_zero, div_one]
    exact h
  | succ n ih =>
    rw [Nat.repeat, pow_succ, ← div_div]
    exact ih.shiftRightOne

end StandsFor

/-! ## Rounding -/

section

variable {m : Nat} {e : Int}

theorem log_mul_zpow (hm : 0 < m) (e : Int) : Int.log 2 ((m : ℚ) * 2 ^ e) = m.log2 + e := by
  have low : ((2 ^ m.log2 : Nat) : ℚ) ≤ m := by exact_mod_cast Nat.log2_self_le hm.ne'
  have high : (m : ℚ) < (2 ^ (m.log2 + 1) : Nat) := by exact_mod_cast Nat.lt_log2_self
  have power : (0 : ℚ) < 2 ^ e := zpow_pos (by norm_num) _
  have positive : (0 : ℚ) < m := by exact_mod_cast hm
  push_cast at low high
  refine log_eq_of_between (mul_pos positive power) ?_ ?_
  · rw [zpow_add₀ (by norm_num), zpow_natCast]
    exact mul_le_mul_of_nonneg_right low power.le
  · have turned : (m.log2 : Int) + e + 1 = (m.log2 + 1 : Nat) + e := by omega
    rw [turned, zpow_add₀ (by norm_num), zpow_natCast]
    exact mul_lt_mul_of_pos_right high power

/-- The exponent that a result is shifted to is that of the last bit that is kept of it. -/
theorem targetExponent_eq (hm : 0 < m) (e : Int) :
    Format.binary64.targetExponent (totalExponent m e) = keptBit (m * 2 ^ e) := by
  rw [keptBit, log_mul_zpow hm]
  show max ((m.log2 : Int) + 1 + e - (53 : Nat)) (3 - 2 ^ 10 - (53 : Nat)) = _
  omega

/-- Bits below the last one that is kept are shifted out. -/
theorem shifted (hm : 0 < m) (below : e ≤ keptBit (m * 2 ^ e)) :
    ∃ em, shiftToTargetExponent .binary64 m e .exact = (em, keptBit (m * 2 ^ e)) ∧
      StandsFor em (m * 2 ^ e / 2 ^ keptBit (m * 2 ^ e)) := by
  have places : ((keptBit (m * 2 ^ e) - e).toNat : Int) = keptBit (m * 2 ^ e) - e := Int.toNat_of_nonneg (by omega)
  refine ⟨ExtendedMantissa.ofMantissaAndAccuracy m .exact >>> (keptBit (m * 2 ^ e) - e).toNat, ?_, ?_⟩
  · rw [shiftToTargetExponent, targetExponent_eq hm]
    show (_, e + ((keptBit (m * 2 ^ e) - e).toNat : Int)) = _
    rw [places, add_sub_cancel]
  · have value : (m : ℚ) * 2 ^ e / 2 ^ keptBit (m * 2 ^ e) = m / 2 ^ (keptBit (m * 2 ^ e) - e).toNat := by
      rw [← zpow_natCast, places, zpow_sub₀ (by norm_num)]
      field_simp
    rw [value]
    exact (standsFor_exact m).shiftRight _

/-- A mantissa of at most 53 bits stays where it is. -/
theorem shifted_short (short : m < 2 ^ 53) (low : -1074 ≤ e) :
    shiftToTargetExponent .binary64 m e .exact = (.ofMantissaAndAccuracy m .exact, e) := by
  have bits : m.log2 ≤ 52 := by
    rcases Nat.eq_zero_or_pos m with rfl | hm
    · decide
    · have := (Nat.log2_lt hm.ne').2 short
      omega
  have none : (Format.binary64.targetExponent (totalExponent m e) - e).toNat = 0 := by
    show (max ((m.log2 : Int) + 1 + e - (53 : Nat)) (3 - 2 ^ 10 - (53 : Nat)) - e).toNat = 0
    omega
  rw [shiftToTargetExponent, shiftToExponent, none]
  show (ExtendedMantissa.ofMantissaAndAccuracy m .exact, e + ((0 : Nat) : Int)) = _
  rw [Nat.cast_zero, add_zero]

/-- A mantissa that was rounded up to a power of two takes one place more. -/
theorem shifted_carry (low : -1074 ≤ e) :
    shiftToTargetExponent .binary64 (2 ^ 53) e .exact = (.ofMantissaAndAccuracy (2 ^ 52) .exact, e + 1) := by
  have one : (Format.binary64.targetExponent (totalExponent (2 ^ 53) e) - e).toNat = 1 := by
    show (max (((2 ^ 53 : Nat).log2 : Int) + 1 + e - (53 : Nat)) (3 - 2 ^ 10 - (53 : Nat)) - e).toNat = 1
    rw [Nat.log2_two_pow]
    omega
  rw [shiftToTargetExponent, shiftToExponent, one]
  rfl

/-- A result is shifted, rounded, and shifted again for the carry. -/
theorem roundWithAccuracy_of_shifted {s : Sign} {accuracy : Accuracy} {em : ExtendedMantissa} {q p : Int} {n : Nat}
    (first : shiftToTargetExponent .binary64 m e accuracy = (em, q))
    (second : shiftToTargetExponent .binary64 em.roundedMantissa q .exact = (.ofMantissaAndAccuracy n .exact, p)) :
    roundWithAccuracy .binary64 s m e accuracy =
      if h : n = 0 then .zero s else .finite s n p (Nat.pos_of_ne_zero h) := by
  simp only [roundWithAccuracy, first, second]
  rfl

/-- **An exact result is rounded to the nearest float**, and keeps its sign. -/
theorem rank_rounded (s : Sign) (hm : 0 < m) (below : e ≤ keptBit (m * 2 ^ e)) :
    rank (packed (roundWithAccuracy .binary64 s m e .exact)) = nearestRank (m * 2 ^ e) ∧
      sign (packed (roundWithAccuracy .binary64 s m e .exact)) = s := by
  obtain ⟨em, first, stands⟩ := shifted hm below
  have positive : (0 : ℚ) < m * 2 ^ e := mul_pos (by exact_mod_cast hm) (zpow_pos (by norm_num) _)
  have bound : halfEven (m * 2 ^ e / 2 ^ keptBit (m * 2 ^ e)) ≤ 2 ^ 53 := halfEven_le (units_le _)
  have least : -1074 ≤ keptBit (m * 2 ^ e) := le_max_right _ _
  have inPlace : 2 ^ 52 ≤ halfEven (m * 2 ^ e / 2 ^ keptBit (m * 2 ^ e)) ∨ keptBit (m * 2 ^ e) = -1074 := by
    rcases Int.lt_or_eq_of_le least with normal | lowest
    · left
      have leading := halfEven_mono (le_units positive normal)
      rwa [halfEven_natCast] at leading
    · exact .inr lowest.symm
  have nearest : nearestRank (m * 2 ^ e) = min infinityRank ((keptBit (m * 2 ^ e) + 1074).toNat * hiddenBit +
      halfEven (m * 2 ^ e / 2 ^ keptBit (m * 2 ^ e))) := rfl
  rw [nearest]
  rw [← stands.rounded] at *
  generalize keptBit (m * 2 ^ e) = q at *
  -- a mantissa that was rounded up to all of 53 bits is shifted once more, and the rank is the same
  rcases Nat.lt_or_eq_of_le bound with short | carry
  · rw [roundWithAccuracy_of_shifted first (shifted_short short least)]
    by_cases zero : em.roundedMantissa = 0
    · have lowest : q = -1074 := inPlace.resolve_left (by omega)
      rw [dif_pos zero, zero, lowest]
      exact ⟨(packed_zero s).2, (packed_zero s).1⟩
    · rw [dif_neg zero]
      exact ⟨rank_packed_finite _ short least inPlace, (packed_finite s _ _ _).1⟩
  · have second := shifted_carry least
    rw [← carry] at second
    rw [roundWithAccuracy_of_shifted first second, dif_neg (by decide), carry]
    refine ⟨?_, (packed_finite s _ _ _).1⟩
    rw [rank_packed_finite _ (by decide) (by omega) (.inl le_rfl), hiddenBit]
    omega

/-- Places that are added below a mantissa change nothing. -/
theorem shiftLeft_value (m n : Nat) (e : Int) : ((m <<< n : Nat) : ℚ) * 2 ^ (e - n) = m * 2 ^ e := by
  rw [Nat.shiftLeft_eq, zpow_sub₀ (by norm_num), zpow_natCast]
  push_cast
  field_simp

/-- So is a result whose bits may all have to be kept. -/
theorem rank_round (s : Sign) (hm : 0 < m) (e : Int) :
    rank (packed (UnpackedFloat.round .binary64 s m e)) = nearestRank (m * 2 ^ e) ∧
      sign (packed (UnpackedFloat.round .binary64 s m e)) = s := by
  rw [UnpackedFloat.round, targetExponent_eq hm]
  have value := shiftLeft_value m (e - keptBit (m * 2 ^ e)).toNat e
  have some : 0 < m <<< (e - keptBit (m * 2 ^ e)).toNat := by
    rw [Nat.shiftLeft_eq]
    positivity
  have rounded := rank_rounded s (e := e - (e - keptBit (m * 2 ^ e)).toNat) some (by rw [value]; omega)
  rw [value] at rounded
  exact rounded

/-- However exact a result is, it is rounded to a number of its sign. -/
theorem notBelow_rounded (m : Nat) (e : Int) (accuracy : Accuracy) :
    NotBelow (roundWithAccuracy .binary64 .positive m e accuracy) := by
  rw [roundWithAccuracy]
  dsimp only
  split_ifs
  · trivial
  · rfl

end

/-! ## Sums and products of positive floats -/

section

variable {x y z : Float}

theorem mul_eq (x y : Float) :
    x * y = packed (UnpackedFloat.mul .binary64 x.toModel.unpack y.toModel.unpack) := rfl

theorem add_eq (x y : Float) :
    x + y = packed (UnpackedFloat.add .binary64 x.toModel.unpack y.toModel.unpack) := rfl

theorem div_eq (x y : Float) :
    x / y = packed (UnpackedFloat.div .binary64 x.toModel.unpack y.toModel.unpack) := rfl

theorem sqrt_eq (x : Float) : x.sqrt = packed (UnpackedFloat.sqrt .binary64 x.toModel.unpack) := rfl

theorem lastBit_of_short {r : Nat} (h : mantissa r < 2 ^ 52) : lastBit r = -1074 := by
  rw [mantissa, hiddenBit] at h
  rw [lastBit, hiddenBit]
  split_ifs at h <;> omega

/-- No bit of a product is lost before it is rounded. -/
theorem lastBit_add_le {r s : Nat} (hr : 0 < r) (hs : 0 < s) : lastBit r + lastBit s ≤
    keptBit ((mantissa r * mantissa s : Nat) * 2 ^ (lastBit r + lastBit s)) := by
  have mr := mantissa_pos hr
  have ms := mantissa_pos hs
  rw [keptBit, log_mul_zpow (Nat.mul_pos mr ms)]
  -- a short product has short factors, and these have the lowest last bit there is
  by_cases long : 2 ^ 52 ≤ mantissa r * mantissa s
  · have bits := (Nat.le_log2 (Nat.mul_pos mr ms).ne').2 long
    omega
  · have left : mantissa r ≤ mantissa r * mantissa s := Nat.le_mul_of_pos_right _ ms
    have right : mantissa s ≤ mantissa r * mantissa s := Nat.le_mul_of_pos_left _ mr
    rw [lastBit_of_short (r := r) (by omega), lastBit_of_short (r := s) (by omega)]
    omega

/-- **A product is the exact one, rounded.** -/
theorem rank_mul (px : 0 < rank x) (fx : isFinite x) (py : 0 < rank y) (fy : isFinite y) :
    rank (x * y) = nearestRank (value (rank x) * value (rank y)) ∧ sign (x * y) = sign x * sign y := by
  have exact : ((mantissa (rank x) * mantissa (rank y) : Nat) : ℚ) * 2 ^ (lastBit (rank x) + lastBit (rank y)) =
      value (rank x) * value (rank y) := by
    rw [value, value, zpow_add₀ (by norm_num)]
    push_cast
    ring
  have rounded := rank_rounded (sign x * sign y) (Nat.mul_pos (mantissa_pos px) (mantissa_pos py))
    (lastBit_add_le px py)
  rw [exact] at rounded
  rw [mul_eq, unpack_finite fx px, unpack_finite fy py]
  exact rounded

/-- So do those that bring a mantissa down to a lower exponent. -/
theorem decreased (m : Nat) (e : Int) {t : Int} (h : t ≤ e) :
    (((decreaseExponent m e t).1 : Nat) : ℚ) * 2 ^ t = m * 2 ^ e := by
  have reached : e - ((e - t).toNat : Int) = t := by omega
  have value := shiftLeft_value m (e - t).toNat e
  rw [reached] at value
  exact value

/-- **A sum of positive floats is the exact one, rounded.** -/
theorem rank_add (px : 0 < rank x) (fx : isFinite x) (sx : sign x = .positive) (py : 0 < rank y)
    (fy : isFinite y) (sy : sign y = .positive) :
    rank (x + y) = nearestRank (value (rank x) + value (rank y)) ∧ sign (x + y) = .positive := by
  have left := decreased (mantissa (rank x)) (lastBit (rank x)) (min_le_left _ (lastBit (rank y)))
  have right := decreased (mantissa (rank y)) (lastBit (rank y)) (min_le_right (lastBit (rank x)) _)
  have whole : x + y = packed (normalize .binary64
      (((decreaseExponent (mantissa (rank x)) (lastBit (rank x)) (min (lastBit (rank x)) (lastBit (rank y)))).1 +
        (decreaseExponent (mantissa (rank y)) (lastBit (rank y)) (min (lastBit (rank x)) (lastBit (rank y)))).1 : Nat)
          : Int) (min (lastBit (rank x)) (lastBit (rank y))) .positive) := by
    rw [add_eq, unpack_finite fx px, unpack_finite fy py, sx, sy]
    rfl
  rw [whole]
  -- from here on only the values of the two aligned mantissas matter
  generalize (decreaseExponent (mantissa (rank x)) _ _).1 = m at *
  generalize (decreaseExponent (mantissa (rank y)) _ _).1 = n at *
  generalize min (lastBit (rank x)) (lastBit (rank y)) = e at *
  have exact : ((m + n : Nat) : ℚ) * 2 ^ e = value (rank x) + value (rank y) := by
    rw [value, value, ← left, ← right]
    push_cast
    ring
  have some : 0 < m + n := by
    have positive : (0 : ℚ) < (m + n : Nat) * 2 ^ e := by
      rw [exact]
      exact add_pos (value_pos px) (value_pos py)
    exact_mod_cast (pos_iff_pos_of_mul_pos positive).2 (zpow_pos (by norm_num) e)
  have greater : compare ((m + n : Nat) : Int) 0 = .gt := Int.compare_eq_gt.2 (by omega)
  have rounded := rank_round .positive some e
  rw [exact] at rounded
  rw [UnpackedFloat.normalize, greater]
  exact rounded

end

/-! ## What is no number -/

section

variable {u v : UnpackedFloat}

theorem rounded_ne (s : Sign) (m : Nat) (e : Int) (accuracy : Accuracy) :
    roundWithAccuracy .binary64 s m e accuracy ≠ .notANumber := by
  rw [roundWithAccuracy]
  dsimp only
  split_ifs <;> nofun

/-- An infinity times zero is no number. -/
theorem mul_ne_iff : UnpackedFloat.mul .binary64 u v ≠ .notANumber ↔ u ≠ .notANumber ∧ v ≠ .notANumber ∧
    ¬ ((∃ s, u = .infinity s) ∧ ∃ s, v = .zero s) ∧ ¬ ((∃ s, u = .zero s) ∧ ∃ s, v = .infinity s) := by
  cases u <;> cases v <;> simp [UnpackedFloat.mul, rounded_ne]

/-- A product with zero is zero, if it is a number. -/
theorem mul_eq_zero (none : (∃ s, u = .zero s) ∨ ∃ s, v = .zero s)
    (number : UnpackedFloat.mul .binary64 u v ≠ .notANumber) : ∃ s, UnpackedFloat.mul .binary64 u v = .zero s := by
  cases u <;> cases v <;> simp_all [UnpackedFloat.mul]

/-- A quotient of two infinities or of two zeros is no number. -/
theorem div_ne_iff : UnpackedFloat.div .binary64 u v ≠ .notANumber ↔ u ≠ .notANumber ∧ v ≠ .notANumber ∧
    ¬ ((∃ s, u = .infinity s) ∧ ∃ s, v = .infinity s) ∧ ¬ ((∃ s, u = .zero s) ∧ ∃ s, v = .zero s) := by
  cases u <;> cases v <;> simp [UnpackedFloat.div, rounded_ne]

/-- A sum with what is no number is no number. -/
theorem add_ne (number : UnpackedFloat.add .binary64 u v ≠ .notANumber) : u ≠ .notANumber ∧ v ≠ .notANumber := by
  cases u <;> cases v <;> simp_all [UnpackedFloat.add]

/-! ## What is not below zero -/

@[simp] theorem positive_mul_positive : Sign.positive * Sign.positive = Sign.positive := rfl

@[simp] theorem positive_div_positive : Sign.positive / Sign.positive = Sign.positive := rfl

theorem notBelow_normalize {m : Int} (hm : 0 ≤ m) (e : Int) :
    NotBelow (UnpackedFloat.normalize .binary64 m e .positive) := by
  rw [UnpackedFloat.normalize]
  rcases Int.lt_or_eq_of_le hm with some | none
  · rw [Int.compare_eq_gt.2 some]
    exact notBelow_rounded _ _ _
  · rw [Int.compare_eq_eq.2 none.symm]
    trivial

theorem NotBelow.mul (hu : NotBelow u) (hv : NotBelow v)
    (number : UnpackedFloat.mul .binary64 u v ≠ .notANumber) : NotBelow (UnpackedFloat.mul .binary64 u v) := by
  cases u <;> cases v <;> simp_all [UnpackedFloat.mul, notBelow_rounded]

theorem NotBelow.div (hu : NotBelow u) (hv : NotBelow v) (some : ∀ s, v ≠ .zero s)
    (number : UnpackedFloat.div .binary64 u v ≠ .notANumber) : NotBelow (UnpackedFloat.div .binary64 u v) := by
  cases u <;> cases v <;> simp_all [UnpackedFloat.div, notBelow_rounded]

theorem NotBelow.add (hu : NotBelow u) (hv : NotBelow v) : NotBelow (UnpackedFloat.add .binary64 u v) := by
  cases u <;> cases v <;> simp_all [UnpackedFloat.add]
  · split_ifs <;> trivial
  · exact notBelow_normalize (Int.add_nonneg (Int.natCast_nonneg _) (Int.natCast_nonneg _)) _

/-- No root is below zero. -/
theorem notBelow_sqrt (number : UnpackedFloat.sqrt .binary64 u ≠ .notANumber) :
    NotBelow (UnpackedFloat.sqrt .binary64 u) := by
  cases u with
  | notANumber => exact absurd rfl number
  | infinity s =>
    cases s with
    | negative => exact absurd rfl number
    | positive => rfl
  | zero s => trivial
  | finite s m e hm =>
    cases s with
    | negative => exact absurd rfl number
    | positive => exact notBelow_rounded _ _ _

end

/-! ## Floats that are not below zero -/

section

variable {x y z : Float}

theorem exists_unpack_zero_iff : (∃ s, x.toModel.unpack = .zero s) ↔ rank x = 0 := by
  have top : infinityRank ≠ 0 := by decide
  cases kind x with
  | notANumber no unpacked =>
    have above : infinityRank < rank x := not_isNumber_iff.1 no
    simp [unpacked]
    omega
  | infinity top unpacked => simp_all
  | zero none unpacked => simp_all
  | finite some finite unpacked =>
    simp [unpacked]
    omega

theorem exists_unpack_infinity_iff : (∃ s, x.toModel.unpack = .infinity s) ↔ rank x = infinityRank := by
  have top : infinityRank ≠ 0 := by decide
  cases kind x with
  | notANumber no unpacked =>
    have above : infinityRank < rank x := not_isNumber_iff.1 no
    simp [unpacked]
    omega
  | infinity top unpacked => simp_all
  | zero none unpacked =>
    rw [unpacked, none]
    exact ⟨nofun, fun h => absurd h.symm top⟩
  | finite some finite unpacked =>
    have below : rank x < infinityRank := of_decide_eq_true finite
    simp [unpacked]
    omega

theorem unpack_ne_iff : x.toModel.unpack ≠ .notANumber ↔ isNumber x := by
  rw [Ne, unpack_eq_notANumber_iff, Classical.not_not]

/-- **A product is a number** unless an infinity is multiplied with zero. -/
theorem isNumber_mul_iff : isNumber (x * y) ↔ isNumber x ∧ isNumber y ∧
    ¬ (rank x = infinityRank ∧ rank y = 0) ∧ ¬ (rank x = 0 ∧ rank y = infinityRank) := by
  rw [mul_eq, isNumber_packed_iff, mul_ne_iff, unpack_ne_iff, unpack_ne_iff, exists_unpack_zero_iff,
    exists_unpack_zero_iff, exists_unpack_infinity_iff, exists_unpack_infinity_iff]

/-- **A product with zero is zero**, if it is a number. -/
theorem rank_mul_zero (none : rank x = 0 ∨ rank y = 0) (number : isNumber (x * y)) : rank (x * y) = 0 := by
  rw [mul_eq, isNumber_packed_iff] at number
  rw [← exists_unpack_zero_iff, ← exists_unpack_zero_iff] at none
  obtain ⟨s, zero⟩ := mul_eq_zero none number
  rw [mul_eq, zero]
  exact (packed_zero s).2

/-- **A quotient is a number** unless both are infinite or both are zero. -/
theorem isNumber_div_iff : isNumber (x / y) ↔ isNumber x ∧ isNumber y ∧
    ¬ (rank x = infinityRank ∧ rank y = infinityRank) ∧ ¬ (rank x = 0 ∧ rank y = 0) := by
  rw [div_eq, isNumber_packed_iff, div_ne_iff, unpack_ne_iff, unpack_ne_iff, exists_unpack_zero_iff,
    exists_unpack_zero_iff, exists_unpack_infinity_iff, exists_unpack_infinity_iff]

theorem isNumber_of_add (number : isNumber (x + y)) : isNumber x ∧ isNumber y := by
  rw [add_eq, isNumber_packed_iff] at number
  obtain ⟨hx, hy⟩ := add_ne number
  exact ⟨unpack_ne_iff.1 hx, unpack_ne_iff.1 hy⟩

theorem nonneg_mul (hx : 0 ≤ x) (hy : 0 ≤ y) (number : isNumber (x * y)) : 0 ≤ x * y := by
  rw [mul_eq, isNumber_packed_iff] at number
  exact ((notBelow_iff_nonneg.2 hx).mul (notBelow_iff_nonneg.2 hy) number).nonneg

theorem nonneg_div (hx : 0 ≤ x) (hy : 0 ≤ y) (some : rank y ≠ 0) (number : isNumber (x / y)) : 0 ≤ x / y := by
  rw [div_eq, isNumber_packed_iff] at number
  have nonzero : ∀ s, y.toModel.unpack ≠ .zero s := fun s h => some (exists_unpack_zero_iff.1 ⟨s, h⟩)
  exact ((notBelow_iff_nonneg.2 hx).div (notBelow_iff_nonneg.2 hy) nonzero number).nonneg

theorem nonneg_add (hx : 0 ≤ x) (hy : 0 ≤ y) : 0 ≤ x + y :=
  ((notBelow_iff_nonneg.2 hx).add (notBelow_iff_nonneg.2 hy)).nonneg

/-! ## Never below zero -/

/-- Not below zero, if it is a number at all. -/
def NeverBelow (x : Float) : Prop := isNumber x → 0 ≤ x

/-- What is not found to be at most zero is above it, or no number. -/
theorem neverBelow_of_not_le (h : ¬ x ≤ 0) : NeverBelow x := by
  intro number
  have zero : isNumber 0 := by decide +kernel
  by_contra below
  refine h (le_of_not_lt zero number fun above => below ?_)
  exact le_iff_level.2 ⟨zero, number, (lt_iff_level.1 above).2.2.le⟩

theorem NeverBelow.add (hx : NeverBelow x) (hy : NeverBelow y) : NeverBelow (x + y) := by
  intro number
  obtain ⟨nx, ny⟩ := isNumber_of_add number
  exact nonneg_add (hx nx) (hy ny)

theorem NeverBelow.mul (hx : NeverBelow x) (hy : NeverBelow y) : NeverBelow (x * y) := by
  intro number
  obtain ⟨nx, ny, -⟩ := isNumber_mul_iff.1 number
  exact nonneg_mul (hx nx) (hy ny) number

theorem NeverBelow.div (hx : NeverBelow x) (hy : NeverBelow y) (some : rank y ≠ 0) : NeverBelow (x / y) := by
  intro number
  obtain ⟨nx, ny, -⟩ := isNumber_div_iff.1 number
  exact nonneg_div (hx nx) (hy ny) some number

theorem neverBelow_sqrt (x : Float) : NeverBelow x.sqrt := by
  intro number
  rw [sqrt_eq, isNumber_packed_iff] at number
  exact (notBelow_sqrt number).nonneg

/-! ## Order -/

theorem isNumber_of_nonneg (h : 0 ≤ x) : isNumber x := (nonneg_iff_level.1 h).1

theorem level_of_nonneg (h : 0 ≤ x) : level x = rank x := by
  rcases (nonneg_iff_sign.1 h).2 with zero | positive
  · rw [level_of_rank_zero zero, zero]
    rfl
  · exact level_of_positive positive

/-- From zero on, the order is that of the ranks. -/
theorem le_iff_rank (hx : 0 ≤ x) (hy : 0 ≤ y) : x ≤ y ↔ rank x ≤ rank y := by
  rw [le_iff_level, level_of_nonneg hx, level_of_nonneg hy]
  exact ⟨fun h => by omega, fun h => ⟨isNumber_of_nonneg hx, isNumber_of_nonneg hy, by omega⟩⟩

theorem sign_of_nonneg (h : 0 ≤ x) (some : 0 < rank x) : sign x = .positive :=
  (nonneg_iff_sign.1 h).2.resolve_left some.ne'

/-- **Adding what is not below zero** does not make a number less. -/
theorem le_add (hx : 0 ≤ x) (hy : 0 ≤ y) : x ≤ x + y := by
  rw [le_iff_rank hx (nonneg_add hx hy)]
  cases kind x with
  | notANumber no => exact absurd (isNumber_of_nonneg hx) no
  | zero none =>
    rw [none]
    exact Nat.zero_le _
  | infinity top unpacked =>
    have sx : sign x = .positive := sign_of_nonneg hx (by rw [top]; decide)
    have whole : x + y = packed (.infinity .positive) := by
      rw [add_eq, unpacked, sx]
      cases kind y with
      | notANumber no => exact absurd (isNumber_of_nonneg hy) no
      | zero none unpacked => rw [unpacked]; rfl
      | infinity top unpacked =>
        rw [unpacked, sign_of_nonneg hy (by rw [top]; decide)]
        rfl
      | finite some finite unpacked => rw [unpacked]; rfl
    rw [whole, (packed_infinity _).2, top]
  | finite px fx unpacked =>
    -- only two finite summands are added up exactly and rounded
    cases kind y with
    | notANumber no => exact absurd (isNumber_of_nonneg hy) no
    | zero none nothing =>
      have same : x + y = x := by
        rw [add_eq, nothing, unpacked]
        exact (congrArg packed unpacked.symm).trans (packed_unpack x)
      rw [same]
    | infinity top endless =>
      have whole : x + y = packed (.infinity (sign y)) := by
        rw [add_eq, endless, unpacked]
        rfl
      rw [whole, (packed_infinity _).2]
      exact of_decide_eq_true (isNumber_of_nonneg hx)
    | finite py fy =>
      have more : value (rank x) ≤ value (rank x) + value (rank y) :=
        le_add_of_nonneg_right (value_pos py).le
      have below : rank x < infinityRank := of_decide_eq_true fx
      rw [(rank_add px fx (sign_of_nonneg hx px) py fy (sign_of_nonneg hy py)).1]
      calc rank x = nearestRank (value (rank x)) := (nearestRank_value px below).symm
        _ ≤ nearestRank (value (rank x) + value (rank y)) := nearestRank_mono (value_pos px) more

theorem mul_infinity_of_finite (px : 0 < rank x) (fx : isFinite x) (top : rank y = infinityRank) :
    rank (x * y) = infinityRank := by
  rw [mul_eq, unpack_infinity top, unpack_finite fx px]
  exact (packed_infinity _).2

/-- **Multiplying with a positive float** keeps the order from zero on. -/
theorem mul_mono (pz : 0 < rank z) (fz : isFinite z) (hz : 0 ≤ z) (hx : 0 ≤ x) (hy : 0 ≤ y) (h : x ≤ y) :
    z * x ≤ z * y := by
  have below : rank z < infinityRank := of_decide_eq_true fz
  have number {w : Float} (hw : 0 ≤ w) : isNumber (z * w) :=
    isNumber_mul_iff.2 ⟨isNumber_of_isFinite fz, isNumber_of_nonneg hw, by omega, by omega⟩
  have ranks : rank x ≤ rank y := (le_iff_rank hx hy).1 h
  rw [le_iff_rank (nonneg_mul hz hx (number hx)) (nonneg_mul hz hy (number hy))]
  -- a zero and an infinity are not products that are rounded, so they are taken apart first
  rcases Nat.eq_zero_or_pos (rank x) with none | px
  · rw [rank_mul_zero (.inr none) (number hx)]
    exact Nat.zero_le _
  · rcases rank_eq_or (isNumber_of_nonneg hy) with zero | top | ⟨py, fy⟩
    · omega
    · rw [mul_infinity_of_finite pz fz top]
      exact of_decide_eq_true (number hx)
    · have fx : isFinite x := decide_eq_true (ranks.trans_lt (of_decide_eq_true fy))
      rw [(rank_mul pz fz px fx).1, (rank_mul pz fz py fy).1]
      refine nearestRank_mono (mul_pos (value_pos pz) (value_pos px)) ?_
      exact mul_le_mul_of_nonneg_left (value_mono ranks) (value_pos pz).le

/-! ## One -/

/-- A float is determined by its sign and its rank. -/
theorem ext_parts (signs : sign x = sign y) (ranks : rank x = rank y) : x = y := by
  have negatives : isNegative x = isNegative y := by
    rw [sign, sign] at signs
    cases nx : isNegative x <;> cases ny : isNegative y <;> simp [nx, ny] at signs ⊢
  rw [← ofRank_rank x, ← ofRank_rank y, negatives, ranks]

theorem mul_positive (s : Sign) : s * .positive = s := by
  cases s <;> rfl

/-- **One time a float** is the float, and what is no number stays so. -/
theorem mul_one_eq (x : Float) : x * 1 = x := by
  have rank_one : rank 1 = 1023 * hiddenBit := by decide +kernel
  have finite_one : isFinite 1 := by decide +kernel
  have sign_one : sign 1 = .positive := if_neg (by decide +kernel)
  have some_one : 0 < rank 1 := by
    rw [rank_one]
    decide
  have value_one : value (rank 1) = 1 := by
    have parts : mantissa (1023 * hiddenBit) = 2 ^ 52 ∧ lastBit (1023 * hiddenBit) = -52 := by decide
    rw [rank_one, value, parts.1, parts.2]
    norm_num
  have one := unpack_finite finite_one some_one
  cases kind x with
  | notANumber no unpacked =>
    rw [mul_eq, unpacked]
    exact (congrArg packed unpacked.symm).trans (packed_unpack x)
  | infinity top unpacked =>
    rw [mul_eq, unpacked, one, sign_one]
    show packed (.infinity (sign x * .positive)) = x
    rw [mul_positive, ← unpacked, packed_unpack]
  | zero none unpacked =>
    rw [mul_eq, unpacked, one, sign_one]
    show packed (.zero (sign x * .positive)) = x
    rw [mul_positive, ← unpacked, packed_unpack]
  | finite px fx unpacked =>
    -- the exact product is a float already, and rounding leaves it
    obtain ⟨ranks, signs⟩ := rank_mul px fx some_one finite_one
    rw [value_one, mul_one, nearestRank_value px (of_decide_eq_true fx)] at ranks
    rw [sign_one, mul_positive] at signs
    exact ext_parts signs ranks

end

end LitSpheres.Binary64
