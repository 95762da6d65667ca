/-
  Whole numbers and floats, each converted into the other.

  1. **Program** — the whole part of a float is the quotient of its fraction; an integer becomes the
     nearest float, if that is finite.

  2. **Specification** — a float that is at least one has a whole part of at least one, and one that is
     less has not; no whole part of a finite float is too large to become a float again.  Only zero
     becomes zero.

  3. **The crux** — the largest finite float is itself whole, and rounding to the nearest whole number of
     units does not go past a whole number.
-/
import LitSpheres.Proofs.Binary64.Order

namespace LitSpheres.Binary64

/-- The value of the largest finite float. -/
def largest : Nat := (2 ^ 53 - 1) * twoTo 971

theorem cast_largest : (largest : ℚ) = (2 ^ 53 - 1 : Nat) * 2 ^ (971 : Int) := by
  unfold largest
  rw [Nat.cast_mul, cast_twoTo]
  rfl

/-! ## The whole part of a float -/

section

variable {r : Nat} {x : Float}

theorem twoTo_le_twoTo {m n : Nat} (h : m ≤ n) : twoTo m ≤ twoTo n := Nat.pow_le_pow_right (by decide) h

theorem denominator_pos (r : Nat) : 0 < denominator r := twoTo_pos _

/-- From one on, the mantissa is at least as large as the power that divides it. -/
theorem denominator_le_numerator (h : 1023 * hiddenBit ≤ r) : denominator r ≤ numerator r := by
  have normal : ¬ r < hiddenBit := by
    unfold hiddenBit at *
    omega
  have places : (-lastBit r).toNat ≤ 52 := by
    unfold lastBit hiddenBit at *
    omega
  calc denominator r ≤ twoTo 52 := twoTo_le_twoTo places
    _ ≤ mantissa r := by
      unfold mantissa
      rw [if_neg normal]
      exact Nat.le_add_left _ _
    _ ≤ numerator r := Nat.le_mul_of_pos_right _ (twoTo_pos _)

theorem numerator_le_largest (h : r < infinityRank) : numerator r ≤ largest := by
  have places : (lastBit r).toNat ≤ 971 := by
    unfold lastBit infinityRank hiddenBit at *
    omega
  exact Nat.mul_le_mul (Nat.le_pred_of_lt (mantissa_lt r)) (twoTo_le_twoTo places)

/-- **No whole part lies beyond the largest float.** -/
theorem natAbs_truncate_le (finite : isFinite x) : (truncate x).natAbs ≤ largest := by
  have whole : (truncate x).natAbs = numerator (rank x) / denominator (rank x) := by
    unfold truncate
    cases isNegative x with
    | true => exact (Int.natAbs_neg _).trans (Int.natAbs_natCast _)
    | false => exact Int.natAbs_natCast _
  rw [whole]
  exact (Nat.div_le_self _ _).trans (numerator_le_largest (of_decide_eq_true finite))

theorem level_zero : level 0 = 0 := by decide +kernel

theorem level_one : level 1 = 1023 * hiddenBit := by decide +kernel

/-- **The whole part of what is at least one is at least one.** -/
theorem one_le_truncate (h : 1 ≤ x) : 1 ≤ truncate x := by
  obtain ⟨-, -, above⟩ := le_iff_level.1 h
  rw [level_one] at above
  have positive : isNegative x = false := by
    by_contra negative
    have below : level x = -(rank x : Int) := if_pos (by simpa using negative)
    unfold hiddenBit at above
    omega
  have same : level x = rank x := if_neg (by simp [positive])
  have high : 1023 * hiddenBit ≤ rank x := by
    rw [same] at above
    exact_mod_cast above
  have one : 1 ≤ numerator (rank x) / denominator (rank x) :=
    (Nat.one_le_div_iff (denominator_pos _)).2 (denominator_le_numerator high)
  have whole : truncate x = (numerator (rank x) / denominator (rank x) : Nat) := if_neg (by simp [positive])
  rw [whole]
  exact_mod_cast one

/-- Below one, the mantissa is smaller than the power that divides it. -/
theorem numerator_lt_denominator (h : r < 1023 * hiddenBit) : numerator r < denominator r := by
  have places : (lastBit r).toNat = 0 ∧ 53 ≤ (-lastBit r).toNat := by
    unfold lastBit hiddenBit at *
    omega
  calc numerator r = mantissa r := by
        unfold numerator
        rw [places.1]
        exact Nat.mul_one _
    _ < twoTo 53 := mantissa_lt r
    _ ≤ denominator r := twoTo_le_twoTo places.2

/-- **The whole part of what is less than one is less than one.** -/
theorem truncate_lt_one (h : x < 1) : truncate x < 1 := by
  obtain ⟨-, -, below⟩ := lt_iff_level.1 h
  rw [level_one] at below
  unfold truncate
  cases negative : isNegative x with
  | true =>
    show -((numerator (rank x) / denominator (rank x) : Nat) : Int) < 1
    exact (neg_nonpos.2 (Int.natCast_nonneg _)).trans_lt (by decide)
  | false =>
    have same : level x = rank x := if_neg (by simp [negative])
    have low : rank x < 1023 * hiddenBit := by
      rw [same] at below
      exact_mod_cast below
    have none : numerator (rank x) / denominator (rank x) = 0 := Nat.div_eq_of_lt (numerator_lt_denominator low)
    show ((numerator (rank x) / denominator (rank x) : Nat) : Int) < 1
    rw [none]
    decide

end

/-! ## The float of a rank -/

section

variable {negative : Bool} {r : Nat}

/-- The bits of a finite pattern are kept. -/
theorem toBits_ofBits {b : UInt64} (h : b.toNat % signBit < infinityRank) : (Float.ofBits b).toBits = b := by
  have valid : Float.Model.Format.binary64.Valid b.toBitVec := by
    refine ⟨fun top => ?_⟩
    have exponent : b.toNat / hiddenBit % 2048 = 2047 :=
      (toNat_unpackExponent b.toBitVec).symm.trans (congrArg BitVec.toNat top)
    unfold signBit infinityRank hiddenBit at *
    omega
  show UInt64.ofBitVec (Float.Model.UnpackedFloat.pack .binary64
    (Float.Model.UnpackedFloat.unpack .binary64 b.toBitVec)) = b
  rw [pack_unpack valid]

theorem rank_ofRank (h : r < infinityRank) : rank (ofRank negative r) = r := by
  have bits : (UInt64.ofNat ((if negative then signBit else 0) + r)).toNat =
      (if negative then signBit else 0) + r := by
    rw [UInt64.toNat_ofNat']
    unfold signBit infinityRank hiddenBit at *
    split <;> omega
  have low : ((if negative then signBit else 0) + r) % signBit = r := by
    unfold signBit infinityRank hiddenBit at *
    split <;> omega
  unfold rank ofRank
  rw [toBits_ofBits (by rw [bits, low]; exact h), bits, low]

theorem isFinite_ofRank (h : r < infinityRank) : isFinite (ofRank negative r) := by
  unfold isFinite
  rw [rank_ofRank h]
  exact decide_eq_true h

end

/-! ## The float nearest to an integer -/

/-- Rounding does not go past a whole number. -/
theorem halfEven_le {v : ℚ} {n : Nat} (h : v ≤ n) : halfEven v ≤ n := by
  have floor : ⌊v⌋₊ ≤ n := Nat.floor_le_of_le h
  unfold halfEven
  by_cases whole : ⌊v⌋₊ = n
  · have rest : v - ⌊v⌋₊ < 1 / 2 := by
      rw [whole]
      linarith
    rw [if_pos rest]
    exact floor
  · split_ifs <;> omega

/-- In units of the last bit that is kept, a rational is at most a mantissa of 53 bits rounded up. -/
theorem units_le (v : ℚ) : v / 2 ^ keptBit v ≤ (2 ^ 53 : Nat) := by
  have high : v < 2 ^ (Int.log 2 v + 1) := Int.lt_zpow_succ_log_self (by decide) v
  have last : Int.log 2 v + 1 ≤ 53 + keptBit v := by
    rw [keptBit]
    omega
  rw [div_le_iff₀ (zpow_pos (by norm_num) _)]
  calc v ≤ 2 ^ (Int.log 2 v + 1) := high.le
    _ ≤ 2 ^ (53 + keptBit v) := zpow_le_zpow_right₀ (by norm_num) last
    _ = (2 ^ 53 : Nat) * 2 ^ keptBit v := by rw [zpow_add₀ (by norm_num)]; norm_num

/-- What is not beyond the largest float is rounded to a finite one. -/
theorem nearestRank_lt {v : ℚ} (positive : 0 < v) (h : v ≤ largest) : nearestRank v < infinityRank := by
  have order : Int.log 2 v < 1024 := by
    refine (Int.lt_zpow_iff_log_lt (by decide) positive).1 (h.trans_lt ?_)
    calc (largest : ℚ) = (2 ^ 53 - 1 : Nat) * 2 ^ (971 : Int) := cast_largest
      _ < 2 ^ (53 : Int) * 2 ^ (971 : Int) := mul_lt_mul_of_pos_right (by norm_num) (zpow_pos (by norm_num) _)
      _ = 2 ^ (1024 : Int) := (zpow_add₀ (by norm_num) _ _).symm
  have kept : keptBit v ≤ 971 := by
    unfold keptBit
    omega
  have power : (0 : ℚ) < 2 ^ keptBit v := zpow_pos (by norm_num) _
  refine (Nat.min_le_right _ _).trans_lt ?_
  rcases lt_or_eq_of_le kept with below | top
  · -- a mantissa that is rounded up to a power of two is no longer than the rest of the ranks
    have rounded := halfEven_le (units_le v)
    unfold infinityRank hiddenBit
    omega
  · have mantissa : v / 2 ^ keptBit v ≤ (2 ^ 53 - 1 : Nat) := by
      rw [div_le_iff₀ power, top]
      exact h.trans_eq cast_largest
    have rounded := halfEven_le mantissa
    rw [top] at rounded ⊢
    unfold infinityRank hiddenBit
    omega

theorem nearestRank_pos {v : ℚ} (h : 1 ≤ v) : 0 < nearestRank v := by
  have order : 0 ≤ Int.log 2 v := (Int.zpow_le_iff_le_log (by decide) (by linarith)).1 (by simpa using h)
  have kept : -52 ≤ keptBit v := by
    unfold keptBit
    omega
  refine Nat.lt_min.2 ⟨by decide, Nat.add_pos_left (Nat.mul_pos (by omega) (by decide)) _⟩

/-- **An integer that is not beyond the largest float becomes a finite float**, and not zero unless it is
    zero. -/
theorem exists_ofInt {n : Int} (h : n.natAbs ≤ largest) :
    ∃ x, ofInt? n = some x ∧ isFinite x ∧ (n ≠ 0 → 0 < rank x) := by
  have finite : nearestFraction n.natAbs 1 < infinityRank ∧ (n ≠ 0 → 0 < nearestFraction n.natAbs 1) := by
    by_cases zero : n = 0
    · subst zero
      exact ⟨by decide, fun some => absurd rfl some⟩
    · have one : 1 ≤ n.natAbs := by omega
      have one' : (1 : ℚ) ≤ n.natAbs := by exact_mod_cast one
      have bound : (n.natAbs : ℚ) ≤ largest := by exact_mod_cast h
      rw [nearestFraction_eq one Nat.one_pos, Nat.cast_one, div_one]
      exact ⟨nearestRank_lt (by linarith) bound, fun _ => nearestRank_pos one'⟩
  refine ⟨ofRank (decide (n < 0)) (nearestFraction n.natAbs 1), if_pos finite.1, isFinite_ofRank finite.1, ?_⟩
  rw [rank_ofRank finite.1]
  exact finite.2

/-- Equal to zero are exactly the zeros of both signs. -/
theorem beq_zero_iff {x : Float} : (x == 0) = true ↔ rank x = 0 := by
  rw [beq_iff_level, level_zero]
  constructor
  · rintro ⟨-, -, same⟩
    rw [level] at same
    split at same <;> omega
  · intro none
    exact ⟨isNumber_of_isFinite (isFinite_of_rank_zero none), by decide +kernel, level_of_rank_zero none⟩

end LitSpheres.Binary64
