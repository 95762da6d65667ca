/-
  The decimal that is written for a float reads back as that float.

  1. **Program** — grids of decimals are searched for one that reads back, and the exact expansion stands
     by in case that none does; zeros at the end of the digits are dropped.

  2. **Specification** — whatever the search finds, reading it gives the float.

  3. **The crux** — what is found on a grid was tested.  The exact expansion needs no test, since its value
     is that of the float, and dropping zeros changes no value.
-/
import LitSpheres.Decimal.Layout
import LitSpheres.Proofs.Binary64.Rounding

namespace LitSpheres

namespace Decimal

variable {d : Decimal}

/-! ## The value of a decimal -/

/-- The number that the decimal stands for. -/
def value (d : Decimal) : ℚ := d.digits * 10 ^ d.exponent

theorem tenTo_pos (n : Nat) : 0 < tenTo n := Nat.pow_pos (by decide)

theorem cast_tenTo (n : Nat) : (tenTo n : ℚ) = 10 ^ n := by
  show ((10 ^ n : Nat) : ℚ) = 10 ^ n
  exact Nat.cast_pow 10 n

theorem zpow_ten_eq (e : Int) : (10 : ℚ) ^ e = tenTo e.toNat / tenTo (-e).toNat := by
  rw [cast_tenTo, cast_tenTo]
  exact Binary64.zpow_eq_div 10 e

theorem num_div_den (d : Decimal) : (d.num : ℚ) / d.den = d.value := by
  unfold num den value
  rw [zpow_ten_eq]
  push_cast
  ring

/-- **Reading a decimal** is rounding its value. -/
theorem nearest_eq (h : 0 < d.digits) : d.nearest = Binary64.nearestRank d.value := by
  have num_pos : 0 < d.num := Nat.mul_pos h (tenTo_pos _)
  have den_pos : 0 < d.den := tenTo_pos _
  unfold nearest
  rw [Binary64.nearestFraction_eq num_pos den_pos, num_div_den]

theorem nearest_zero (e : Int) : nearest ⟨0, e⟩ = 0 := by
  unfold nearest num Binary64.nearestFraction
  rw [Nat.zero_mul, if_pos rfl]

theorem digits_pos (h : 0 < d.nearest) : 0 < d.digits := by
  obtain ⟨n, e⟩ := d
  rcases Nat.eq_zero_or_pos n with rfl | hn
  · rw [nearest_zero] at h
    exact absurd h (by decide)
  · exact hn

/-! ## Zeros at the end -/

theorem value_reduced (d : Decimal) : d.reduced.value = d.value := by
  fun_induction reduced d with
  | case1 d h => rfl
  | case2 d h zero ih =>
    have digits : (d.digits : ℚ) = (d.digits / 10 : Nat) * 10 := by
      exact_mod_cast (Nat.div_mul_cancel (Nat.dvd_of_mod_eq_zero zero)).symm
    rw [ih]
    unfold value
    rw [digits, zpow_add_one₀ (by norm_num)]
    ring
  | case3 d h zero => rfl

theorem digits_reduced_pos (h : 0 < d.digits) : 0 < d.reduced.digits := by
  fun_induction reduced d with
  | case1 d zero => exact absurd zero h.ne'
  | case2 d _ zero ih =>
    refine ih ?_
    show 0 < d.digits / 10
    omega
  | case3 d _ _ => exact h

theorem nearest_reduced (h : 0 < d.digits) : d.reduced.nearest = d.nearest := by
  rw [nearest_eq (digits_reduced_pos h), nearest_eq h, value_reduced]

end Decimal

namespace Binary64

variable {rank : Nat}

/-! ## The search -/

/-- The exact expansion has the value of the float. -/
theorem value_exactDecimal (rank : Nat) : (exactDecimal rank).value = value rank := by
  have powers (n : Nat) : (fiveTo n : ℚ) * twoTo n = tenTo n := by
    have : fiveTo n * twoTo n = tenTo n := (Nat.mul_pow 5 2 n).symm
    exact_mod_cast this
  have two : (twoTo (-lastBit rank).toNat : ℚ) ≠ 0 := by exact_mod_cast (twoTo_pos _).ne'
  have ten : (tenTo (-lastBit rank).toNat : ℚ) ≠ 0 := by exact_mod_cast (Decimal.tenTo_pos _).ne'
  have point : (10 : ℚ) ^ min (lastBit rank) 0 = 1 / tenTo (-lastBit rank).toNat := by
    have whole : (min (lastBit rank) 0).toNat = 0 := by omega
    have places : (-min (lastBit rank) 0).toNat = (-lastBit rank).toNat := by omega
    rw [Decimal.zpow_ten_eq, whole, places]
    norm_num [tenTo]
  unfold exactDecimal Decimal.value value
  rw [point, zpow_two_eq]
  push_cast
  rw [mul_one_div, div_eq_iff ten, ← powers]
  field_simp

theorem exactDecimal_digits_pos (h : 0 < rank) : 0 < (exactDecimal rank).digits :=
  Nat.mul_pos (Nat.mul_pos (mantissa_pos h) (twoTo_pos _)) (Nat.pow_pos (by decide))

theorem nearest_exactDecimal (h : 0 < rank) (finite : rank < infinityRank) :
    (exactDecimal rank).nearest = rank := by
  rw [Decimal.nearest_eq (exactDecimal_digits_pos h), value_exactDecimal, nearestRank_value h finite]

/-- Where the value of a float lies on a grid. -/
def valueOnGrid (rank : Nat) (e : Int) : GridFloor := gridFloor (numerator rank) (denominator rank) e

/-- The grid point at the value or next below it. -/
def below (rank : Nat) (e : Int) : Decimal := ⟨(valueOnGrid rank e).floor, e⟩

/-- The next grid point above the value. -/
def above (rank : Nat) (e : Int) : Decimal := ⟨(valueOnGrid rank e).floor + 1, e⟩

/-- What is found on a grid: a neighbour that reads back, on whose side the value lies if the other one
    reads back as well. -/
theorem onGrid?_cases {e : Int} {d : Decimal} (h : onGrid? rank e = some d) :
    d.nearest = rank ∧
      (d = below rank e ∧
          ((above rank e).nearest = rank → 2 * (valueOnGrid rank e).excess ≤ (valueOnGrid rank e).step) ∨
        d = above rank e ∧
          ((below rank e).nearest = rank → (valueOnGrid rank e).step ≤ 2 * (valueOnGrid rank e).excess)) := by
  rw [onGrid?] at h
  -- whichever neighbour is taken on a branch, that branch has tested it
  split at h
  · next low high =>
    obtain rfl := Option.some.inj h
    exact ⟨eq_of_beq low, .inl ⟨rfl, fun reads => absurd reads (beq_eq_false_iff_ne.1 high)⟩⟩
  · next low high =>
    obtain rfl := Option.some.inj h
    exact ⟨eq_of_beq high, .inr ⟨rfl, fun reads => absurd reads (beq_eq_false_iff_ne.1 low)⟩⟩
  · exact absurd h (by simp)
  · next low high =>
    split at h
    · next nearer =>
      obtain rfl := Option.some.inj h
      exact ⟨eq_of_beq low, .inl ⟨rfl, fun _ => nearer.le⟩⟩
    · next nearer =>
      split at h
      · next farther =>
        obtain rfl := Option.some.inj h
        exact ⟨eq_of_beq high, .inr ⟨rfl, fun _ => farther.le⟩⟩
      · next farther =>
        split at h
        · obtain rfl := Option.some.inj h
          exact ⟨eq_of_beq low, .inl ⟨rfl, fun _ => Nat.le_of_not_lt farther⟩⟩
        · obtain rfl := Option.some.inj h
          exact ⟨eq_of_beq high, .inr ⟨rfl, fun _ => Nat.le_of_not_lt nearer⟩⟩

/-- **The shortest decimal reads back.** -/
theorem nearest_shortest (h : 0 < rank) (finite : rank < infinityRank) :
    (shortest rank).nearest = rank := by
  unfold shortest
  dsimp only
  generalize hf : ((List.range (digitCount (exactDecimal rank).digits)).findSome? fun (k : Nat) =>
    onGrid? rank (decimalOrder (numerator rank) (denominator rank) - k)) = found
  have reads : (found.getD (exactDecimal rank)).nearest = rank := by
    cases found with
    | none => exact nearest_exactDecimal h finite
    | some d =>
      obtain ⟨k, -, hk⟩ := List.exists_of_findSome?_eq_some hf
      exact (onGrid?_cases hk).1
  rw [Decimal.nearest_reduced (Decimal.digits_pos (by rw [reads]; exact h)), reads]

end Binary64

/-- The decimal that is written for a finite float reads back, zero included. -/
theorem NumberLayout.nearest_decimalOf {rank : Nat} (finite : rank < Binary64.infinityRank) :
    (decimalOf rank).nearest = rank := by
  unfold decimalOf
  by_cases h : rank = 0
  · rw [if_pos h, Decimal.nearest_zero, h]
  · rw [if_neg h]
    exact Binary64.nearest_shortest (Nat.pos_of_ne_zero h) finite

end LitSpheres
