/-
  The shortest decimal that reads back as a float has the fewest digits, and of those it is the nearest.

  1. **Program** — grids of decimals are searched, from one digit on, for a neighbour of the value that reads
     back; zeros at the end of what is found are dropped.

  2. **Specification** — the answer reads back and ends in no zero.  No decimal of fewer digits reads back,
     whatever its exponent, and none of as many digits is nearer to the value.

  3. **The crux** — the numbers that are rounded to one float have no gap.  So if any point of a grid reads
     back, the neighbour on its side does.  And a decimal of `k` digits that is not on the grid of `k` digits
     lies below the power of ten that the value begins with, which is on every one of the grids.
-/
import LitSpheres.Proofs.Binary64.Monotone
import LitSpheres.Proofs.Decimal.Shortest

namespace LitSpheres

/-! ## Digits -/

namespace Binary64

theorem digitCount_pos (n : Nat) : 0 < digitCount n := Nat.length_toDigits_pos

theorem digitCount_le_iff {n k : Nat} (h : 0 < k) : digitCount n ≤ k ↔ n < 10 ^ k :=
  Nat.length_toDigits_le_iff (by decide) h

theorem lt_pow_digitCount (n : Nat) : n < 10 ^ digitCount n :=
  (digitCount_le_iff (digitCount_pos n)).1 (Nat.le_refl _)

/-- A positive number has its leading digit at the power of ten that it begins with. -/
theorem pow_le_of_pos {n : Nat} (h : 0 < n) : 10 ^ (digitCount n - 1) ≤ n := by
  rcases Nat.lt_or_ge 1 (digitCount n) with many | one
  · by_contra low
    have few := (digitCount_le_iff (show 0 < digitCount n - 1 by omega)).2 (Nat.lt_of_not_le low)
    omega
  · rw [show digitCount n - 1 = 0 by omega, pow_zero]
    exact h

/-- **The decimal order** is the power of ten that a fraction begins with. -/
theorem decimalOrder_between {num den : Nat} (hn : 0 < num) (hd : 0 < den) :
    (10 : ℚ) ^ decimalOrder num den ≤ num / den ∧
      (num / den : ℚ) < 10 ^ (decimalOrder num den + 1) := by
  have hn' : (0 : ℚ) < num := by exact_mod_cast hn
  have hd' : (0 : ℚ) < den := by exact_mod_cast hd
  rw [decimalOrder]
  by_cases whole : den ≤ num
  · -- the digits of the whole part
    have positive := digitCount_pos (num / den)
    have low := (Nat.le_div_iff_mul_le hd).1 (pow_le_of_pos (Nat.div_pos whole hd))
    have high := (Nat.div_lt_iff_lt_mul hd).1 (lt_pow_digitCount (num / den))
    have first : (digitCount (num / den) : Int) - 1 = ((digitCount (num / den) - 1 : Nat) : Int) := by omega
    rw [if_pos whole, Int.sub_add_cancel, first, zpow_natCast, zpow_natCast]
    constructor
    · rw [le_div_iff₀ hd']
      exact_mod_cast low
    · rw [div_lt_iff₀ hd']
      exact_mod_cast high
  · -- the digits of the inverse, which is cut below itself even where it is a whole number
    have positive := digitCount_pos ((den - 1) / num)
    have some_digit : 0 < (den - 1) / num := Nat.div_pos (by omega) hn
    have low := (Nat.le_div_iff_mul_le hn).1 (pow_le_of_pos some_digit)
    have high := (Nat.div_lt_iff_lt_mul hn).1 (lt_pow_digitCount ((den - 1) / num))
    have inverse_low : 10 ^ (digitCount ((den - 1) / num) - 1) * num < den := by omega
    have inverse_high : den ≤ 10 ^ digitCount ((den - 1) / num) * num := by omega
    have next : -(digitCount ((den - 1) / num) : Int) + 1 =
        -((digitCount ((den - 1) / num) - 1 : Nat) : Int) := by omega
    rw [if_neg whole, next, zpow_neg, zpow_neg, zpow_natCast, zpow_natCast]
    constructor
    · rw [inv_le_comm₀ (by positivity) (by positivity), inv_div, div_le_iff₀ hn']
      exact_mod_cast inverse_high
    · rw [lt_inv_comm₀ (by positivity) (by positivity), inv_div, lt_div_iff₀ hn']
      exact_mod_cast inverse_low

end Binary64

namespace Decimal

variable {d : Decimal}

/-! ## Zeros at the end -/

theorem digits_reduced_mod (h : 0 < d.digits) : d.reduced.digits % 10 ≠ 0 := by
  fun_induction reduced d with
  | case1 d zero => omega
  | case2 d _ zero ih => exact ih (show 0 < d.digits / 10 by omega)
  | case3 d _ other => exact other

theorem digits_reduced_le (d : Decimal) : d.reduced.digits ≤ d.digits := by
  fun_induction reduced d with
  | case1 d zero => exact Nat.le_refl _
  | case2 d _ zero ih => exact ih.trans (Nat.div_le_self _ _)
  | case3 d _ other => exact Nat.le_refl _

/-- What a grid of `k + 1` digits holds has as many digits at most; the next power of ten has only one. -/
theorem digits_reduced_lt {k : Nat} (h : d.digits ≤ 10 ^ (k + 1)) : d.reduced.digits < 10 ^ (k + 1) := by
  rcases Nat.lt_or_eq_of_le h with below | power
  · exact (digits_reduced_le d).trans_lt below
  · have tens : 10 ^ (k + 1) = 10 ^ k * 10 := pow_succ 10 k
    have positive : 0 < 10 ^ k := by positivity
    rw [reduced, if_neg (by omega), if_pos (by omega)]
    have shorter : (reduced ⟨d.digits / 10, d.exponent + 1⟩).digits ≤ d.digits / 10 := digits_reduced_le _
    omega

/-! ## Values and reading -/

theorem value_pos (h : 0 < d.digits) : 0 < d.value :=
  mul_pos (by exact_mod_cast h) (zpow_pos (by norm_num) _)

end Decimal

namespace Binary64

variable {rank : Nat} {c d : Decimal} {e : Int}

/-- **No gap**: what lies between two numbers that are rounded alike is rounded as they are. -/
theorem nearestRank_of_between {u v w : ℚ} (hu : 0 < u) (low : u ≤ v) (high : v ≤ w)
    (hr : nearestRank u = rank) (hr' : nearestRank w = rank) : nearestRank v = rank :=
  Nat.le_antisymm (hr' ▸ nearestRank_mono (hu.trans_le low) high) (hr ▸ nearestRank_mono hu low)

/-- How far a decimal is from the value of a float. -/
def distance (rank : Nat) (d : Decimal) : ℚ := |d.value - value rank|

/-- One decimal lies between the value and another, which reads back. -/
theorem nearest_of_between (h : 0 < rank) (finite : rank < infinityRank) (reads : c.nearest = rank)
    (hd : 0 < d.digits)
    (between : c.value ≤ d.value ∧ d.value ≤ value rank ∨ value rank ≤ d.value ∧ d.value ≤ c.value) :
    d.nearest = rank ∧ distance rank d ≤ distance rank c := by
  have own := nearestRank_value h finite
  have hc : 0 < c.digits := Decimal.digits_pos (reads ▸ h)
  rw [Decimal.nearest_eq hc] at reads
  rw [Decimal.nearest_eq hd, distance, distance]
  rcases between with ⟨low, high⟩ | ⟨low, high⟩
  · refine ⟨nearestRank_of_between (Decimal.value_pos hc) low high reads own, ?_⟩
    rw [abs_of_nonpos (by linarith), abs_of_nonpos (by linarith)]
    linarith
  · refine ⟨nearestRank_of_between (value_pos h) low high own reads, ?_⟩
    rw [abs_of_nonneg (by linarith), abs_of_nonneg (by linarith)]
    linarith

/-! ## The neighbours on a grid -/

/-- The rest above the lower neighbour, as a part of one step of the grid. -/
def rest (rank : Nat) (e : Int) : ℚ := ((valueOnGrid rank e).excess : ℚ) / (valueOnGrid rank e).step

theorem step_pos (rank : Nat) (e : Int) : 0 < (valueOnGrid rank e).step :=
  Nat.mul_pos (denominator_pos rank) (Decimal.tenTo_pos e.toNat)

theorem rest_nonneg (rank : Nat) (e : Int) : 0 ≤ rest rank e :=
  div_nonneg (Nat.cast_nonneg _) (Nat.cast_nonneg _)

theorem rest_lt_one (rank : Nat) (e : Int) : rest rank e < 1 := by
  have step := step_pos rank e
  rw [rest, div_lt_one (by exact_mod_cast step)]
  exact_mod_cast Nat.mod_lt _ step

/-- **The value** lies above its lower neighbour by the rest. -/
theorem value_eq_below (rank : Nat) (e : Int) : value rank = (below rank e).value + rest rank e * 10 ^ e := by
  have den_ne : (denominator rank : ℚ) ≠ 0 := by exact_mod_cast (denominator_pos rank).ne'
  have ten_ne (n : Nat) : (tenTo n : ℚ) ≠ 0 := by exact_mod_cast (Decimal.tenTo_pos n).ne'
  have split : ((denominator rank * tenTo e.toNat : Nat) : ℚ) *
        (numerator rank * tenTo (-e).toNat / (denominator rank * tenTo e.toNat) : Nat) +
      (numerator rank * tenTo (-e).toNat % (denominator rank * tenTo e.toNat) : Nat) =
        (numerator rank * tenTo (-e).toNat : Nat) := by
    exact_mod_cast Nat.div_add_mod _ _
  rw [value_eq_div, below, Decimal.value, rest, Decimal.zpow_ten_eq, valueOnGrid, gridFloor]
  -- with quotient and remainder as numbers of their own, it is division with remainder
  generalize numerator rank * tenTo (-e).toNat / (denominator rank * tenTo e.toNat) = quotient at split ⊢
  generalize numerator rank * tenTo (-e).toNat % (denominator rank * tenTo e.toNat) = remainder at split ⊢
  push_cast at split ⊢
  have tens := ten_ne e.toNat
  have tenths := ten_ne (-e).toNat
  field_simp
  linarith

theorem value_above (rank : Nat) (e : Int) : (above rank e).value = (below rank e).value + 10 ^ e := by
  rw [above, below, Decimal.value, Decimal.value]
  push_cast
  ring

theorem below_le (rank : Nat) (e : Int) : (below rank e).value ≤ value rank := by
  rw [value_eq_below rank e]
  exact le_add_of_nonneg_right (mul_nonneg (rest_nonneg rank e) (zpow_pos (by norm_num) e).le)

theorem lt_above (rank : Nat) (e : Int) : value rank < (above rank e).value := by
  rw [value_above, value_eq_below rank e]
  exact add_lt_add_right (mul_lt_of_lt_one_left (zpow_pos (by norm_num) e) (rest_lt_one rank e)) _

theorem distance_below (rank : Nat) (e : Int) : distance rank (below rank e) = rest rank e * 10 ^ e := by
  rw [distance, abs_of_nonpos (sub_nonpos.2 (below_le rank e)), value_eq_below rank e]
  ring

theorem distance_above (rank : Nat) (e : Int) :
    distance rank (above rank e) = (1 - rest rank e) * 10 ^ e := by
  rw [distance, abs_of_nonneg (sub_nonneg.2 (lt_above rank e).le), value_above, value_eq_below rank e]
  ring

/-- The lower neighbour is the nearer one if the rest is no more than half a step. -/
theorem distance_below_le_iff : distance rank (below rank e) ≤ distance rank (above rank e) ↔
    2 * (valueOnGrid rank e).excess ≤ (valueOnGrid rank e).step := by
  have step : (0 : ℚ) < (valueOnGrid rank e).step := by exact_mod_cast step_pos rank e
  rw [distance_below, distance_above, mul_le_mul_iff_left₀ (zpow_pos (by norm_num) e), le_sub_iff_add_le, rest,
    ← add_div, div_le_one step, ← two_mul]
  exact_mod_cast Iff.rfl

theorem distance_above_le_iff : distance rank (above rank e) ≤ distance rank (below rank e) ↔
    (valueOnGrid rank e).step ≤ 2 * (valueOnGrid rank e).excess := by
  have step : (0 : ℚ) < (valueOnGrid rank e).step := by exact_mod_cast step_pos rank e
  rw [distance_below, distance_above, mul_le_mul_iff_left₀ (zpow_pos (by norm_num) e), sub_le_iff_le_add, rest,
    ← add_div, one_le_div step, ← two_mul]
  exact_mod_cast Iff.rfl

/-- **A neighbour for each grid point**: where a grid point reads back, the neighbour on its side does, and
    is no farther from the value. -/
theorem neighbour_reads (h : 0 < rank) (finite : rank < infinityRank) {n : Nat}
    (reads : Decimal.nearest ⟨n, e⟩ = rank) :
    ∃ d, (d = below rank e ∨ d = above rank e) ∧ d.nearest = rank ∧ distance rank d ≤ distance rank ⟨n, e⟩ := by
  have positive : (0 : ℚ) < 10 ^ e := zpow_pos (by norm_num) e
  have hn : 0 < n := Decimal.digits_pos (reads ▸ h)
  rcases Nat.lt_or_ge (below rank e).digits n with high | low
  · have farther : (above rank e).value ≤ Decimal.value ⟨n, e⟩ :=
      mul_le_mul_of_nonneg_right (by exact_mod_cast high) positive.le
    exact ⟨above rank e, .inr rfl, nearest_of_between h finite reads (Nat.succ_pos _)
      (.inr ⟨(lt_above rank e).le, farther⟩)⟩
  · have farther : Decimal.value ⟨n, e⟩ ≤ (below rank e).value :=
      mul_le_mul_of_nonneg_right (by exact_mod_cast low) positive.le
    exact ⟨below rank e, .inl rfl, nearest_of_between h finite reads (hn.trans_le low)
      (.inl ⟨farther, below_le rank e⟩)⟩

/-- A grid on which a decimal reads back holds one for the search. -/
theorem onGrid?_ne_none (reads : d.nearest = rank) (hd : d = below rank e ∨ d = above rank e) :
    onGrid? rank e ≠ none := by
  have tested : readsBack rank d = true := beq_iff_eq.2 reads
  rw [onGrid?]
  split
  · simp
  · simp
  · next low high =>
    rcases hd with rfl | rfl
    · exact absurd (tested.symm.trans low) (by decide)
    · exact absurd (tested.symm.trans high) (by decide)
  · split
    · simp
    · split
      · simp
      · split <;> simp

/-- **What is found on a grid** is the nearest of its points that read back. -/
theorem distance_onGrid?_le (h : 0 < rank) (finite : rank < infinityRank) (found : onGrid? rank e = some d)
    {n : Nat} (reads : Decimal.nearest ⟨n, e⟩ = rank) : distance rank d ≤ distance rank ⟨n, e⟩ := by
  obtain ⟨c, neighbour, readsNear, nearer⟩ := neighbour_reads h finite reads
  refine le_trans ?_ nearer
  obtain ⟨-, ⟨rfl, choice⟩ | ⟨rfl, choice⟩⟩ := onGrid?_cases found
  · rcases neighbour with rfl | rfl
    · exact le_refl _
    · exact distance_below_le_iff.2 (choice readsNear)
  · rcases neighbour with rfl | rfl
    · exact distance_above_le_iff.2 (choice readsNear)
    · exact le_refl _

/-! ## The search over the grids -/

/-- The power of ten that the value begins with. -/
def order (rank : Nat) : Int := decimalOrder (numerator rank) (denominator rank)

theorem order_between (h : 0 < rank) :
    (10 : ℚ) ^ order rank ≤ value rank ∧ value rank < 10 ^ (order rank + 1) := by
  rw [value_eq_div]
  exact decimalOrder_between (Nat.mul_pos (mantissa_pos h) (twoTo_pos _)) (denominator_pos rank)

/-- The lower neighbour on the grid of `k + 1` digits has as many digits at most. -/
theorem digits_below_lt (h : 0 < rank) (k : Nat) : (below rank (order rank - k)).digits < 10 ^ (k + 1) := by
  have whole : ((below rank (order rank - k)).digits : ℚ) * 10 ^ (order rank - k) <
      10 ^ (k + 1) * 10 ^ (order rank - k) := by
    calc ((below rank (order rank - k)).digits : ℚ) * 10 ^ (order rank - k) ≤ value rank := below_le rank _
      _ < 10 ^ (order rank + 1) := (order_between h).2
      _ = 10 ^ (k + 1) * 10 ^ (order rank - k) := by
          rw [← zpow_natCast, ← zpow_add₀ (by norm_num)]
          congr 1
          push_cast
          omega
  exact_mod_cast lt_of_mul_lt_mul_right whole (zpow_pos (by norm_num) _).le

/-- **A grid point for each decimal**: where a decimal of `k + 1` digits reads back, a point of the grid of
    `k + 1` digits does, and is no farther from the value. -/
theorem gridPoint_reads (h : 0 < rank) (finite : rank < infinityRank) {k : Nat} (reads : d.nearest = rank)
    (few : d.digits < 10 ^ (k + 1)) :
    ∃ n, Decimal.nearest ⟨n, order rank - k⟩ = rank ∧
      distance rank ⟨n, order rank - k⟩ ≤ distance rank d := by
  have hd : 0 < d.digits := Decimal.digits_pos (reads ▸ h)
  obtain ⟨low, -⟩ := order_between h
  rcases le_or_gt (order rank - k) d.exponent with coarse | fine
  · -- the decimal lies on the grid, where it has zeros at its end
    obtain ⟨zeros, exponent⟩ := Int.le.dest coarse
    have same : Decimal.value ⟨d.digits * 10 ^ zeros, order rank - k⟩ = d.value := by
      rw [Decimal.value, Decimal.value, ← exponent, zpow_add₀ (by norm_num), zpow_natCast]
      push_cast
      ring
    have positive : 0 < d.digits * 10 ^ zeros := by positivity
    refine ⟨d.digits * 10 ^ zeros, ?_, ?_⟩
    · rw [Decimal.nearest_eq positive, same, ← Decimal.nearest_eq hd, reads]
    · rw [distance, distance, same]
  · -- the decimal lies below the power of ten that the value begins with
    have power : Decimal.value ⟨10 ^ k, order rank - k⟩ = 10 ^ order rank := by
      rw [Decimal.value]
      push_cast
      rw [← zpow_natCast, ← zpow_add₀ (by norm_num)]
      congr 1
      omega
    have less : d.value ≤ 10 ^ order rank := by
      calc d.value ≤ ((10 ^ (k + 1) : Nat) : ℚ) * 10 ^ d.exponent :=
            mul_le_mul_of_nonneg_right (by exact_mod_cast few.le) (zpow_pos (by norm_num) _).le
        _ = 10 ^ ((k + 1 : Nat) + d.exponent) := by
            rw [zpow_add₀ (by norm_num), zpow_natCast]
            push_cast
            rfl
        _ ≤ 10 ^ order rank := zpow_le_zpow_right₀ (by norm_num) (by push_cast; omega)
    refine ⟨10 ^ k, nearest_of_between h finite reads (show 0 < 10 ^ k by positivity) (.inl ?_)⟩
    rw [power]
    exact ⟨less, low⟩

/-- A search over numbers in order finds the first that gives something. -/
theorem first_of_findSome?_range {α : Type} {f : Nat → Option α} {n : Nat} {a : α}
    (h : (List.range n).findSome? f = some a) : ∃ k, f k = some a ∧ ∀ i < k, f i = none := by
  induction n with
  | zero => exact absurd h (by simp)
  | succ n ih =>
    rw [List.range_succ, List.findSome?_append] at h
    cases earlier : (List.range n).findSome? f with
    | some b =>
      rw [earlier] at h
      exact ih (earlier.trans h)
    | none =>
      rw [earlier] at h
      refine ⟨n, by simpa using h, fun i hi => ?_⟩
      exact List.findSome?_eq_none_iff.1 earlier i (List.mem_range.2 hi)

/-- **The search** ends on a grid, and no decimal of fewer digits than this grid has reads back. -/
theorem exists_found (h : 0 < rank) (finite : rank < infinityRank) :
    ∃ (k : Nat) (d : Decimal), onGrid? rank (order rank - k) = some d ∧ shortest rank = d.reduced ∧
      ∀ c : Decimal, c.nearest = rank → k < digitCount c.digits := by
  -- a decimal that reads back leaves a trace on the grid of as many digits
  have hit {c : Decimal} (reads : c.nearest = rank) :
      onGrid? rank (order rank - ((digitCount c.digits - 1 : Nat) : Int)) ≠ none := by
    have few : c.digits < 10 ^ (digitCount c.digits - 1 + 1) := by
      rw [Nat.sub_add_cancel (digitCount_pos _)]
      exact lt_pow_digitCount _
    obtain ⟨n, point, -⟩ := gridPoint_reads h finite reads few
    obtain ⟨d, neighbour, readsNear, -⟩ := neighbour_reads h finite point
    exact onGrid?_ne_none readsNear neighbour
  cases search : (List.range (digitCount (exactDecimal rank).digits)).findSome? fun (k : Nat) =>
      onGrid? rank (order rank - k) with
  | none =>
    have positive := digitCount_pos (exactDecimal rank).digits
    exact absurd (List.findSome?_eq_none_iff.1 search _ (List.mem_range.2 (Nat.sub_lt positive Nat.one_pos)))
      (hit (nearest_exactDecimal h finite))
  | some d =>
    obtain ⟨k, found, first⟩ := first_of_findSome?_range search
    refine ⟨k, d, found, ?_, fun c reads => ?_⟩
    · rw [shortest]
      exact congrArg (fun o => (o.getD (exactDecimal rank)).reduced) search
    · by_contra fewer
      have positive := digitCount_pos c.digits
      exact hit reads (first _ (by omega))

/-- The decimal reads back and has no zero at its end; no decimal of fewer digits reads back, and none of as
    many is nearer. -/
structure IsShortest (rank : Nat) (d : Decimal) : Prop where
  reads : d.nearest = rank
  last : d.digits % 10 ≠ 0
  fewest : ∀ c : Decimal, c.nearest = rank → digitCount d.digits ≤ digitCount c.digits
  nearest : ∀ c : Decimal, c.nearest = rank → digitCount c.digits ≤ digitCount d.digits →
    distance rank d ≤ distance rank c

/-- **The shortest decimal** of a positive finite float. -/
theorem shortest_isShortest (h : 0 < rank) (finite : rank < infinityRank) :
    IsShortest rank (shortest rank) := by
  obtain ⟨k, d, found, eq, fewest⟩ := exists_found h finite
  obtain ⟨reads, neighbour⟩ := onGrid?_cases found
  have positive : 0 < d.digits := Decimal.digits_pos (reads ▸ h)
  have small : d.digits ≤ 10 ^ (k + 1) := by
    have low := digits_below_lt h k
    rcases neighbour with ⟨rfl, -⟩ | ⟨rfl, -⟩
    · exact low.le
    · exact low
  have short : digitCount d.reduced.digits ≤ k + 1 :=
    (digitCount_le_iff (Nat.succ_pos k)).2 (Decimal.digits_reduced_lt small)
  rw [eq]
  refine ⟨?_, Decimal.digits_reduced_mod positive, fun c hc => short.trans (fewest c hc), fun c hc few => ?_⟩
  · rw [Decimal.nearest_reduced positive, reads]
  · have few' : c.digits < 10 ^ (k + 1) := (digitCount_le_iff (Nat.succ_pos k)).1 (few.trans short)
    obtain ⟨n, point, nearer⟩ := gridPoint_reads h finite hc few'
    refine le_trans ?_ nearer
    rw [distance, Decimal.value_reduced]
    exact distance_onGrid?_le h finite found point

end Binary64
end LitSpheres
