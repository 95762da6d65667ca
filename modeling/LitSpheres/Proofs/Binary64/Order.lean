/-
  The order of floats is the order of whole numbers.

  1. **Program** — floats are compared by what they are unpacked to: a sign, an exponent and a mantissa,
     or an infinity, a zero or what is no number.

  2. **Specification** — every number has a level, a whole number that is zero for both zeros; of two
     numbers one is below the other, or the same, exactly if its level is.  What is no number is below
     nothing, above nothing, and the same as nothing.

  3. **The crux** — the rank is exponent and mantissa side by side, so comparing exponents first and
     mantissas second is comparing ranks.  The sign turns the order round, and so it does with levels.
-/
import LitSpheres.Proofs.Binary64.Bits
import LitSpheres.Proofs.Binary64.Rounding

namespace LitSpheres.Binary64

open Float.Model Float.Model.UnpackedFloat

/-- Infinities are numbers here; what is no number has a rank above them. -/
def isNumber (x : Float) : Bool := rank x ≤ infinityRank

/-- The place of a number among all numbers, from the lowest to the highest; both zeros have place zero. -/
def level (x : Float) : Int := if isNegative x then -(rank x : Int) else rank x

/-- The sign of a float as its unpacked form has it. -/
def sign (x : Float) : Sign := if isNegative x then .negative else .positive

/-- The bit pattern of a float. -/
def pattern (x : Float) : BitVec Format.binary64.numBits := x.toModel.toBits.toBitVec

variable {x y : Float}

theorem level_of_negative (h : sign x = .negative) : level x = -(rank x : Int) := by
  unfold sign at h
  unfold level
  split at h
  · next negative => rw [if_pos negative]
  · cases h

theorem level_of_positive (h : sign x = .positive) : level x = rank x := by
  unfold sign at h
  unfold level
  split at h
  · cases h
  · next negative => rw [if_neg negative]

/-! ## What a float is unpacked to -/

theorem toNat_exponent (x : Float) :
    (unpackExponent (pattern x)).toNat = rank x / hiddenBit := by
  have part : (unpackExponent (pattern x)).toNat = x.toBits.toNat / hiddenBit % 2048 :=
    toNat_unpackExponent (pattern x)
  rw [part]
  unfold rank signBit hiddenBit
  omega

theorem toNat_mantissa (x : Float) :
    (unpackMantissa (pattern x)).toNat = rank x % hiddenBit := by
  have part : (unpackMantissa (pattern x)).toNat = x.toBits.toNat % hiddenBit :=
    toNat_unpackMantissa (pattern x)
  rw [part]
  unfold rank signBit hiddenBit
  omega

theorem sign_eq (x : Float) : Sign.ofBitVec (unpackSign (pattern x)) = sign x := by
  have part : (unpackSign (pattern x)).toNat = x.toBits.toNat / signBit :=
    toNat_unpackSign (pattern x)
  have bound : x.toBits.toNat < 2 ^ 64 := x.toBits.toNat_lt
  unfold sign isNegative
  by_cases h : signBit ≤ x.toBits.toNat
  · have one : unpackSign (pattern x) = 1#1 := by
      apply BitVec.eq_of_toNat_eq
      rw [part]
      show _ = 1
      unfold signBit at *
      omega
    rw [if_pos (decide_eq_true h), one]
    rfl
  · have zero : unpackSign (pattern x) = 0#1 := by
      apply BitVec.eq_of_toNat_eq
      rw [part]
      show _ = 0
      unfold signBit at *
      omega
    rw [if_neg (by simpa using h), zero]
    rfl

theorem rank_lt (x : Float) : rank x < signBit := Nat.mod_lt _ (by decide)

/-- The exponent of a rank is the highest one exactly for infinities and what is no number. -/
theorem exponent_eq_max_iff (x : Float) :
    unpackExponent (pattern x) = -1#_ ↔ infinityRank ≤ rank x := by
  have top : (-1#11).toNat = 2047 := by decide
  have bound := rank_lt x
  rw [← BitVec.toNat_inj, toNat_exponent, top]
  unfold infinityRank signBit hiddenBit at *
  omega

theorem mantissa_eq_zero_iff (x : Float) :
    unpackMantissa (pattern x) = 0#_ ↔ rank x % hiddenBit = 0 := by
  rw [← BitVec.toNat_inj, toNat_mantissa]
  rfl

theorem unpack_infinity (h : rank x = infinityRank) : x.toModel.unpack = .infinity (sign x) := by
  have top := (exponent_eq_max_iff x).2 (Nat.le_of_eq h.symm)
  have none := (mantissa_eq_zero_iff x).2 (by rw [h]; decide)
  show UnpackedFloat.unpack .binary64 (pattern x) = _
  unfold UnpackedFloat.unpack
  dsimp only
  rw [if_pos top, if_pos none, sign_eq]

theorem unpack_zero (h : rank x = 0) : x.toModel.unpack = .zero (sign x) := by
  have short : ¬ unpackExponent (pattern x) = -1#_ := by
    rw [exponent_eq_max_iff, h]
    decide
  have lowest : unpackExponent (pattern x) = 0#_ := by
    rw [← BitVec.toNat_inj, toNat_exponent, h]
    rfl
  have none := (mantissa_eq_zero_iff x).2 (by rw [h]; decide)
  show UnpackedFloat.unpack .binary64 (pattern x) = _
  unfold UnpackedFloat.unpack
  dsimp only
  rw [if_neg short, if_pos lowest, dif_pos none, sign_eq]

theorem unpack_notANumber (h : infinityRank < rank x) : x.toModel.unpack = .notANumber := by
  have top := (exponent_eq_max_iff x).2 (Nat.le_of_lt h)
  have some : ¬ unpackMantissa (pattern x) = 0#_ := by
    have bound := rank_lt x
    rw [mantissa_eq_zero_iff]
    unfold infinityRank signBit hiddenBit at *
    omega
  show UnpackedFloat.unpack .binary64 (pattern x) = _
  unfold UnpackedFloat.unpack
  dsimp only
  rw [if_pos top, if_neg some]

theorem finite_congr {s : Sign} {m n : Nat} {e f : Int} {hm : 0 < m} {hn : 0 < n} (mantissas : m = n)
    (exponents : e = f) : UnpackedFloat.finite s m e hm = .finite s n f hn := by
  subst mantissas exponents
  rfl

/-- A finite float that is not zero is unpacked to the mantissa and the exponent of its rank. -/
theorem unpack_finite (finite : isFinite x) (h : 0 < rank x) :
    x.toModel.unpack = .finite (sign x) (mantissa (rank x)) (lastBit (rank x)) (mantissa_pos h) := by
  have below : rank x < infinityRank := of_decide_eq_true finite
  have short : ¬ unpackExponent (pattern x) = -1#_ := by
    rw [exponent_eq_max_iff]
    omega
  have bias : ((Format.binary64.exponentBias : Nat) : Int) +
      ((Format.binary64.mantissaBitsWithoutImplicit : Nat) : Int) = 1075 := rfl
  have exponent := toNat_exponent x
  have part := toNat_mantissa x
  show UnpackedFloat.unpack .binary64 (pattern x) = _
  unfold UnpackedFloat.unpack
  dsimp only
  rw [if_neg short]
  by_cases subnormal : rank x < hiddenBit
  · have lowest : unpackExponent (pattern x) = 0#_ := by
      rw [← BitVec.toNat_inj, exponent, Nat.div_eq_of_lt subnormal]
      rfl
    have some : ¬ unpackMantissa (pattern x) = 0#_ := by
      rw [mantissa_eq_zero_iff]
      unfold hiddenBit at *
      omega
    have whole : (unpackMantissa (pattern x)).toNat = mantissa (rank x) := by
      unfold mantissa
      rw [part, if_pos subnormal, Nat.mod_eq_of_lt subnormal]
    have last : ((unpackExponent (pattern x)).toNat : Int) - 1075 + 1 = lastBit (rank x) := by
      unfold lastBit
      rw [exponent, Nat.div_eq_of_lt subnormal]
      rfl
    rw [if_pos lowest, dif_neg some, sign_eq, bias]
    exact finite_congr whole last
  · have normal : ¬ unpackExponent (pattern x) = 0#_ := by
      rw [← BitVec.toNat_inj, exponent]
      show ¬ rank x / hiddenBit = 0
      unfold hiddenBit at *
      omega
    have whole : (1#1 ++ unpackMantissa (pattern x)).toNat = mantissa (rank x) := by
      have leading : (1#1 ++ unpackMantissa (pattern x)).toNat =
          2 ^ 52 + (unpackMantissa (pattern x)).toNat := by
        rw [BitVec.toNat_append, ← Nat.shiftLeft_add_eq_or_of_lt (BitVec.isLt _), Nat.shiftLeft_eq]
        rfl
      unfold mantissa
      rw [leading, part, if_neg subnormal]
      exact Nat.add_comm _ _
    have last : ((unpackExponent (pattern x)).toNat : Int) - 1075 = lastBit (rank x) := by
      unfold lastBit
      rw [exponent]
      unfold hiddenBit at *
      omega
    rw [if_neg normal, sign_eq, bias]
    exact finite_congr whole last

/-! ## Comparing -/

/-- Exponents first and mantissas second is the order of ranks. -/
theorem compare_lastBit (r s : Nat) :
    (compare (lastBit r) (lastBit s)).then (compare (mantissa r) (mantissa s)) =
      compare (r : Int) (s : Int) := by
  have order (a b : Int) : compare a b = if a < b then .lt else if a = b then .eq else .gt := rfl
  have order' (a b : Nat) : compare a b = if a < b then .lt else if a = b then .eq else .gt := rfl
  rw [order, order', order]
  unfold lastBit mantissa hiddenBit
  split <;> split <;> (repeat' split) <;> first | rfl | omega

theorem compare_neg (a b : Int) : compare (-a) (-b) = (compare a b).swap := by
  rw [Int.compare_swap]
  show (if -a < -b then Ordering.lt else if -a = -b then .eq else .gt) =
    if b < a then Ordering.lt else if b = a then .eq else .gt
  split <;> split <;> (repeat' split) <;> first | rfl | omega

/-- What is no number ranks above infinity. -/
theorem not_isNumber_iff : ¬ isNumber x ↔ infinityRank < rank x := by
  rw [isNumber, decide_eq_true_iff, Nat.not_le]

theorem isNumber_of_isFinite (finite : isFinite x) : isNumber x :=
  decide_eq_true (of_decide_eq_true finite).le

theorem isNumber_of_infinite (top : rank x = infinityRank) : isNumber x := decide_eq_true top.le

theorem isFinite_of_rank_zero (none : rank x = 0) : isFinite x := by
  rw [isFinite, none]
  decide

theorem rank_eq_or (h : isNumber x) :
    rank x = 0 ∨ rank x = infinityRank ∨ 0 < rank x ∧ isFinite x := by
  have bound : rank x ≤ infinityRank := of_decide_eq_true h
  by_cases zero : rank x = 0
  · exact .inl zero
  · by_cases top : rank x = infinityRank
    · exact .inr (.inl top)
    · exact .inr (.inr ⟨Nat.pos_of_ne_zero zero, decide_eq_true (by omega)⟩)

theorem level_of_rank_zero (h : rank x = 0) : level x = 0 := by
  unfold level
  rw [h]
  split <;> rfl

/-- A zero against any number. -/
theorem compare_unpack_zero (hx : rank x = 0) (hy : isNumber y) :
    UnpackedFloat.compare x.toModel.unpack y.toModel.unpack = some (compare (level x) (level y)) := by
  have top : 0 < infinityRank := by decide
  rw [unpack_zero hx, level_of_rank_zero hx]
  rcases rank_eq_or hy with zy | ty | ⟨py, fy⟩
  · rw [unpack_zero zy, level_of_rank_zero zy]
    rfl
  · rw [unpack_infinity ty]
    cases s : sign y with
    | negative =>
      rw [level_of_negative s, Int.compare_eq_gt.2 (by omega)]
      rfl
    | positive =>
      rw [level_of_positive s, Int.compare_eq_lt.2 (by omega)]
      rfl
  · rw [unpack_finite fy py]
    cases s : sign y with
    | negative =>
      rw [level_of_negative s, Int.compare_eq_gt.2 (by omega)]
      rfl
    | positive =>
      rw [level_of_positive s, Int.compare_eq_lt.2 (by omega)]
      rfl

/-- An infinity against any number but zero. -/
theorem compare_unpack_infinity (hx : rank x = infinityRank) (hy : isNumber y) (py : 0 < rank y) :
    UnpackedFloat.compare x.toModel.unpack y.toModel.unpack = some (compare (level x) (level y)) := by
  have top : 0 < infinityRank := by decide
  rw [unpack_infinity hx]
  rcases rank_eq_or hy with zy | ty | ⟨-, fy⟩
  · omega
  · rw [unpack_infinity ty]
    cases s : sign x with
    | negative =>
      cases t : sign y with
      | negative =>
        rw [level_of_negative s, level_of_negative t, Int.compare_eq_eq.2 (by omega)]
        rfl
      | positive =>
        rw [level_of_negative s, level_of_positive t, Int.compare_eq_lt.2 (by omega)]
        rfl
    | positive =>
      cases t : sign y with
      | negative =>
        rw [level_of_positive s, level_of_negative t, Int.compare_eq_gt.2 (by omega)]
        rfl
      | positive =>
        rw [level_of_positive s, level_of_positive t, Int.compare_eq_eq.2 (by omega)]
        rfl
  · have below : rank y < infinityRank := of_decide_eq_true fy
    have between : -(rank y : Int) ≤ level y ∧ level y ≤ rank y := by
      unfold level
      split <;> omega
    rw [unpack_finite fy py]
    cases s : sign x with
    | negative =>
      rw [level_of_negative s, Int.compare_eq_lt.2 (by omega)]
      rfl
    | positive =>
      rw [level_of_positive s, Int.compare_eq_gt.2 (by omega)]
      rfl

/-- Two finite floats that are not zero. -/
theorem compare_unpack_finite (fx : isFinite x) (px : 0 < rank x) (fy : isFinite y) (py : 0 < rank y) :
    UnpackedFloat.compare x.toModel.unpack y.toModel.unpack = some (compare (level x) (level y)) := by
  rw [unpack_finite fx px, unpack_finite fy py]
  cases s : sign x with
  | negative =>
    cases t : sign y with
    | negative =>
      rw [level_of_negative s, level_of_negative t, compare_neg, ← compare_lastBit]
      rfl
    | positive =>
      rw [level_of_negative s, level_of_positive t, Int.compare_eq_lt.2 (by omega)]
      rfl
  | positive =>
    cases t : sign y with
    | negative =>
      rw [level_of_positive s, level_of_negative t, Int.compare_eq_gt.2 (by omega)]
      rfl
    | positive =>
      rw [level_of_positive s, level_of_positive t, ← compare_lastBit]
      rfl

/-- **Numbers are compared by their levels.** -/
theorem compare_unpack (hx : isNumber x) (hy : isNumber y) :
    UnpackedFloat.compare x.toModel.unpack y.toModel.unpack = some (compare (level x) (level y)) := by
  -- the comparison the other way round settles the pairs whose second number comes first above
  have turned (h : UnpackedFloat.compare y.toModel.unpack x.toModel.unpack =
      some (compare (level y) (level x))) :
      UnpackedFloat.compare x.toModel.unpack y.toModel.unpack = some (compare (level x) (level y)) := by
    rw [compare_swap y.toModel.unpack, h, Option.map_some, Int.compare_swap]
  rcases rank_eq_or hx with zx | tx | ⟨px, fx⟩
  · exact compare_unpack_zero zx hy
  · rcases Nat.eq_zero_or_pos (rank y) with zy | py
    · exact turned (compare_unpack_zero zy hx)
    · exact compare_unpack_infinity tx hy py
  · rcases rank_eq_or hy with zy | ty | ⟨py, fy⟩
    · exact turned (compare_unpack_zero zy hx)
    · exact turned (compare_unpack_infinity ty hx px)
    · exact compare_unpack_finite fx px fy py

/-! ## Less, at most, and equal -/

theorem lt_iff_compare : x < y ↔ UnpackedFloat.compare x.toModel.unpack y.toModel.unpack = some .lt := by
  show (decide (UnpackedFloat.lt x.toModel.unpack y.toModel.unpack)) = true ↔ _
  unfold UnpackedFloat.lt
  rw [decide_eq_true_iff, beq_iff_eq]

theorem le_iff_compare :
    x ≤ y ↔ ∃ o, UnpackedFloat.compare x.toModel.unpack y.toModel.unpack = some o ∧ o.isLE := by
  show (decide (UnpackedFloat.le x.toModel.unpack y.toModel.unpack)) = true ↔ _
  unfold UnpackedFloat.le
  rw [decide_eq_true_iff, Option.any_eq_true]

theorem beq_iff_compare :
    (x == y) = true ↔ UnpackedFloat.compare x.toModel.unpack y.toModel.unpack = some .eq := by
  show UnpackedFloat.beq x.toModel.unpack y.toModel.unpack = true ↔ _
  unfold UnpackedFloat.beq
  exact beq_iff_eq

/-- What can be compared is a number. -/
theorem isNumber_of_compare {o : Ordering}
    (h : UnpackedFloat.compare x.toModel.unpack y.toModel.unpack = some o) : isNumber x ∧ isNumber y := by
  constructor
  · by_cases number : isNumber x
    · exact number
    · have above : infinityRank < rank x := not_isNumber_iff.1 number
      rw [unpack_notANumber above] at h
      exact absurd h nofun
  · by_cases number : isNumber y
    · exact number
    · have above : infinityRank < rank y := not_isNumber_iff.1 number
      rw [compare_swap, unpack_notANumber above] at h
      exact absurd h nofun

/-- **Below** is below in level. -/
theorem lt_iff_level : x < y ↔ isNumber x ∧ isNumber y ∧ level x < level y := by
  rw [lt_iff_compare]
  constructor
  · intro h
    obtain ⟨hx, hy⟩ := isNumber_of_compare h
    exact ⟨hx, hy, Int.compare_eq_lt.1 (Option.some.inj ((compare_unpack hx hy).symm.trans h))⟩
  · rintro ⟨hx, hy, below⟩
    rw [compare_unpack hx hy, Int.compare_eq_lt.2 below]

/-- **At most** is at most in level. -/
theorem le_iff_level : x ≤ y ↔ isNumber x ∧ isNumber y ∧ level x ≤ level y := by
  rw [le_iff_compare]
  constructor
  · rintro ⟨o, h, atMost⟩
    obtain ⟨hx, hy⟩ := isNumber_of_compare h
    obtain rfl := Option.some.inj ((compare_unpack hx hy).symm.trans h)
    exact ⟨hx, hy, Int.isLE_compare.1 atMost⟩
  · rintro ⟨hx, hy, atMost⟩
    exact ⟨_, compare_unpack hx hy, Int.isLE_compare.2 atMost⟩

/-- **Equal** numbers have the same level, and so have both zeros. -/
theorem beq_iff_level : (x == y) = true ↔ isNumber x ∧ isNumber y ∧ level x = level y := by
  rw [beq_iff_compare]
  constructor
  · intro h
    obtain ⟨hx, hy⟩ := isNumber_of_compare h
    exact ⟨hx, hy, Int.compare_eq_eq.1 (Option.some.inj ((compare_unpack hx hy).symm.trans h))⟩
  · rintro ⟨hx, hy, same⟩
    rw [compare_unpack hx hy, Int.compare_eq_eq.2 same]

/-- Of two numbers, the one that is not less is at least as large. -/
theorem le_of_not_lt (hx : isNumber x) (hy : isNumber y) (h : ¬ x < y) : y ≤ x :=
  le_iff_level.2 ⟨hy, hx, Int.not_lt.1 fun below => h (lt_iff_level.2 ⟨hx, hy, below⟩)⟩

theorem le_of_not_le (hx : isNumber x) (hy : isNumber y) (h : ¬ x ≤ y) : y ≤ x := by
  have above : ¬ level x ≤ level y := fun levels => h (le_iff_level.2 ⟨hx, hy, levels⟩)
  exact le_iff_level.2 ⟨hy, hx, by omega⟩

end LitSpheres.Binary64
