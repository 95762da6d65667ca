/-
  Floats, their bits, and their order.

  1. **Program** — a float is taken apart into its sign and its rank, the bit pattern without the sign, and
     put together from the two; range checks compare floats with `<` and `≤`.

  2. **Specification** — sign and rank of a finite float give it back, bit for bit and with the sign of
     zero; and of two finite floats one is below the other or not above it, so that a check that
     refuses `x < a` lets through exactly `a ≤ x`.

  3. **The crux** — a bit pattern is sign, exponent and mantissa side by side.  Of the patterns with the
     highest exponent only the infinities and one not-a-number are floats, so a float that is taken
     apart and put together again is the same float.
-/
import LitSpheres.Decimal.Binary64

namespace LitSpheres.Binary64

open Float.Model Float.Model.UnpackedFloat

variable {b : BitVec Format.binary64.numBits}

/-! ## The three parts of a bit pattern -/

theorem toNat_unpackMantissa (b : BitVec Format.binary64.numBits) :
    (unpackMantissa b).toNat = b.toNat % hiddenBit := by
  show (BitVec.extractLsb 51 0 b).toNat = _
  rw [BitVec.extractLsb_toNat, Nat.shiftRight_eq_div_pow, Nat.pow_zero, Nat.div_one]
  rfl

theorem toNat_unpackExponent (b : BitVec Format.binary64.numBits) :
    (unpackExponent b).toNat = b.toNat / hiddenBit % 2048 := by
  show (BitVec.extractLsb 62 52 b).toNat = _
  rw [BitVec.extractLsb_toNat, Nat.shiftRight_eq_div_pow]
  rfl

theorem toNat_unpackSign (b : BitVec Format.binary64.numBits) :
    (unpackSign b).toNat = b.toNat / signBit := by
  show (BitVec.extractLsb 63 63 b).toNat = _
  rw [BitVec.extractLsb_toNat, Nat.shiftRight_eq_div_pow]
  have small : b.toNat < 2 ^ 64 := b.isLt
  unfold signBit
  omega

theorem toBitVec_ofBitVec (v : BitVec 1) : (Sign.ofBitVec v).toBitVec = v := by
  revert v
  decide

/-- The three parts put side by side are the pattern. -/
theorem packComponents_unpack {exponent : BitVec 11} {mantissa : BitVec 52}
    (he : unpackExponent b = exponent) (hm : unpackMantissa b = mantissa) :
    packComponents .binary64 (Sign.ofBitVec (unpackSign b)) exponent mantissa = b := by
  subst he hm
  apply BitVec.eq_of_toNat_eq
  unfold packComponents
  rw [BitVec.toNat_append, BitVec.toNat_append, toBitVec_ofBitVec, toNat_unpackExponent,
    toNat_unpackMantissa, toNat_unpackSign]
  have low : b.toNat % hiddenBit < 2 ^ Format.binary64.mantissaBitsWithoutImplicit :=
    Nat.mod_lt _ (by decide)
  have middle : b.toNat / hiddenBit % 2048 < 2 ^ Format.binary64.exponentBits := Nat.mod_lt _ (by decide)
  rw [← Nat.shiftLeft_add_eq_or_of_lt low, ← Nat.shiftLeft_add_eq_or_of_lt middle, Nat.shiftLeft_eq,
    Nat.shiftLeft_eq]
  show (b.toNat / signBit * 2048 + b.toNat / hiddenBit % 2048) * hiddenBit + b.toNat % hiddenBit = b.toNat
  unfold signBit hiddenBit
  omega

/-! ## A float taken apart and put together -/

/-- A subnormal number is packed into its mantissa alone. -/
theorem pack_subnormal (s : Sign) {m : BitVec 52} {e : Int} (hm : 0 < m.toNat) (he : e = -1074) :
    UnpackedFloat.pack .binary64 (.finite s m.toNat e hm) = packComponents .binary64 s 0#_ m := by
  subst he
  have below : ¬ m.toNat.log2 + 1 = Format.binary64.mantissaBits := by
    have := (Nat.log2_lt (by omega)).2 m.isLt
    show ¬ m.toNat.log2 + 1 = 53
    omega
  unfold UnpackedFloat.pack
  rw [if_neg (by decide), if_neg below, BitVec.ofNat_toNat, BitVec.setWidth_eq]

/-- A normal number is packed into its exponent, and its mantissa without the leading one. -/
theorem pack_normal (s : Sign) {m : BitVec 52} {exponent : BitVec 11} {e : Int}
    (hm : 0 < (1#1 ++ m).toNat) (he : e = (exponent.toNat : Int) - 1075) (hmax : exponent ≠ -1#_) :
    UnpackedFloat.pack .binary64 (.finite s (1#1 ++ m).toNat e hm) =
      packComponents .binary64 s exponent m := by
  subst he
  have small : m.toNat < 2 ^ 52 := m.isLt
  have whole : (1#1 ++ m).toNat = 2 ^ 52 + m.toNat := by
    rw [BitVec.toNat_append, ← Nat.shiftLeft_add_eq_or_of_lt m.isLt, Nat.shiftLeft_eq]
    rfl
  have biased : ((exponent.toNat : Int) - 1075 + Format.binary64.exponentBias +
      Format.binary64.mantissaBitsWithoutImplicit).toNat = exponent.toNat := by
    show ((exponent.toNat : Int) - 1075 + (1023 : Nat) + (52 : Nat)).toNat = exponent.toNat
    omega
  have fits : ¬ 2 ^ Format.binary64.exponentBits ≤ exponent.toNat + 1 := by
    have bound : exponent.toNat < 2 ^ 11 := exponent.isLt
    have short : exponent.toNat ≠ 2047 := fun h => hmax (BitVec.eq_of_toNat_eq h)
    show ¬ 2 ^ 11 ≤ exponent.toNat + 1
    omega
  have leading : (1#1 ++ m).toNat.log2 + 1 = Format.binary64.mantissaBits := by
    have top := (Nat.log2_eq_iff (n := (1#1 ++ m).toNat) (k := 52) (by omega)).2 (by omega)
    show _ = 53
    omega
  unfold UnpackedFloat.pack
  dsimp only
  rw [biased, if_neg fits, if_pos leading, BitVec.ofNat_toNat, BitVec.setWidth_eq]
  refine congrArg (packComponents .binary64 s exponent) (BitVec.eq_of_toNat_eq ?_)
  rw [BitVec.toNat_ofNat, whole]
  show (2 ^ 52 + m.toNat) % 2 ^ 52 = m.toNat
  omega

theorem pack_unpack (valid : Format.binary64.Valid b) :
    UnpackedFloat.pack .binary64 (UnpackedFloat.unpack .binary64 b) = b := by
  have exponents : ((unpackExponent b).toNat : Int) - ((Format.binary64.exponentBias : Nat) +
      (Format.binary64.mantissaBitsWithoutImplicit : Nat)) = (unpackExponent b).toNat - 1075 := by
    show _ - ((1023 : Nat) + (52 : Nat) : Int) = _
    omega
  unfold UnpackedFloat.unpack
  dsimp only
  by_cases hmax : unpackExponent b = -1#_
  · -- infinity, or the one pattern that a float has for what is no number
    rw [if_pos hmax]
    by_cases hm : unpackMantissa b = 0#_
    · rw [if_pos hm]
      exact packComponents_unpack hmax hm
    · rw [if_neg hm]
      exact (valid.eq_packedNaN hmax hm).symm
  · rw [if_neg hmax]
    by_cases hz : unpackExponent b = 0#_
    · -- zero, or a subnormal number
      rw [if_pos hz]
      by_cases hm : unpackMantissa b = 0#_
      · rw [dif_pos hm]
        exact packComponents_unpack hz hm
      · rw [dif_neg hm, pack_subnormal _ _ (by rw [exponents, hz]; rfl)]
        exact packComponents_unpack hz rfl
    · rw [if_neg hz, pack_normal _ _ exponents hmax]
      exact packComponents_unpack rfl rfl

/-- The bits of a float give it back. -/
theorem ofBits_toBits (x : Float) : Float.ofBits x.toBits = x := by
  obtain ⟨bits, valid⟩ := x
  have same : Float.Model.ofBits bits = ⟨bits, valid⟩ := by
    have kept : (Float.Model.ofBits bits).toBits = bits := by
      show UInt64.ofBitVec (UnpackedFloat.pack .binary64 (UnpackedFloat.unpack .binary64 bits.toBitVec)) =
        bits
      rw [pack_unpack valid]
    cases h : Float.Model.ofBits bits with
    | mk bits' valid' =>
      rw [h] at kept
      obtain rfl : bits' = bits := kept
      rfl
  exact congrArg Float.ofModel same

/-- **Sign and rank of a float give it back**, bit for bit. -/
theorem ofRank_rank (x : Float) : ofRank (isNegative x) (rank x) = x := by
  have bound : x.toBits.toNat < 2 ^ 64 := x.toBits.toNat_lt
  have parts : (if isNegative x then signBit else 0) + rank x = x.toBits.toNat := by
    unfold isNegative rank signBit
    by_cases h : 0x8000000000000000 ≤ x.toBits.toNat
    · rw [if_pos (decide_eq_true h)]
      omega
    · rw [if_neg (by simpa using h)]
      omega
  unfold ofRank
  rw [parts, UInt64.ofNat_toNat, ofBits_toBits]

/-! ## Order -/

/-- Comparing the other way round turns the answer round. -/
theorem compare_swap (u v : UnpackedFloat) :
    UnpackedFloat.compare v u = (UnpackedFloat.compare u v).map Ordering.swap := by
  cases u with
  | notANumber => cases v <;> rfl
  | infinity s =>
    cases v with
    | notANumber => cases s <;> rfl
    | infinity t => cases s <;> cases t <;> rfl
    | zero t => cases s <;> rfl
    | finite t m e hm => cases s <;> rfl
  | zero s =>
    cases v with
    | notANumber => rfl
    | infinity t => cases t <;> rfl
    | zero t => rfl
    | finite t m e hm => cases t <;> rfl
  | finite s m e hm =>
    cases v with
    | notANumber => cases s <;> rfl
    | infinity t => cases s <;> cases t <;> rfl
    | zero t => cases s <;> rfl
    | finite t n f hn =>
      have turned : ((compare f e).then (compare n m)) = ((compare e f).then (compare m n)).swap := by
        rw [Ordering.swap_then, Int.compare_swap, Nat.compare_swap]
      cases s with
      | negative =>
        cases t with
        | negative => exact congrArg (fun o => some o.swap) turned
        | positive => rfl
      | positive =>
        cases t with
        | negative => rfl
        | positive => exact congrArg some turned

/-- Only what is no number cannot be compared. -/
theorem isSome_compare {u v : UnpackedFloat} (hu : u ≠ .notANumber) (hv : v ≠ .notANumber) :
    (UnpackedFloat.compare u v).isSome := by
  cases u with
  | notANumber => exact absurd rfl hu
  | infinity s =>
    cases v with
    | notANumber => exact absurd rfl hv
    | infinity t => rfl
    | zero t => cases s <;> rfl
    | finite t m e hm => cases s <;> rfl
  | zero s =>
    cases v with
    | notANumber => exact absurd rfl hv
    | infinity t => cases t <;> rfl
    | zero t => rfl
    | finite t m e hm => cases t <;> rfl
  | finite s m e hm =>
    cases v with
    | notANumber => exact absurd rfl hv
    | infinity t => cases s <;> cases t <;> rfl
    | zero t => cases s <;> rfl
    | finite t n f hn => cases s <;> cases t <;> rfl

/-- Below the highest exponent there are numbers only. -/
theorem unpack_ne_of_exponent (short : unpackExponent b ≠ -1#_) :
    UnpackedFloat.unpack .binary64 b ≠ .notANumber := by
  unfold UnpackedFloat.unpack
  dsimp only
  rw [if_neg short]
  by_cases hz : unpackExponent b = 0#_
  · rw [if_pos hz]
    by_cases hm : unpackMantissa b = 0#_
    · rw [dif_pos hm]
      intro h
      cases h
    · rw [dif_neg hm]
      intro h
      cases h
  · rw [if_neg hz]
    intro h
    cases h

theorem unpack_ne_notANumber {x : Float} (h : isFinite x) : x.toModel.unpack ≠ .notANumber := by
  have rank_lt : x.toBits.toNat % signBit < infinityRank := of_decide_eq_true h
  refine unpack_ne_of_exponent fun hmax => ?_
  have top : x.toBits.toNat / hiddenBit % 2048 = 2047 :=
    (toNat_unpackExponent x.toModel.toBits.toBitVec).symm.trans (congrArg BitVec.toNat hmax)
  unfold signBit infinityRank hiddenBit at *
  omega

/-- **Finite floats are ordered**: what is not below lies above or is the same. -/
theorem not_lt_iff {x y : Float} (hx : isFinite x) (hy : isFinite y) : ¬ x < y ↔ y ≤ x := by
  have both := isSome_compare (unpack_ne_notANumber hx) (unpack_ne_notANumber hy)
  have turned := compare_swap x.toModel.unpack y.toModel.unpack
  show ¬ (decide (UnpackedFloat.lt x.toModel.unpack y.toModel.unpack)) ↔
    (decide (UnpackedFloat.le y.toModel.unpack x.toModel.unpack))
  -- both sides ask for the one comparison, and there is an answer to it
  unfold UnpackedFloat.lt UnpackedFloat.le
  rw [turned, decide_eq_true_iff, decide_eq_true_iff]
  obtain ⟨o, ho⟩ := Option.isSome_iff_exists.1 both
  rw [ho]
  cases o <;> decide

theorem not_le_iff {x y : Float} (hx : isFinite x) (hy : isFinite y) : ¬ x ≤ y ↔ y < x := by
  rw [← not_lt_iff hy hx, Classical.not_not]

end LitSpheres.Binary64
