/-
  What a float is after its parts are put together.

  1. **Program** — a computed number has a sign, a mantissa and an exponent, or is infinite, zero or no
     number; it becomes a float when these are packed into a bit pattern.

  2. **Specification** — packing keeps the sign.  It keeps what is no number, infinite or zero; and a
     mantissa in place has the rank of exponent and mantissa side by side, or is infinite if that is too
     high.

  3. **The crux** — the parts of a pattern are read off it again, and the rank is two of them.  So what is
     packed is never taken apart bit by bit below.
-/
import Mathlib
import LitSpheres.Proofs.Binary64.Monotone

namespace LitSpheres.Binary64

open Float.Model Float.Model.UnpackedFloat

/-- The float that a computed number is packed into. -/
def packed (u : UnpackedFloat) : Float := .ofModel (Float.Model.pack u)

variable {x y : Float} {u : UnpackedFloat}

/-- A float taken apart and packed again. -/
theorem packed_unpack (x : Float) : packed x.toModel.unpack = x := Float.ofBits_toBits x

/-! ## The parts of what is packed -/

/-- The sign and the rank of a pattern that is put together from its parts. -/
theorem parts_of_pattern {s : Sign} {e : BitVec 11} {m : BitVec 52}
    (h : pattern x = packComponents .binary64 s e m) :
    sign x = s ∧ rank x = e.toNat * hiddenBit + m.toNat := by
  have signs := sign_eq x
  have exponents := toNat_exponent x
  have mantissas := toNat_mantissa x
  rw [h, unpackSign_packComponents, Sign.ofBitVec_toBitVec] at signs
  rw [h, unpackExponent_packComponents] at exponents
  rw [h, unpackMantissa_packComponents] at mantissas
  refine ⟨signs.symm, ?_⟩
  rw [exponents, mantissas, Nat.mul_comm]
  exact (Nat.div_add_mod _ _).symm

theorem packed_infinity (s : Sign) :
    sign (packed (.infinity s)) = s ∧ rank (packed (.infinity s)) = infinityRank := by
  have parts := parts_of_pattern (x := packed (.infinity s)) (s := s) (e := -1#11) (m := 0#52) rfl
  exact ⟨parts.1, parts.2.trans (by decide)⟩

theorem packed_zero (s : Sign) : sign (packed (.zero s)) = s ∧ rank (packed (.zero s)) = 0 := by
  have parts := parts_of_pattern (x := packed (.zero s)) (s := s) (e := 0#11) (m := 0#52) rfl
  exact ⟨parts.1, parts.2.trans (by decide)⟩

theorem isNumber_packed_notANumber : ¬ isNumber (packed .notANumber) := by decide +kernel

/-- A number that is neither infinite nor zero keeps its sign.  Its rank is exponent and mantissa side by side,
    and the exponent is zero unless the mantissa has its leading bit. -/
theorem packed_finite (s : Sign) (m : Nat) (e : Int) (hm : 0 < m) :
    sign (packed (.finite s m e hm)) = s ∧ rank (packed (.finite s m e hm)) =
      if 2046 < (e + 1075).toNat then infinityRank
      else (if m.log2 = 52 then (e + 1075).toNat else 0) * hiddenBit + m % 2 ^ 52 := by
  have biased : e + (1023 : Nat) + (52 : Nat) = e + 1075 := by omega
  have whole : pattern (packed (.finite s m e hm)) = if 2 ^ 11 ≤ (e + (1023 : Nat) + (52 : Nat)).toNat + 1 then
      packedInfinity .binary64 s
    else if m.log2 + 1 = 53 then
      packComponents .binary64 s (BitVec.ofNat 11 (e + (1023 : Nat) + (52 : Nat)).toNat) (BitVec.ofNat 52 m)
    else packComponents .binary64 s (0#11) (BitVec.ofNat 52 m) := rfl
  rw [biased] at whole
  -- an exponent that has no place in the pattern, a leading bit that is not stored, or no leading bit
  by_cases high : 2046 < (e + 1075).toNat
  · rw [if_pos (by omega)] at whole
    have parts := parts_of_pattern (e := -1#11) (m := 0#52) whole
    rw [if_pos high]
    exact ⟨parts.1, parts.2.trans (by decide)⟩
  · rw [if_neg (by omega)] at whole
    rw [if_neg high]
    by_cases leading : m.log2 = 52
    · rw [if_pos (by omega)] at whole
      have parts := parts_of_pattern whole
      have exponent : (e + 1075).toNat % 2 ^ 11 = (e + 1075).toNat := Nat.mod_eq_of_lt (by omega)
      rw [BitVec.toNat_ofNat, BitVec.toNat_ofNat, exponent] at parts
      rw [if_pos leading]
      exact parts
    · rw [if_neg (by omega)] at whole
      have parts := parts_of_pattern whole
      rw [BitVec.toNat_ofNat, BitVec.toNat_ofNat] at parts
      rw [if_neg leading]
      exact parts

theorem rank_packed_finite_le (s : Sign) (m : Nat) (e : Int) (hm : 0 < m) :
    rank (packed (.finite s m e hm)) ≤ infinityRank := by
  rw [(packed_finite s m e hm).2, infinityRank, hiddenBit]
  split_ifs <;> omega

/-- **The rank of a mantissa in place**: all its bits are there, or its last bit is the lowest one there is. -/
theorem rank_packed_finite {s : Sign} {m : Nat} {e : Int} (hm : 0 < m) (short : m < 2 ^ 53) (low : -1074 ≤ e)
    (inPlace : 2 ^ 52 ≤ m ∨ e = -1074) :
    rank (packed (.finite s m e hm)) = min infinityRank ((e + 1074).toNat * hiddenBit + m) := by
  have leading : m.log2 = 52 ↔ 2 ^ 52 ≤ m := by
    rw [Nat.log2_eq_iff hm.ne']
    omega
  rw [(packed_finite s m e hm).2, infinityRank, hiddenBit]
  simp only [leading]
  split_ifs <;> omega

/-! ## Numbers, and what is not below zero -/

theorem isNumber_packed_iff : isNumber (packed u) ↔ u ≠ .notANumber := by
  cases u with
  | notANumber => exact ⟨fun h => absurd h isNumber_packed_notANumber, fun h => absurd rfl h⟩
  | infinity s => exact ⟨fun _ => nofun, fun _ => isNumber_of_infinite (packed_infinity s).2⟩
  | zero s => exact ⟨fun _ => nofun, fun _ => isNumber_of_isFinite (isFinite_of_rank_zero (packed_zero s).2)⟩
  | finite s m e hm => exact ⟨fun _ => nofun, fun _ => decide_eq_true (rank_packed_finite_le s m e hm)⟩

/-- A zero of either sign, or a number with a positive sign. -/
def NotBelow : UnpackedFloat → Prop
  | .notANumber => False
  | .infinity s => s = .positive
  | .zero _ => True
  | .finite s _ _ _ => s = .positive

@[simp] theorem notBelow_notANumber : ¬ NotBelow .notANumber := id

@[simp] theorem notBelow_infinity {s : Sign} : NotBelow (.infinity s) ↔ s = .positive := Iff.rfl

@[simp] theorem notBelow_zero (s : Sign) : NotBelow (.zero s) := trivial

@[simp] theorem notBelow_finite {s : Sign} {m : Nat} {e : Int} {hm : 0 < m} :
    NotBelow (.finite s m e hm) ↔ s = .positive := Iff.rfl

theorem nonneg_iff_level : 0 ≤ x ↔ isNumber x ∧ 0 ≤ level x := by
  have zero : isNumber 0 := by decide +kernel
  rw [le_iff_level, level_zero]
  exact ⟨fun h => h.2, fun h => ⟨zero, h⟩⟩

/-- Not below zero are the zeros and the numbers with a positive sign. -/
theorem nonneg_iff_sign : 0 ≤ x ↔ isNumber x ∧ (rank x = 0 ∨ sign x = .positive) := by
  rw [nonneg_iff_level]
  refine and_congr_right fun _ => ?_
  -- the level of a negative zero is that of zero, so the sign alone does not decide
  cases s : sign x with
  | negative =>
    rw [level_of_negative s]
    constructor
    · intro h
      exact .inl (by omega)
    · rintro (zero | absurd)
      · omega
      · cases absurd
  | positive =>
    rw [level_of_positive s]
    exact ⟨fun _ => .inr rfl, fun _ => by omega⟩

theorem NotBelow.nonneg (h : NotBelow u) : 0 ≤ packed u := by
  rw [nonneg_iff_sign]
  cases u with
  | notANumber => exact absurd h id
  | infinity s => exact ⟨isNumber_packed_iff.2 nofun, .inr ((packed_infinity s).1.trans h)⟩
  | zero s => exact ⟨isNumber_packed_iff.2 nofun, .inl (packed_zero s).2⟩
  | finite s m e hm => exact ⟨isNumber_packed_iff.2 nofun, .inr ((packed_finite s m e hm).1.trans h)⟩

/-! ## The four kinds of floats -/

/-- A float by what it is unpacked to. -/
inductive Kind (x : Float) : Prop
  | notANumber (no : ¬ isNumber x) (unpacked : x.toModel.unpack = .notANumber)
  | infinity (top : rank x = infinityRank) (unpacked : x.toModel.unpack = .infinity (sign x))
  | zero (none : rank x = 0) (unpacked : x.toModel.unpack = .zero (sign x))
  | finite (some : 0 < rank x) (finite : isFinite x) (unpacked : x.toModel.unpack =
      .finite (sign x) (mantissa (rank x)) (lastBit (rank x)) (mantissa_pos some))

theorem kind (x : Float) : Kind x := by
  by_cases number : isNumber x = true
  · rcases rank_eq_or number with zero | top | ⟨some, finite⟩
    · exact .zero zero (unpack_zero zero)
    · exact .infinity top (unpack_infinity top)
    · exact .finite some finite (unpack_finite finite some)
  · have above : infinityRank < rank x := not_isNumber_iff.1 number
    exact .notANumber number (unpack_notANumber above)

theorem unpack_eq_notANumber_iff : x.toModel.unpack = .notANumber ↔ ¬ isNumber x := by
  cases kind x with
  | notANumber no unpacked => exact ⟨fun _ => no, fun _ => unpacked⟩
  | infinity top unpacked =>
    rw [unpacked]
    exact ⟨nofun, fun no => absurd (isNumber_of_infinite top) no⟩
  | zero none unpacked =>
    rw [unpacked]
    exact ⟨nofun, fun no => absurd (isNumber_of_isFinite (isFinite_of_rank_zero none)) no⟩
  | finite some finite unpacked =>
    rw [unpacked]
    exact ⟨nofun, fun no => absurd (isNumber_of_isFinite finite) no⟩

theorem notBelow_iff_nonneg : NotBelow x.toModel.unpack ↔ 0 ≤ x := by
  rw [nonneg_iff_sign]
  cases kind x with
  | notANumber no unpacked =>
    rw [unpacked]
    exact ⟨False.elim, fun h => absurd h.1 no⟩
  | infinity top unpacked =>
    have number : isNumber x := isNumber_of_infinite top
    have some : rank x ≠ 0 := by rw [top]; decide
    rw [unpacked]
    exact ⟨fun h => ⟨number, .inr h⟩, fun h => h.2.resolve_left some⟩
  | zero none unpacked =>
    rw [unpacked]
    exact ⟨fun _ => ⟨isNumber_of_isFinite (isFinite_of_rank_zero none), .inl none⟩, fun _ => trivial⟩
  | finite some finite unpacked =>
    rw [unpacked]
    exact ⟨fun h => ⟨isNumber_of_isFinite finite, .inr h⟩, fun h => h.2.resolve_left some.ne'⟩

end LitSpheres.Binary64
