/-
  The arithmetic of colors saturates.

  1. **Program** — a real channel value is converted to a byte, and a color is scaled by converting the
     products of its bytes with a number.

  2. **Specification** — a converted channel is the whole part of its value held between 0 and 255, and zero
     for what is no number.  However often a color is scaled, by whatever numbers, alpha stays and a zero
     channel stays zero; scaling by one changes nothing, and a color is rebuilt from its own channels.

  3. **The crux** — the steps of a conversion do not change what a value is to become, because holding it in a
     range keeps the order.  Nothing comes of zero times a number but a zero or no number, and both are
     converted to the byte zero; so one step keeps what a run is to keep.
-/
import LitSpheres.Color
import LitSpheres.Proofs.Binary64.Arithmetic

namespace LitSpheres.Color

open Binary64
open Float.Model.UnpackedFloat hiding isFinite

/-! ## Channels -/

/-- What a real channel value is to become: zero if it is no number, and else its whole part held between 0
    and 255. -/
def saturated (x : Float) : Int :=
  if !isNumber x then 0
  else if isFinite x then max 0 (min 255 (truncate x))
  else if isNegative x then 0 else 255

variable {x y : Float}

/-- A mantissa with its exponent is cut to the whole part of its value. -/
theorem roundToInt_eq (s : Sign) (m : Nat) (e : Int) :
    roundToInt s m e = s.apply (⌊(m : ℚ) * 2 ^ e⌋₊ : Nat) := by
  -- places are added below the mantissa or shifted out of it, never both
  have whole : ⌊((m <<< e.toNat : Nat) : ℚ) / 2 ^ (-e).toNat⌋₊ =
      (ExtendedMantissa.ofMantissaAndAccuracy (m <<< e.toNat) .exact >>> (-e).toNat).mantissa :=
    ((standsFor_exact _).shiftRight _).floor
  have value : ((m <<< e.toNat : Nat) : ℚ) / 2 ^ (-e).toNat = m * 2 ^ e := by
    rw [Nat.shiftLeft_eq, zpow_eq_div]
    push_cast
    ring
  have places : (0 - (e - (e.toNat : Int))).toNat = (-e).toNat := by omega
  rw [value] at whole
  rw [whole]
  simp only [roundToInt, decreaseExponent, shiftToExponent, sub_zero, places]

/-- The whole number that a float is converted through. -/
theorem toInt_unpack (x : Float) : x.toModel.unpack.toInt 0 255 =
    if !isNumber x then 0 else if isFinite x then truncate x else if isNegative x then 0 else 255 := by
  cases kind x with
  | notANumber no unpacked => rw [unpacked, if_pos (by simpa using no)]; rfl
  | infinity top unpacked =>
    have number : isNumber x = true := isNumber_of_infinite top
    have infinite : ¬ isFinite x = true := by
      rw [isFinite, top]
      decide
    rw [unpacked, if_neg (by simp [number]), if_neg infinite, sign]
    cases isNegative x <;> rfl
  | zero none unpacked =>
    have number : isNumber x = true := isNumber_of_isFinite (isFinite_of_rank_zero none)
    have finite : isFinite x = true := isFinite_of_rank_zero none
    rw [unpacked, if_neg (by simp [number]), if_pos finite, truncate_of_sign, none, value_zero]
    cases isNegative x <;> rfl
  | finite some finite unpacked =>
    rw [unpacked, if_neg (by simp [isNumber_of_isFinite finite]), if_pos finite, truncate_of_sign]
    show roundToInt _ _ _ = _
    rw [roundToInt_eq, sign, ← value]
    cases isNegative x <;> rfl

/-- A float is cut to its value saturated. -/
theorem toUInt8_eq (x : Float) : (x.toUInt8.toNat : Int) = saturated x := by
  have clamped (n : Int) : ((UInt8.ofNatClamp n.toNat).toNat : Int) = max 0 (min 255 n) := by
    rcases Nat.lt_or_ge n.toNat 256 with low | high
    · rw [UInt8.toNat_ofNatClamp_of_lt low]
      omega
    · rw [UInt8.toNat_ofNatClamp_of_le high]
      show (255 : Int) = _
      omega
  have converted : x.toUInt8 = UInt8.ofNatClamp (x.toModel.unpack.toInt 0 255).toNat := rfl
  rw [converted, clamped, toInt_unpack, saturated]
  split_ifs <;> rfl

theorem saturated_bounds (x : Float) : 0 ≤ saturated x ∧ saturated x ≤ 255 := by
  rw [saturated]
  split_ifs <;> omega

/-- Saturating keeps the order. -/
theorem saturated_mono (h : x ≤ y) : saturated x ≤ saturated y := by
  obtain ⟨nx, ny, levels⟩ := le_iff_level.1 h
  have wholes : truncate x ≤ truncate y := truncate_mono h
  have some : 0 < infinityRank := by decide
  rw [level, level] at levels
  -- a finite number has a whole part, and an infinity is told by its sign; the levels order them
  rw [isNumber, decide_eq_true_eq] at nx ny
  simp only [saturated, isNumber, isFinite, nx, ny, decide_true, decide_eq_true_eq]
  split_ifs at * <;> first | contradiction | omega

/-! ## The steps of a conversion -/

/-- The first step leaves a finite number alone. -/
theorem asFinite_eq_self (finite : isFinite x) : asFinite x = x := by
  have neither : x.isNaN = false ∧ x.isInf = false := by
    show x.toModel.unpack.isNaN = false ∧ x.toModel.unpack.isInf = false
    cases kind x with
    | notANumber no _ => exact absurd (isNumber_of_isFinite finite) no
    | infinity top _ =>
      rw [isFinite, top] at finite
      exact absurd finite (by decide)
    | zero _ unpacked | finite _ _ unpacked =>
      rw [unpacked]
      exact ⟨rfl, rfl⟩
  rw [asFinite, neither.1, neither.2]
  rfl

/-- The first step gives a number, and the one that the value is to become does not change. -/
theorem asFinite_spec (x : Float) : isNumber (asFinite x) ∧ saturated (asFinite x) = saturated x := by
  have kept (finite : isFinite x) : isNumber (asFinite x) ∧ saturated (asFinite x) = saturated x := by
    rw [asFinite_eq_self finite]
    exact ⟨isNumber_of_isFinite finite, rfl⟩
  cases kind x with
  | notANumber no unpacked =>
    have nan : x.isNaN = true := by
      show x.toModel.unpack.isNaN = true
      rw [unpacked]
      rfl
    have zero : saturated x = 0 := if_pos (by simpa using no)
    rw [asFinite, if_pos nan, zero]
    decide +kernel
  | infinity top unpacked =>
    -- there are just two infinities
    rw [← ofRank_rank x, top]
    cases isNegative x <;> decide +kernel
  | zero none _ => exact kept (isFinite_of_rank_zero none)
  | finite _ finite _ => exact kept finite

/-- **Clipping a number** does not change what it is to become. -/
theorem saturated_clip (number : isNumber x) : saturated (clip x) = saturated x := by
  have least : saturated 0 = 0 := by decide +kernel
  have most : saturated 255 = 255 := by decide +kernel
  have clipped : clip x =
      if (if x ≤ 0 then 0 else x) ≤ (255 : Float) then (if x ≤ 0 then 0 else x) else 255 := rfl
  obtain ⟨lower, upper⟩ := saturated_bounds x
  rw [clipped]
  by_cases low : x ≤ 0
  · have below := saturated_mono low
    rw [if_pos low, if_pos (by decide +kernel)]
    omega
  · rw [if_neg low]
    by_cases high : x ≤ 255
    · rw [if_pos high]
    · have beyond := saturated_mono (le_of_not_le number (by decide +kernel) high)
      rw [if_neg high]
      omega

/-- **A channel is its value saturated.** -/
theorem channel_eq (x : Float) : ((channel x).toNat : Int) = saturated x := by
  obtain ⟨number, same⟩ := asFinite_spec x
  rw [channel, toUInt8_eq, saturated_clip number, same]

/-- The steps of a conversion come to one that saturates. -/
theorem channel_eq_toUInt8 (x : Float) : channel x = x.toUInt8 := by
  have same : ((channel x).toNat : Int) = x.toUInt8.toNat := (channel_eq x).trans (toUInt8_eq x).symm
  exact UInt8.toNat_inj.1 (by exact_mod_cast same)

theorem channel_mono (h : x ≤ y) : channel x ≤ channel y := by
  rw [UInt8.le_iff_toNat_le]
  have order : ((channel x).toNat : Int) ≤ (channel y).toNat := by
    rw [channel_eq, channel_eq]
    exact saturated_mono h
  exact_mod_cast order

theorem channel_of_saturated {b : UInt8} (h : saturated x = b.toNat) : channel x = b := by
  have same : ((channel x).toNat : Int) = b.toNat := (channel_eq x).trans h
  exact UInt8.toNat_inj.1 (by exact_mod_cast same)

/-- What is no number, and a zero of either sign, become the byte zero. -/
theorem channel_eq_zero (h : isNumber x → rank x = 0) : channel x = 0 := by
  refine channel_of_saturated ?_
  rw [saturated]
  by_cases number : isNumber x = true
  · have finite : isFinite x = true := isFinite_of_rank_zero (h number)
    have cut : truncate x = 0 := by
      rw [truncate_of_sign, h number, value_zero, Nat.floor_zero]
      split_ifs <;> rfl
    rw [if_neg (by simp [number]), if_pos finite, cut]
    rfl
  · exact if_pos (by simp [number])

/-! ## Bytes as floats -/

theorem byte_toFloat : ∀ b : UInt8,
    isFinite b.toFloat ∧ truncate b.toFloat = b.toNat ∧ (0 : Float) ≤ b.toFloat := by decide +kernel

theorem saturated_byte (b : UInt8) : saturated b.toFloat = b.toNat := by
  obtain ⟨finite, whole, -⟩ := byte_toFloat b
  have small : b.toNat < 256 := b.toNat_lt
  rw [saturated, if_neg (by simp [isNumber_of_isFinite finite]), if_pos finite, whole]
  omega

/-- **A byte is converted back to itself.** -/
theorem channel_byte (b : UInt8) : channel b.toFloat = b := channel_of_saturated (saturated_byte b)

theorem alpha_ofRgb (red green blue : Float) : (ofRgb red green blue).alpha = 255 := by
  have full : channel 255 = 255 := by decide +kernel
  rw [ofRgb, ofFloats, full]

/-- Scaling converts alpha to what it was. -/
@[simp] theorem alpha_scale (c : Color) (s : Float) : (c.scale s).alpha = c.alpha := channel_byte c.alpha

/-- **Zero stays zero**, whatever it is multiplied with. -/
theorem channel_zero_mul (s : Float) : channel ((0 : UInt8).toFloat * s) = 0 :=
  channel_eq_zero (rank_mul_zero (.inl (by decide +kernel)))

/-! ## Steps and runs -/

/-- A color is scaled by a number, or multiplied with it on either side. -/
inductive Step where
  | scale (s : Float)
  | times (s : Float)
  | timesLeft (s : Float)

namespace Step

/-- The number of the step. -/
def number : Step → Float
  | scale s | times s | timesLeft s => s

/-- The color after the step. -/
def apply (c : Color) : Step → Color
  | scale s => c.scale s
  | times s => c * s
  | timesLeft s => s * c

theorem apply_eq (c : Color) (step : Step) : step.apply c = c.scale step.number := by
  cases step <;> rfl

end Step

/-- The color after the steps. -/
def run (c : Color) (steps : List Step) : Color := steps.foldl Step.apply c

/-- The four channels are the four values saturated. -/
structure Saturates (c : Color) (red green blue alpha : Float) : Prop where
  red : (c.red.toNat : Int) = saturated red
  green : (c.green.toNat : Int) = saturated green
  blue : (c.blue.toNat : Int) = saturated blue
  alpha : (c.alpha.toNat : Int) = saturated alpha

/-- Alpha stays, and so does a red, green or blue of zero. -/
structure Keeps (c d : Color) : Prop where
  alpha : d.alpha = c.alpha
  red : c.red = 0 → d.red = 0
  green : c.green = 0 → d.green = 0
  blue : c.blue = 0 → d.blue = 0

theorem Keeps.trans {c d e : Color} (first : Keeps c d) (second : Keeps d e) : Keeps c e where
  alpha := second.alpha.trans first.alpha
  red h := second.red (first.red h)
  green h := second.green (first.green h)
  blue h := second.blue (first.blue h)

variable {c : Color}

theorem ofFloats_saturates (red green blue alpha : Float) :
    (ofFloats red green blue alpha).Saturates red green blue alpha :=
  ⟨channel_eq red, channel_eq green, channel_eq blue, channel_eq alpha⟩

/-- A step saturates the products and alpha. -/
theorem step_saturates (c : Color) (step : Step) : (step.apply c).Saturates (c.red.toFloat * step.number)
    (c.green.toFloat * step.number) (c.blue.toFloat * step.number) c.alpha.toFloat := by
  rw [step.apply_eq]
  exact ofFloats_saturates _ _ _ _

/-- **One step.** -/
theorem step_keeps (c : Color) (step : Step) : Keeps c (step.apply c) := by
  -- one fact for all three colors: they are converted alike
  have zero {b : UInt8} (h : b = 0) : channel (b.toFloat * step.number) = 0 := by
    rw [h]
    exact channel_zero_mul _
  rw [step.apply_eq]
  exact ⟨alpha_scale c step.number, zero, zero, zero⟩

/-- **A whole run.** -/
theorem run_keeps (c : Color) (steps : List Step) : Keeps c (c.run steps) := by
  induction steps generalizing c with
  | nil => exact ⟨rfl, id, id, id⟩
  | cons step rest ih => exact (step_keeps c step).trans (ih (step.apply c))

theorem run_append (c : Color) (steps more : List Step) : c.run (steps ++ more) = (c.run steps).run more :=
  List.foldl_append

theorem scale_one (c : Color) : c.scale 1 = c := by
  rw [scale, ofFloats]
  simp only [mul_one_eq, channel_byte]

theorem ofFloats_bytes (c : Color) :
    ofFloats c.red.toFloat c.green.toFloat c.blue.toFloat c.alpha.toFloat = c := by
  rw [ofFloats]
  simp only [channel_byte]

/-- **The arithmetic of colors saturates and never wraps.**  The channels of a color are its four values
    saturated, and those of a scaled color the products saturated.  Along any run of steps alpha is that of
    the start and no channel leaves a byte; a channel that is zero after some steps is zero after any more of
    them.  Scaling by one changes nothing, and a color is rebuilt from its own channels. -/
theorem saturates_along_runs :
    (∀ x, 0 ≤ saturated x ∧ saturated x ≤ 255) ∧
    (∀ red green blue alpha, (ofFloats red green blue alpha).Saturates red green blue alpha) ∧
    (∀ (c : Color) (step : Step), (step.apply c).Saturates (c.red.toFloat * step.number)
      (c.green.toFloat * step.number) (c.blue.toFloat * step.number) c.alpha.toFloat) ∧
    (∀ (c : Color) (steps more : List Step), (c.run steps).alpha = c.alpha ∧
      (∀ byte ∈ (c.run steps).bytes, byte.toNat ≤ 255) ∧
      ((c.run steps).red = 0 → (c.run (steps ++ more)).red = 0) ∧
      ((c.run steps).green = 0 → (c.run (steps ++ more)).green = 0) ∧
      ((c.run steps).blue = 0 → (c.run (steps ++ more)).blue = 0)) ∧
    (∀ c : Color, c.scale 1 = c ∧ c * (1 : Float) = c ∧ (1 : Float) * c = c) ∧
    ∀ c : Color, ofFloats c.red.toFloat c.green.toFloat c.blue.toFloat c.alpha.toFloat = c := by
  refine ⟨saturated_bounds, ofFloats_saturates, step_saturates, fun c steps more => ?_, fun c => ?_,
    ofFloats_bytes⟩
  · have later : Keeps (c.run steps) (c.run (steps ++ more)) := by
      rw [run_append]
      exact run_keeps _ more
    refine ⟨(run_keeps c steps).alpha, fun byte _ => ?_, later.red, later.green, later.blue⟩
    have small : byte.toNat < 256 := byte.toNat_lt
    omega
  · exact ⟨scale_one c, scale_one c, scale_one c⟩

/-- A color that is scaled by an infinity and then multiplied with a negative zero; what was zero from the
    first stays so even when it is multiplied with no number. -/
theorem saturates_beyond_numbers :
    let c : Color := ⟨200, 0, 7, 40⟩
    let steps : List Step := [.scale (1 / 0), .times (-0.0)]
    c.run steps = ⟨0, 0, 0, 40⟩ ∧ c.run (steps.take 1) = ⟨255, 0, 255, 40⟩ ∧
      (c.run (steps.take 1 ++ [.timesLeft (0 / 0)])).green = 0 := by
  refine ⟨by decide +kernel, by decide +kernel, ?_⟩
  exact ((saturates_along_runs.2.2.2.1 ⟨200, 0, 7, 40⟩ [.scale (1 / 0)] [.timesLeft (0 / 0)]).2.2.2.1
    (by decide +kernel))

end LitSpheres.Color
