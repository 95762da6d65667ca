/-
  Numerals: the texts that stand for numbers in a scene.

  1. **Program** — a finite float is written as an optional minus and digits with at most one point; a
     numeral is read by taking its digits, and the number of places behind the point.

  2. **Specification** — what is written for a finite float is a numeral, and reading it gives the float
     bit for bit.

  3. **The crux** — the digits of a numeral, with the point left out, are a whole number, and the places
     behind the point its power of ten.  Filling up with zeros, before the digits or behind them,
     changes this decimal only into one of the same fraction.
-/
import LitSpheres.Proofs.Binary64.Bits
import LitSpheres.Proofs.Decimal.Shortest
import LitSpheres.Token.Scan

namespace LitSpheres

/-- What is taken from the front ends where the condition first fails. -/
theorem takeWhile_append_of_boundary {α : Type} {p : α → Bool} {inside rest : List α}
    (h : ∀ a ∈ inside, p a) (boundary : ∀ a ∈ rest.head?, ¬ p a) :
    (inside ++ rest).takeWhile p = inside := by
  have stop : rest.takeWhile p = [] := by
    cases rest with
    | nil => rfl
    | cons a as => exact List.takeWhile_cons_of_neg (boundary a rfl)
  rw [List.takeWhile_append_of_pos h, stop, List.append_nil]

/-- A numeral without its sign: digits before the point, and digits behind it, if there is a point. -/
structure Numeral where
  whole : List Char
  fraction : List Char
  whole_ne_nil : whole ≠ []
  isDigit : ∀ c ∈ whole ++ fraction, c.isDigit

namespace Numeral

/-- The characters of a numeral; without digits behind it there is no point. -/
def chars (n : Numeral) : List Char :=
  if n.fraction = [] then n.whole else n.whole ++ '.' :: n.fraction

/-- The characters of a numeral with a sign. -/
def signed (n : Numeral) (negative : Bool) : List Char :=
  if negative then '-' :: n.chars else n.chars

/-- The decimal that a numeral stands for. -/
def decimal (n : Numeral) : Decimal :=
  { digits := Nat.ofDigitChars 10 (n.whole ++ n.fraction) 0, exponent := -(n.fraction.length : Int) }

variable (n : Numeral)

theorem isDigit_whole {c : Char} (h : c ∈ n.whole) : c.isDigit := n.isDigit c (List.mem_append_left _ h)

theorem isDigit_fraction {c : Char} (h : c ∈ n.fraction) : c.isDigit :=
  n.isDigit c (List.mem_append_right _ h)

/-- A numeral begins with a digit. -/
theorem exists_chars_eq_cons : ∃ c cs, n.chars = c :: cs ∧ c.isDigit := by
  cases hw : n.whole with
  | nil => exact absurd hw n.whole_ne_nil
  | cons c cs =>
    have digit : c.isDigit := n.isDigit_whole (hw ▸ List.mem_cons_self)
    unfold chars
    by_cases hf : n.fraction = []
    · exact ⟨c, cs, by rw [if_pos hf, hw], digit⟩
    · exact ⟨c, cs ++ '.' :: n.fraction, by rw [if_neg hf, hw, List.cons_append], digit⟩

/-! ## Reading -/

/-- The point and the digits behind it. -/
def behind : List Char := if n.fraction = [] then [] else '.' :: n.fraction

theorem chars_eq_append : n.chars = n.whole ++ n.behind := by
  unfold chars behind
  by_cases hf : n.fraction = []
  · rw [if_pos hf, if_pos hf, List.append_nil]
  · rw [if_neg hf, if_neg hf]

theorem not_isDigit_head?_behind : ∀ c ∈ n.behind.head?, ¬ c.isDigit := by
  unfold behind
  intro c hc
  by_cases hf : n.fraction = []
  · rw [if_pos hf] at hc
    exact absurd hc (by simp)
  · rw [if_neg hf] at hc
    obtain rfl : '.' = c := Option.some.inj hc
    decide

theorem takeWhile_chars : n.chars.takeWhile Char.isDigit = n.whole := by
  rw [chars_eq_append]
  exact takeWhile_append_of_boundary (fun _ h => n.isDigit_whole h) n.not_isDigit_head?_behind

theorem drop_chars : n.chars.drop (n.whole.length + 1) = n.fraction := by
  rw [chars_eq_append, ← List.drop_drop, List.drop_left]
  unfold behind
  by_cases hf : n.fraction = []
  · rw [if_pos hf, hf]
    rfl
  · rw [if_neg hf]
    rfl

/-- A minus in front is a sign; a numeral by itself begins with a digit. -/
theorem unsigned_signed (negative : Bool) :
    ((n.signed negative).head? == some '-') = negative ∧
      (if (n.signed negative).head? = some '-' then (n.signed negative).tail else n.signed negative) =
        n.chars := by
  cases negative with
  | true => exact ⟨rfl, rfl⟩
  | false =>
    obtain ⟨c, cs, hc, digit⟩ := n.exists_chars_eq_cons
    have other : (n.signed false).head? ≠ some '-' := by
      show n.chars.head? ≠ some '-'
      rw [hc]
      rintro ⟨⟩
      exact absurd digit (by decide)
    exact ⟨beq_eq_false_iff_ne.2 other, if_neg other⟩

/-- **Reading a numeral** gives the float nearest to its decimal. -/
theorem readNumeral_signed (negative : Bool) :
    readNumeral (n.signed negative) = n.decimal.toFloat negative := by
  obtain ⟨sign, unsigned⟩ := n.unsigned_signed negative
  unfold readNumeral
  simp only [unsigned, sign, takeWhile_chars, drop_chars]
  rfl

end Numeral

/-! ## Writing -/

namespace Decimal

variable (d : Decimal)

theorem isDigit_digitChars {c : Char} (h : c ∈ d.digitChars) : c.isDigit :=
  Nat.isDigit_of_mem_toDigits (by decide) (by decide) h

theorem digitChars_ne_nil : d.digitChars ≠ [] := Nat.toDigits_ne_nil

theorem isDigit_zeros {n : Nat} {c : Char} (h : c ∈ List.replicate n '0') : c.isDigit := by
  rw [List.eq_of_mem_replicate h]
  decide

/-- The decimal that stands behind a text: a numeral that is read as a float nearest to it. -/
def WrittenAs (cs : List Char) : Prop := ∃ n : Numeral, cs = n.chars ∧ n.decimal.nearest = d.nearest

/-- Zeros up to the point. -/
theorem writtenAs_whole (h : 0 ≤ d.exponent) :
    d.WrittenAs (d.digitChars ++ List.replicate d.exponent.toNat '0') := by
  have digits : ∀ c ∈ (d.digitChars ++ List.replicate d.exponent.toNat '0') ++ [], c.isDigit := by
    intro c hc
    rw [List.append_nil] at hc
    rcases List.mem_append.1 hc with hd | hz
    · exact d.isDigit_digitChars hd
    · exact isDigit_zeros hz
  have nonempty : d.digitChars ++ List.replicate d.exponent.toNat '0' ≠ [] :=
    List.append_ne_nil_of_left_ne_nil d.digitChars_ne_nil _
  refine ⟨⟨_, [], nonempty, digits⟩, rfl, ?_⟩
  have value : Nat.ofDigitChars 10 (d.digitChars ++ List.replicate d.exponent.toNat '0' ++ []) 0 =
      d.digits * tenTo d.exponent.toNat := by
    rw [List.append_nil, Nat.ofDigitChars_append, Nat.ofDigitChars_replicate_zero, digitChars,
      Nat.ofDigitChars_ten_toDigits, Nat.mul_comm]
    rfl
  have places : (-d.exponent).toNat = 0 := by omega
  unfold Numeral.decimal nearest num den
  simp only [value, places]
  exact congrArg (Binary64.nearestFraction · _) (Nat.mul_one _)

/-- Digits before and behind a point that have the digits of the decimal and as many places as it has. -/
theorem writtenAs_of_parts {whole fraction : List Char} (h : d.exponent < 0) (nonempty : whole ≠ [])
    (digits : ∀ c ∈ whole ++ fraction, c.isDigit)
    (value : Nat.ofDigitChars 10 (whole ++ fraction) 0 = d.digits)
    (places : fraction.length = (-d.exponent).toNat) : d.WrittenAs (whole ++ '.' :: fraction) := by
  refine ⟨⟨whole, fraction, nonempty, digits⟩, ?_, ?_⟩
  · have some_behind : fraction ≠ [] := by
      intro none
      rw [none, List.length_nil] at places
      omega
    exact (if_neg some_behind).symm
  · -- the numeral has the digits and the exponent of the decimal, so it stands for the decimal itself
    have same : Numeral.decimal ⟨whole, fraction, nonempty, digits⟩ = d := by
      unfold Numeral.decimal
      simp only [value, places]
      rw [Int.toNat_of_nonneg (by omega), Int.neg_neg]
    exact congrArg nearest same

/-- A point among the digits. -/
theorem writtenAs_point (h : d.exponent < 0) (few : (-d.exponent).toNat < d.digitChars.length) :
    d.WrittenAs (d.digitChars.take (d.digitChars.length - (-d.exponent).toNat) ++
      '.' :: d.digitChars.drop (d.digitChars.length - (-d.exponent).toNat)) := by
  have before : d.digitChars.take (d.digitChars.length - (-d.exponent).toNat) ≠ [] := by
    intro none
    have length := congrArg List.length none
    rw [List.length_take, List.length_nil] at length
    omega
  refine d.writtenAs_of_parts h before ?_ ?_ ?_
  · rw [List.take_append_drop]
    exact fun c hc => d.isDigit_digitChars hc
  · rw [List.take_append_drop]
    exact Nat.ofDigitChars_ten_toDigits
  · rw [List.length_drop]
    omega

/-- Zeros behind the point. -/
theorem writtenAs_zeros (h : d.exponent < 0) (many : ¬ (-d.exponent).toNat < d.digitChars.length) :
    d.WrittenAs ('0' :: '.' ::
      (List.replicate ((-d.exponent).toNat - d.digitChars.length) '0' ++ d.digitChars)) := by
  have some_digit : ['0'] ≠ [] := List.cons_ne_nil _ _
  refine d.writtenAs_of_parts h some_digit ?_ ?_ ?_
  · intro c hc
    rcases List.mem_append.1 hc with h0 | hr
    · rw [List.mem_singleton.1 h0]
      decide
    · rcases List.mem_append.1 hr with hz | hd
      · exact isDigit_zeros hz
      · exact d.isDigit_digitChars hd
  · -- zeros in front do not count
    rw [Nat.ofDigitChars_append, Nat.ofDigitChars_append, Nat.ofDigitChars_replicate_zero]
    exact Nat.ofDigitChars_ten_toDigits
  · rw [List.length_append, List.length_replicate]
    omega

/-- **A decimal is written as a numeral** that is read as a float nearest to it. -/
theorem writtenAs_positional : d.WrittenAs d.positional := by
  unfold positional
  dsimp only
  by_cases whole : 0 ≤ d.exponent
  · rw [if_pos whole]
    exact d.writtenAs_whole whole
  · rw [if_neg whole]
    by_cases few : (-d.exponent).toNat < d.digitChars.length
    · rw [if_pos few]
      exact d.writtenAs_point (Int.not_le.1 whole) few
    · rw [if_neg few]
      exact d.writtenAs_zeros (Int.not_le.1 whole) few

end Decimal

/-- A finite float is written with its sign before the digits of its decimal. -/
theorem NumberLayout.writeChars_of_finite {x : Float} (finite : Binary64.isFinite x) :
    scene.writeChars x = if Binary64.isNegative x then '-' :: (decimalOf (Binary64.rank x)).positional
      else (decimalOf (Binary64.rank x)).positional := by
  have below : Binary64.rank x < Binary64.infinityRank := of_decide_eq_true finite
  have magnitude : scene.writeDecimal (decimalOf (Binary64.rank x)) =
      (decimalOf (Binary64.rank x)).positional := by
    rw [writeDecimal, if_pos (show scene.isPositional (decimalOf (Binary64.rank x)).order = true from rfl)]
    split
    · exact List.append_nil _
    · rfl
  rw [writeChars]
  simp only
  rw [if_neg (Nat.not_lt.2 below.le), if_neg below.ne, magnitude]

/-- **A finite float is written as a numeral** that reads back as that float, bit for bit. -/
theorem NumberLayout.exists_numeral {x : Float} (finite : Binary64.isFinite x) :
    ∃ n : Numeral, scene.writeChars x = n.signed (Binary64.isNegative x) ∧
      readNumeral (n.signed (Binary64.isNegative x)) = x := by
  have below : Binary64.rank x < Binary64.infinityRank := of_decide_eq_true finite
  obtain ⟨n, written, reads⟩ := (decimalOf (Binary64.rank x)).writtenAs_positional
  refine ⟨n, ?_, ?_⟩
  · rw [writeChars_of_finite finite, written, Numeral.signed]
  · rw [n.readNumeral_signed, Decimal.toFloat, reads, nearest_decimalOf below, Binary64.ofRank_rank]

end LitSpheres
