/-
  The significant digits of a text.

  1. **Program** — a decimal is written by its digits, filled up with zeros to the decimal point, and with a
     point among them or before them where it has places behind it.

  2. **Specification** — sign, point and the zeros at both ends left out, the text has the digits of the
     decimal, those left out in the same way; and where there is a point the last of them ends the text.

  3. **The crux** — a positive number has no zero in front, and one at its end exactly if it is a multiple of
     ten.  So only zeros at the end are lost, and those are the ones that the shortest decimal does not have.
-/
import Mathlib.Data.List.DropRight
import LitSpheres.Proofs.Decimal.Fewest
import LitSpheres.Proofs.Decimal.Numeral

namespace LitSpheres

/-- The significant digits of a number's text: its digits from the first to the last that is no zero. -/
def significant (cs : List Char) : List Char :=
  ((cs.filter Char.isDigit).dropWhile (· == '0')).rdropWhile (· == '0')

example : significant "-0.02050".toList = "205".toList := by decide

/-! ## Zeros at both ends -/

theorem dropWhile_zeros_append (n : Nat) (cs : List Char) :
    (List.replicate n '0' ++ cs).dropWhile (· == '0') = cs.dropWhile (· == '0') :=
  List.dropWhile_append_of_pos fun _ hc => beq_iff_eq.2 (List.eq_of_mem_replicate hc)

theorem rdropWhile_append_zeros (n : Nat) (cs : List Char) :
    (cs ++ List.replicate n '0').rdropWhile (· == '0') = cs.rdropWhile (· == '0') := by
  rw [← List.reverse_reverse (cs ++ List.replicate n '0'), List.rdropWhile_reverse, List.reverse_append,
    List.reverse_replicate, dropWhile_zeros_append, ← List.rdropWhile_reverse, List.reverse_reverse]

/-- Zeros in front are not significant. -/
theorem significant_zeros_append (n : Nat) (cs : List Char) :
    significant (List.replicate n '0' ++ cs) = significant cs := by
  rw [significant, List.filter_append, List.filter_replicate_of_pos rfl, dropWhile_zeros_append, significant]

/-- Zeros at the end are not significant. -/
theorem significant_append_zeros (n : Nat) (cs : List Char) :
    significant (cs ++ List.replicate n '0') = significant cs := by
  rw [significant, List.filter_append, List.filter_replicate_of_pos rfl, List.dropWhile_append]
  split
  · next empty =>
    have none := dropWhile_zeros_append n []
    rw [List.append_nil, List.dropWhile_nil] at none
    rw [none, significant, List.isEmpty_iff.1 empty]
  · rw [rdropWhile_append_zeros, significant]

/-- What is no digit is not significant. -/
theorem significant_insert (front back : List Char) {c : Char} (h : ¬ c.isDigit) :
    significant (front ++ c :: back) = significant (front ++ back) := by
  rw [significant, significant, List.filter_append, List.filter_cons_of_neg h, List.filter_append]

/-! ## The digits of a number -/

theorem getLast?_toDigits (n : Nat) : (Nat.toDigits 10 n).getLast? = some (Nat.digitChar (n % 10)) := by
  rw [Nat.toDigits_eq_if (by decide)]
  split
  · next small => rw [Nat.mod_eq_of_lt small, List.getLast?_singleton]
  · rw [List.getLast?_concat]

/-- A positive number has no zero in front. -/
theorem head?_toDigits {n : Nat} (h : 0 < n) : (Nat.toDigits 10 n).head? ≠ some '0' := by
  induction n using Nat.strong_induction_on with
  | _ n ih =>
    rw [Nat.toDigits_eq_if (by decide)]
    split
    · intro zero
      exact h.ne' (Nat.digitChar_eq_zero.1 (Option.some.inj zero))
    · next large =>
      rw [List.head?_append_of_ne_nil _ Nat.toDigits_ne_nil]
      exact ih (n / 10) (by omega) (by omega)

/-- A number that is no multiple of ten has only significant digits. -/
theorem significant_toDigits {n : Nat} (h : n % 10 ≠ 0) :
    significant (Nat.toDigits 10 n) = Nat.toDigits 10 n := by
  have digits : (Nat.toDigits 10 n).filter Char.isDigit = Nat.toDigits 10 n :=
    List.filter_eq_self.2 fun c hc => Nat.isDigit_of_mem_toDigits (by decide) (by decide) hc
  have front : (Nat.toDigits 10 n).dropWhile (· == '0') = Nat.toDigits 10 n := by
    have first := head?_toDigits (show 0 < n by omega)
    cases hd : Nat.toDigits 10 n with
    | nil => rfl
    | cons c cs =>
      rw [hd] at first
      exact List.dropWhile_cons_of_neg fun zero => first (congrArg some (eq_of_beq zero))
  rw [significant, digits, front, List.rdropWhile_eq_self_iff]
  intro nonempty zero
  have last := getLast?_toDigits n
  rw [List.getLast?_eq_some_getLast nonempty] at last
  exact h (Nat.digitChar_eq_zero.1 ((Option.some.inj last).symm.trans (eq_of_beq zero)))

namespace Decimal

variable {d : Decimal}

/-- **The significant digits of a decimal** are those that are left without the zeros at its end. -/
theorem significant_digitChars (h : 0 < d.digits) : significant d.digitChars = d.reduced.digitChars := by
  fun_induction reduced d with
  | case1 d zero => exact absurd zero h.ne'
  | case2 d _ zero ih =>
    have split : d.digitChars = digitChars ⟨d.digits / 10, d.exponent + 1⟩ ++ List.replicate 1 '0' := by
      rw [digitChars, Nat.toDigits_of_base_le (by decide) (by omega), zero]
      rfl
    rw [split, significant_append_zeros, ih (show 0 < d.digits / 10 by omega)]
  | case3 d _ other => exact significant_toDigits other

/-- **Filling up with zeros** and setting a point leave the significant digits as they are. -/
theorem significant_positional (d : Decimal) : significant d.positional = significant d.digitChars := by
  rw [positional]
  by_cases whole : 0 ≤ d.exponent
  · rw [if_pos whole, significant_append_zeros]
  · rw [if_neg whole]
    by_cases few : (-d.exponent).toNat < d.digitChars.length
    · rw [if_pos few, significant_insert _ _ (by decide), List.take_append_drop]
    · have zero : '0' :: '.' :: (List.replicate ((-d.exponent).toNat - d.digitChars.length) '0' ++ d.digitChars) =
          List.replicate 1 '0' ++ '.' ::
            (List.replicate ((-d.exponent).toNat - d.digitChars.length) '0' ++ d.digitChars) := rfl
      rw [if_neg few, zero, significant_insert _ _ (by decide), significant_zeros_append,
        significant_zeros_append]

/-- A whole number is written without a point. -/
theorem not_mem_positional (h : 0 ≤ d.exponent) : '.' ∉ d.positional := by
  rw [positional, if_pos h]
  intro point
  rcases List.mem_append.1 point with digit | zero
  · exact absurd (d.isDigit_digitChars digit) (by decide)
  · exact absurd (List.eq_of_mem_replicate zero) (by decide)

/-- Behind a point the text ends in the last digit. -/
theorem getLast?_positional (h : d.exponent < 0) : d.positional.getLast? = d.digitChars.getLast? := by
  rw [positional, if_neg (Int.not_le.2 h)]
  by_cases few : (-d.exponent).toNat < d.digitChars.length
  · have behind : d.digitChars.drop (d.digitChars.length - (-d.exponent).toNat) ≠ [] := by
      rw [← List.length_pos_iff, List.length_drop]
      omega
    rw [if_pos few, List.getLast?_append_cons, List.getLast?_cons_of_ne_nil behind, List.getLast?_drop,
      if_neg (by omega)]
  · have digits : List.replicate ((-d.exponent).toNat - d.digitChars.length) '0' ++ d.digitChars ≠ [] :=
      List.append_ne_nil_of_right_ne_nil _ d.digitChars_ne_nil
    rw [if_neg few, List.getLast?_cons_cons, List.getLast?_cons_of_ne_nil digits,
      List.getLast?_append_of_ne_nil _ d.digitChars_ne_nil]

end Decimal

/-! ## The decimal of a float -/

namespace NumberLayout

variable {rank : Nat} {d : Decimal}

/-- **No decimal with fewer significant digits** reads back as the float. -/
theorem length_significant_le (finite : rank < Binary64.infinityRank) (reads : d.nearest = rank) :
    (significant (decimalOf rank).digitChars).length ≤ (significant d.digitChars).length := by
  rw [decimalOf]
  by_cases zero : rank = 0
  · -- zero has no significant digits
    rw [if_pos zero, show significant (Decimal.mk 0 0).digitChars = [] by decide]
    exact Nat.zero_le _
  · have positive : 0 < rank := Nat.pos_of_ne_zero zero
    have shortest := Binary64.shortest_isShortest positive finite
    have digits : 0 < d.digits := Decimal.digits_pos (reads ▸ positive)
    have reads' : d.reduced.nearest = rank := (Decimal.nearest_reduced digits).trans reads
    rw [if_neg zero, Decimal.significant_digitChars digits,
      show significant (Binary64.shortest rank).digitChars = _ from significant_toDigits shortest.last]
    exact shortest.fewest _ reads'

/-- What is written of a float's decimal behind a point does not end in a zero. -/
theorem getLast?_positional_ne (finite : rank < Binary64.infinityRank)
    (point : '.' ∈ (decimalOf rank).positional) : (decimalOf rank).positional.getLast? ≠ some '0' := by
  have places : (decimalOf rank).exponent < 0 := by
    by_contra whole
    exact Decimal.not_mem_positional (Int.not_lt.1 whole) point
  rw [Decimal.getLast?_positional places, Decimal.digitChars, getLast?_toDigits]
  rw [decimalOf] at places ⊢
  by_cases zero : rank = 0
  · rw [if_pos zero] at places
    exact absurd places (by decide)
  · rw [if_neg zero]
    have shortest := Binary64.shortest_isShortest (Nat.pos_of_ne_zero zero) finite
    exact fun last => shortest.last (Nat.digitChar_eq_zero.1 (Option.some.inj last))

end NumberLayout
end LitSpheres
