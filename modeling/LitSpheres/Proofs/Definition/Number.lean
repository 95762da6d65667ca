/-
  Numbers and the texts that are written for them.

  1. **Program** — a finite float is written positionally with its shortest digits, and refused if it is not
     finite; a text that is a numeral from its first character to its last is scanned as one number.

  2. **Specification** — the text of a finite float is a numeral without zeros at the end of its places.  Alone
     it is scanned as one number, which is the float bit for bit; no decimal with fewer significant digits is
     read as that float, and no other float has the same text.

  3. **The crux** — reading undoes writing, which separates the texts of different floats by itself.  What is
     written has the significant digits of the shortest decimal, and no other decimal has fewer.
-/
import LitSpheres.Definition.Written
import LitSpheres.Proofs.Binary64.Whole
import LitSpheres.Proofs.Decimal.Significant
import LitSpheres.Proofs.Token.Replace

namespace LitSpheres

open Binary64

variable {x : Float} {cs : List Char} {d : Decimal}

/-! ## Reading -/

theorem Decimal.nearest_le (d : Decimal) : d.nearest ≤ infinityRank := by
  rw [Decimal.nearest, nearestFraction]
  split
  · exact Nat.zero_le _
  · exact Nat.min_le_left _ _

/-- A decimal that is read as a finite float is rounded to its rank. -/
theorem Decimal.nearest_of_toFloat {negative : Bool} (finite : isFinite x) (h : d.toFloat negative = x) :
    d.nearest = rank x := by
  subst h
  rw [Decimal.toFloat] at *
  rcases Nat.lt_or_eq_of_le d.nearest_le with below | infinite
  · exact (rank_ofRank below).symm
  · -- what is rounded to infinity is read as an infinity
    rw [infinite] at finite
    cases negative <;> exact absurd finite (by decide +kernel)

/-- **A numeral alone** is one number. -/
theorem tokenize_numeral (h : cs ∈ Shape.number.pattern) :
    tokenize cs = [{ kind := .number, value := .number (readNumeral cs) }] := by
  have matched : Shape.number.Matches cs [] := ⟨h, nofun⟩
  obtain ⟨nonempty, -⟩ := Shape.le_reach_of_matches matched
  have longest : Lexeme.Longest { shape := .number, chars := cs } [] := by
    refine Lexeme.longest_of_matches matched ?_
    obtain ⟨c, others, rfl⟩ := List.exists_cons_of_ne_nil nonempty
    have reach := Shape.reach_ne_zero_of_matches matched
    rw [List.append_nil] at reach ⊢
    obtain ⟨piece, behind, split, length, -⟩ := Shape.takesMatch_of_reach (by decide) reach
    rw [← length, split, List.length_append]
    exact Nat.le_add_right _ _
  have scanned := longest.scan_append nonempty {}
  rw [List.append_nil, scan_nil, List.append_nil] at scanned
  rw [tokenize_eq_scan, scanned]
  rfl

/-! ## Writing -/

namespace NumberLayout

theorem mem_pattern_writeChars (finite : isFinite x) : scene.writeChars x ∈ Shape.number.pattern := by
  obtain ⟨n, written, -⟩ := exists_numeral finite
  rw [written]
  exact Shape.mem_pattern_number.2 ⟨n, _, rfl⟩

theorem readNumeral_writeChars (finite : isFinite x) : readNumeral (scene.writeChars x) = x := by
  obtain ⟨n, written, reads⟩ := exists_numeral finite
  rw [written, reads]

/-- The sign is not significant. -/
theorem significant_writeChars (finite : isFinite x) :
    significant (scene.writeChars x) = significant (decimalOf (rank x)).digitChars := by
  rw [writeChars_of_finite finite]
  split
  · exact (significant_insert [] _ (by decide)).trans (Decimal.significant_positional _)
  · exact Decimal.significant_positional _

theorem getLast?_writeChars_ne (finite : isFinite x) (point : '.' ∈ scene.writeChars x) :
    (scene.writeChars x).getLast? ≠ some '0' := by
  have below : rank x < infinityRank := of_decide_eq_true finite
  rw [writeChars_of_finite finite] at point ⊢
  split at point
  · next negative =>
    have point' : '.' ∈ (decimalOf (rank x)).positional := (List.mem_cons.1 point).resolve_left (by decide)
    rw [if_pos negative, List.getLast?_cons_of_ne_nil (List.ne_nil_of_mem point')]
    exact getLast?_positional_ne below point'
  · next positive =>
    rw [if_neg positive]
    exact getLast?_positional_ne below point

end NumberLayout

/-- **A number and its text agree.**  A finite float has a text, which is a numeral and ends in no zero behind
    a point.  The text is scanned as one number and nothing else, and this number is the float.  A decimal that
    is read as the float, with whatever exponent, has no fewer significant digits than the text; and a float of
    other bits has another text or none.  What is not finite has none. -/
theorem writeNumber_tokenize_shortest (x : Float) :
    (isFinite x → ∃ text, writeNumber x = .ok text ∧
      text.toList ∈ Shape.number.pattern ∧
      ('.' ∈ text.toList → text.toList.getLast? ≠ some '0') ∧
      tokenize text.toList = [{ kind := .number, value := .number x }] ∧
      (∀ (negative : Bool) (d : Decimal), d.toFloat negative = x →
        (significant text.toList).length ≤ (significant d.digitChars).length) ∧
      ∀ y : Float, y.toBits ≠ x.toBits → writeNumber y ≠ .ok text) ∧
    (¬ isFinite x → writeNumber x = .error (.nonFinite x)) := by
  refine ⟨fun finite => ?_, fun infinite => if_neg infinite⟩
  have below : rank x < infinityRank := of_decide_eq_true finite
  have chars : (NumberLayout.scene.write x).toList = NumberLayout.scene.writeChars x := String.toList_ofList
  refine ⟨NumberLayout.scene.write x, if_pos finite, ?_⟩
  rw [chars]
  refine ⟨NumberLayout.mem_pattern_writeChars finite, NumberLayout.getLast?_writeChars_ne finite, ?_, ?_, ?_⟩
  · rw [tokenize_numeral (NumberLayout.mem_pattern_writeChars finite), NumberLayout.readNumeral_writeChars finite]
  · intro negative d reads
    rw [NumberLayout.significant_writeChars finite]
    exact NumberLayout.length_significant_le below (Decimal.nearest_of_toFloat finite reads)
  · intro y other same
    rw [writeNumber] at same
    split at same
    · next finite' =>
      -- a text that two floats share is read as both of them
      have shared : NumberLayout.scene.writeChars y = NumberLayout.scene.writeChars x :=
        String.ofList_injective (Except.ok.inj same)
      have equal : y = x := by
        rw [← NumberLayout.readNumeral_writeChars finite', shared, NumberLayout.readNumeral_writeChars finite]
      exact other (congrArg Float.toBits equal)
    · cases same

/-- The sum of a tenth and two tenths needs all of its seventeen digits.  A decimal of nineteen digits is read
    as the same sum, three tenths have another text, and minus infinity has none. -/
theorem writeNumber_tokenize_tenths :
    let x : Float := 0.1 + 0.2
    isFinite x ∧ writeNumber x = .ok "0.30000000000000004" ∧
      '.' ∈ "0.30000000000000004".toList ∧ "0.30000000000000004".toList.getLast? ≠ some '0' ∧
      tokenize "0.30000000000000004".toList = [{ kind := .number, value := .number x }] ∧
      (significant "0.30000000000000004".toList).length = 17 ∧
      (Decimal.mk 3000000000000000444 (-19)).toFloat false = x ∧
      17 ≤ (significant (Decimal.mk 3000000000000000444 (-19)).digitChars).length ∧
      (0.3 : Float).toBits ≠ x.toBits ∧ writeNumber 0.3 ≠ .ok "0.30000000000000004" ∧
      ¬ isFinite (-1 / 0 : Float) ∧ writeNumber (-1 / 0) = .error (.nonFinite (-1 / 0)) := by
  have finite : isFinite (0.1 + 0.2) = true := by decide +kernel
  have infinite : ¬ isFinite (-1 / 0 : Float) = true := by decide +kernel
  have chars : NumberLayout.scene.write (0.1 + 0.2) = "0.30000000000000004" := by decide +kernel
  have reads : (Decimal.mk 3000000000000000444 (-19)).toFloat false = 0.1 + 0.2 := by decide +kernel
  have other : (0.3 : Float).toBits ≠ (0.1 + 0.2 : Float).toBits := by decide +kernel
  have point : '.' ∈ "0.30000000000000004".toList := by decide
  obtain ⟨text, written, -, ends, scanned, fewest, apart⟩ := (writeNumber_tokenize_shortest (0.1 + 0.2)).1 finite
  obtain rfl : "0.30000000000000004" = text := by
    rw [writeNumber, if_pos finite, chars] at written
    exact Except.ok.inj written
  exact ⟨finite, written, point, ends point, scanned, by decide, reads, fewest false _ reads, other,
    apart _ other, infinite, (writeNumber_tokenize_shortest (-1 / 0)).2 infinite⟩

end LitSpheres
