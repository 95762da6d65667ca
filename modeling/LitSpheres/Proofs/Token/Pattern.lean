/-
  What each shape of lexemes matches, as a regular expression.

  1. **Program** — a shape takes from the front of a text as many characters as it can, or none.

  2. **Specification** — each shape has a regular expression.  What the shape takes matches it, and no
     piece at the front of the text that matches is longer.

  3. **The crux** — the optional parts: a point belongs to a number only with a digit behind it, a comment
     without a line feed is one only at the end of the text, and a quoted text needs its second quote.
-/
import LitSpheres.Proofs.Token.Scan
import Mathlib.Computability.Language

namespace LitSpheres

open Computability

/-! ## Regular expressions -/

namespace Shape

variable {p : Char → Bool} {c : Char} {cs piece rest : List Char} {s t : Shape}

/-- One character that satisfies the condition. -/
def oneOf (p : Char → Bool) : Language Char := {cs | ∃ c, p c ∧ cs = [c]}

/-- One or more such characters. -/
def someOf (p : Char → Bool) : Language Char := oneOf p * (oneOf p)∗

/-- The regular expression of a shape. -/
def pattern : Shape → Language Char
  | blanks => someOf isBlank
  | comment => {['#']} * (oneOf (· != '\n'))∗ * ({['\n']} + 1)
  | lineEnds => someOf isLineEnd
  | number => ({['-']} + 1) * someOf Char.isDigit * ({['.']} * someOf Char.isDigit + 1)
  | word => someOf Char.isAlpha
  | quoted => {['"']} * (oneOf (· != '"'))∗ * {['"']}
  | mark => oneOf isMark
  | stray => 0

/-- Whether the shape matches a piece of text that has the rest behind it: a comment without a line feed
    matches at the end of the text only. -/
def Matches (s : Shape) (piece rest : List Char) : Prop :=
  piece ∈ s.pattern ∧ (s = comment → rest = [] ∨ piece.getLast? = some '\n')

theorem mem_kstar_oneOf : cs ∈ (oneOf p)∗ ↔ ∀ c ∈ cs, p c := by
  constructor
  · rintro ⟨pieces, rfl, each⟩ c hc
    obtain ⟨piece, hp, hc⟩ := List.mem_flatten.1 hc
    obtain ⟨d, hd, rfl⟩ := each piece hp
    rw [List.mem_singleton.1 hc]
    exact hd
  · intro each
    refine ⟨cs.map fun c => [c], ?_, ?_⟩
    · rw [← List.flatMap_def, List.flatMap_singleton']
    · intro piece hp
      obtain ⟨c, hc, rfl⟩ := List.mem_map.1 hp
      exact ⟨c, each c hc, rfl⟩

theorem mem_someOf : cs ∈ someOf p ↔ cs ≠ [] ∧ ∀ c ∈ cs, p c := by
  constructor
  · rintro ⟨_, ⟨c, hc, rfl⟩, others, ho, rfl⟩
    refine ⟨List.cons_ne_nil _ _, ?_⟩
    intro d hd
    rcases List.mem_cons.1 hd with rfl | hd
    · exact hc
    · exact mem_kstar_oneOf.1 ho d hd
  · rintro ⟨nonempty, each⟩
    obtain ⟨c, others, rfl⟩ := List.exists_cons_of_ne_nil nonempty
    have later : others ∈ (oneOf p)∗ :=
      mem_kstar_oneOf.2 fun d hd => each d (List.mem_cons_of_mem c hd)
    exact ⟨[c], ⟨c, each c List.mem_cons_self, rfl⟩, others, later, rfl⟩

theorem not_mem_iff_bne {d : Char} : d ∉ cs ↔ ∀ c ∈ cs, (c != d) = true := by
  constructor
  · intro h c hc
    refine bne_iff_ne.2 ?_
    rintro rfl
    exact h hc
  · intro h hd
    exact bne_iff_ne.1 (h d hd) rfl

/-- A comment is a number sign and a line, with or without a line feed. -/
theorem mem_pattern_comment :
    piece ∈ pattern comment ↔
      ∃ body, '\n' ∉ body ∧ (piece = '#' :: (body ++ ['\n']) ∨ piece = '#' :: body) := by
  constructor
  · rintro ⟨_, ⟨_, rfl, body, hb, rfl⟩, last, hl, rfl⟩
    refine ⟨body, not_mem_iff_bne.2 (mem_kstar_oneOf.1 hb), ?_⟩
    rcases hl with rfl | rfl
    · exact .inl rfl
    · exact .inr (List.append_nil _)
  · rintro ⟨body, hb, rfl | rfl⟩
    · exact ⟨'#' :: body, ⟨['#'], rfl, body, mem_kstar_oneOf.2 (not_mem_iff_bne.1 hb), rfl⟩, ['\n'],
        .inl rfl, rfl⟩
    · exact ⟨'#' :: body, ⟨['#'], rfl, body, mem_kstar_oneOf.2 (not_mem_iff_bne.1 hb), rfl⟩, [],
        .inr rfl, List.append_nil _⟩

/-- A number is a numeral with or without a sign. -/
theorem mem_pattern_number :
    piece ∈ pattern number ↔ ∃ (n : Numeral) (negative : Bool), piece = n.signed negative := by
  constructor
  · rintro ⟨_, ⟨sign, hs, whole, hw, rfl⟩, behind, hb, rfl⟩
    obtain ⟨nonempty, digits⟩ := mem_someOf.1 hw
    have numeral : ∃ n : Numeral, whole ++ behind = n.chars := by
      rcases hb with ⟨_, rfl, fraction, hf, rfl⟩ | rfl
      · obtain ⟨some_behind, places⟩ := mem_someOf.1 hf
        refine ⟨⟨whole, fraction, nonempty, ?_⟩, (if_neg some_behind).symm⟩
        intro c hc
        rcases List.mem_append.1 hc with hc | hc
        · exact digits c hc
        · exact places c hc
      · exact ⟨⟨whole, [], nonempty, by simpa using digits⟩, List.append_nil _⟩
    obtain ⟨n, hn⟩ := numeral
    rcases hs with rfl | rfl
    · exact ⟨n, true, congrArg ('-' :: ·) hn⟩
    · exact ⟨n, false, hn⟩
  · rintro ⟨n, negative, rfl⟩
    have whole : n.whole ∈ someOf Char.isDigit := mem_someOf.2 ⟨n.whole_ne_nil, fun c hc => n.isDigit_whole hc⟩
    have behind : n.behind ∈ ({['.']} * someOf Char.isDigit + 1 : Language Char) := by
      unfold Numeral.behind
      by_cases hf : n.fraction = []
      · rw [if_pos hf]
        exact .inr rfl
      · rw [if_neg hf]
        exact .inl ⟨['.'], rfl, n.fraction, mem_someOf.2 ⟨hf, fun c hc => n.isDigit_fraction hc⟩, rfl⟩
    cases negative with
    | true =>
      refine ⟨'-' :: n.whole, ⟨['-'], .inl rfl, n.whole, whole, rfl⟩, n.behind, behind, ?_⟩
      exact congrArg ('-' :: ·) n.chars_eq_append.symm
    | false => exact ⟨n.whole, ⟨[], .inr rfl, n.whole, whole, rfl⟩, n.behind, behind, n.chars_eq_append.symm⟩

/-- A numeral has a sign, digits and a point. -/
theorem mem_signed {n : Numeral} {negative : Bool} {c : Char} (h : c ∈ n.signed negative) :
    c = '-' ∨ c = '.' ∨ c.isDigit := by
  have unsigned : c ∈ n.chars → c = '-' ∨ c = '.' ∨ c.isDigit := by
    rw [n.chars_eq_append]
    intro h
    rcases List.mem_append.1 h with h | h
    · exact .inr (.inr (n.isDigit_whole h))
    · unfold Numeral.behind at h
      split at h
      · exact absurd h (by simp)
      · rcases List.mem_cons.1 h with rfl | h
        · exact .inr (.inl rfl)
        · exact .inr (.inr (n.isDigit_fraction h))
  cases negative with
  | true =>
    rcases List.mem_cons.1 h with rfl | h
    · exact .inl rfl
    · exact unsigned h
  | false => exact unsigned h

/-- A quoted text holds no double quote between its own two. -/
theorem mem_pattern_quoted :
    piece ∈ pattern quoted ↔ ∃ inner, '"' ∉ inner ∧ piece = '"' :: (inner ++ ['"']) := by
  constructor
  · rintro ⟨_, ⟨_, rfl, inner, hi, rfl⟩, _, rfl, rfl⟩
    exact ⟨inner, not_mem_iff_bne.2 (mem_kstar_oneOf.1 hi), rfl⟩
  · rintro ⟨inner, hi, rfl⟩
    exact ⟨'"' :: inner, ⟨['"'], rfl, inner, mem_kstar_oneOf.2 (not_mem_iff_bne.1 hi), rfl⟩, ['"'], rfl, rfl⟩

/-! ## One shape alone -/

/-- A run is at least as long as any piece that consists of its characters. -/
theorem length_le_run (h : ∀ c ∈ piece, p c) : piece.length ≤ run p (piece ++ rest) := by
  unfold run
  rw [List.takeWhile_append_of_pos h, List.length_append]
  exact Nat.le_add_right _ _

/-- What a run takes satisfies its condition. -/
theorem of_mem_take_run (h : c ∈ cs.take (run p cs)) : p c := by
  rw [Lexeme.take_run] at h
  exact List.all_eq_true.1 List.all_takeWhile c h

theorem length_take_run (p : Char → Bool) (cs : List Char) : (cs.take (run p cs)).length = run p cs := by
  rw [Lexeme.take_run]
  rfl

theorem take_run_ne_nil (h : run p cs ≠ 0) : cs.take (run p cs) ≠ [] := by
  intro none
  have length := length_take_run p cs
  rw [none] at length
  exact h length.symm

/-- Behind a run the text ends or goes on with a character that it does not take. -/
theorem head?_drop_run : ∀ c ∈ (cs.drop (run p cs)).head?, ¬ p c := by
  intro c hc
  induction cs with
  | nil => exact absurd hc (by simp)
  | cons d ds ih =>
    by_cases hd : p d
    · have longer : run p (d :: ds) = run p ds + 1 := by
        unfold run
        rw [List.takeWhile_cons_of_pos hd]
        rfl
      rw [longer, List.drop_succ_cons] at hc
      exact ih hc
    · have none : run p (d :: ds) = 0 := by
        unfold run
        rw [List.takeWhile_cons_of_neg hd]
        rfl
      rw [none, List.drop_zero] at hc
      obtain rfl : d = c := Option.some.inj hc
      exact hd

/-- A run up to a character ends before the first of them. -/
theorem run_not_mem {d : Char} (h : d ∉ piece) : run (· != d) (piece ++ d :: rest) = piece.length :=
  run_append (not_mem_iff_bne.1 h) (by simp)

theorem run_not_mem_end {d : Char} (h : d ∉ piece) : run (· != d) piece = piece.length := by
  have whole : run (· != d) (piece ++ []) = piece.length := run_append (not_mem_iff_bne.1 h) (by simp)
  rw [List.append_nil] at whole
  exact whole

/-- A run up to a character goes to the first of them or to the end. -/
theorem split_at_run (d : Char) (cs : List Char) :
    ∃ body, d ∉ body ∧ (cs = body ∨ ∃ behind, cs = body ++ d :: behind) := by
  have inside : ∀ c ∈ cs.take (run (· != d) cs), (c != d) = true := by
    intro c hc
    exact of_mem_take_run (p := (· != d)) hc
  have stop : ∀ c ∈ (cs.drop (run (· != d) cs)).head?, ¬ (c != d) = true := head?_drop_run
  have split := List.take_append_drop (run (· != d) cs) cs
  refine ⟨cs.take (run (· != d) cs), not_mem_iff_bne.2 inside, ?_⟩
  cases behind : cs.drop (run (· != d) cs) with
  | nil =>
    rw [behind, List.append_nil] at split
    exact .inl split.symm
  | cons c others =>
    rw [behind] at split stop
    have same : c = d := by simpa using stop c rfl
    subst same
    exact .inr ⟨others, split.symm⟩

theorem reach_comment {body : List Char} (h : '\n' ∉ body) (rest : List Char) :
    comment.reach ('#' :: (body ++ '\n' :: rest)) = body.length + 2 := by
  unfold reach
  simp only [run_not_mem h, List.drop_left, List.isEmpty_cons, Bool.false_eq_true, if_false]
  omega

theorem reach_comment_end {body : List Char} (h : '\n' ∉ body) :
    comment.reach ('#' :: body) = body.length + 1 := by
  unfold reach
  simp only [run_not_mem_end h, List.drop_length, List.isEmpty_nil, if_true]
  omega

theorem reach_quoted {inner : List Char} (h : '"' ∉ inner) (rest : List Char) :
    quoted.reach ('"' :: (inner ++ '"' :: rest)) = inner.length + 2 := by
  unfold reach
  simp only [run_not_mem h, List.drop_left, List.isEmpty_cons, Bool.false_eq_true, if_false]
  omega

theorem reach_quoted_end {inner : List Char} (h : '"' ∉ inner) : quoted.reach ('"' :: inner) = 0 := by
  unfold reach
  simp only [run_not_mem_end h, List.drop_length, List.isEmpty_nil, if_true]

/-- Without a minus the reach of a number is that of its digits. -/
theorem reach_number_cons (h : c ≠ '-') : number.reach (c :: cs) = unsignedReach (c :: cs) := by
  simp [reach, h]

/-- The reach of a numeral without its sign, whatever follows. -/
theorem length_le_unsignedReach (n : Numeral) (rest : List Char) :
    n.chars.length ≤ unsignedReach (n.chars ++ rest) := by
  have whole_pos : n.whole.length ≠ 0 := by simpa using n.whole_ne_nil
  rw [n.chars_eq_append, List.append_assoc]
  by_cases hf : n.fraction = []
  · have none_behind : n.behind = [] := if_pos hf
    have whole : n.whole.length ≤ run Char.isDigit (n.whole ++ rest) :=
      length_le_run fun c hc => n.isDigit_whole hc
    rw [none_behind, List.nil_append, List.append_nil]
    -- a point behind the digits can only make the reach longer
    unfold unsignedReach
    dsimp only
    rw [if_neg (by omega)]
    split
    · split <;> omega
    · exact whole
  · have point : n.behind = '.' :: n.fraction := if_neg hf
    have whole : run Char.isDigit (n.whole ++ '.' :: (n.fraction ++ rest)) = n.whole.length :=
      run_append (fun c hc => n.isDigit_whole hc) (by rintro c ⟨⟩; decide)
    have places : n.fraction.length ≤ run Char.isDigit (n.fraction ++ rest) :=
      length_le_run fun c hc => n.isDigit_fraction hc
    have places_pos : n.fraction.length ≠ 0 := by simpa using hf
    rw [point, List.cons_append]
    unfold unsignedReach
    simp only [whole, if_neg whole_pos, List.drop_left, List.length_append, List.length_cons]
    rw [if_neg (by omega)]
    omega

/-- What the reach of digits covers is a numeral. -/
theorem exists_numeral_of_unsignedReach (h : unsignedReach cs ≠ 0) :
    ∃ n : Numeral, ∃ rest, cs = n.chars ++ rest ∧ n.chars.length = unsignedReach cs := by
  have split := List.take_append_drop (run Char.isDigit cs) cs
  have length := length_take_run Char.isDigit cs
  have digits : ∀ c ∈ cs.take (run Char.isDigit cs), c.isDigit := fun c hc => of_mem_take_run hc
  have some_digits : run Char.isDigit cs ≠ 0 := by
    intro none
    unfold unsignedReach at h
    simp only [none, if_true] at h
    exact h rfl
  have nonempty := take_run_ne_nil some_digits
  have whole : ∃ n : Numeral, ∃ rest, cs = n.chars ++ rest ∧ n.chars.length = run Char.isDigit cs :=
    ⟨⟨_, [], nonempty, by simpa using digits⟩, _, split.symm, length⟩
  unfold unsignedReach
  dsimp only
  rw [if_neg some_digits]
  split
  · next fraction point =>
    by_cases places : run Char.isDigit fraction = 0
    · rw [if_pos places]
      exact whole
    · rw [if_neg places]
      have some_behind := take_run_ne_nil places
      have behind : ∀ c ∈ fraction.take (run Char.isDigit fraction), c.isDigit := fun c hc => of_mem_take_run hc
      have all := List.forall_mem_append.2 ⟨digits, behind⟩
      have chars : Numeral.chars ⟨_, _, nonempty, all⟩ =
          cs.take (run Char.isDigit cs) ++ '.' :: fraction.take (run Char.isDigit fraction) :=
        if_neg some_behind
      refine ⟨⟨_, _, nonempty, all⟩, fraction.drop (run Char.isDigit fraction), ?_, ?_⟩
      · rw [chars, List.append_assoc, List.cons_append, List.take_append_drop, ← point]
        exact split.symm
      · rw [chars, List.length_append, List.length_cons, length, length_take_run]
        omega
  · exact whole

/-- **Nothing that matches is longer** than what the shape takes, and it is not empty. -/
theorem le_reach_of_matches (h : s.Matches piece rest) :
    piece ≠ [] ∧ piece.length ≤ s.reach (piece ++ rest) := by
  obtain ⟨mem, ends⟩ := h
  cases s with
  | blanks =>
    obtain ⟨nonempty, all⟩ := mem_someOf.1 mem
    exact ⟨nonempty, length_le_run all⟩
  | comment =>
    obtain ⟨body, hb, rfl | rfl⟩ := mem_pattern_comment.1 mem
    · refine ⟨List.cons_ne_nil _ _, ?_⟩
      rw [List.cons_append, List.append_assoc, List.singleton_append, reach_comment hb]
      simp
    · refine ⟨List.cons_ne_nil _ _, ?_⟩
      -- without a line feed it is the end of the text
      have last : rest = [] := by
        rcases ends rfl with last | feed
        · exact last
        · have inside := List.mem_of_getLast? feed
          exact absurd inside (by simpa using hb)
      rw [last, List.append_nil, reach_comment_end hb]
      exact Nat.le_refl _
  | lineEnds =>
    obtain ⟨nonempty, all⟩ := mem_someOf.1 mem
    exact ⟨nonempty, length_le_run all⟩
  | number =>
    obtain ⟨n, negative, rfl⟩ := mem_pattern_number.1 mem
    obtain ⟨c, cs, hc, digit⟩ := n.exists_chars_eq_cons
    have unsigned := length_le_unsignedReach n rest
    have positive : n.chars.length ≠ 0 := by
      rw [hc]
      exact Nat.succ_ne_zero _
    cases negative with
    | true =>
      refine ⟨List.cons_ne_nil _ _, ?_⟩
      show n.chars.length + 1 ≤
        if unsignedReach (n.chars ++ rest) = 0 then 0 else 1 + unsignedReach (n.chars ++ rest)
      rw [if_neg (by omega)]
      omega
    | false =>
      have other : c ≠ '-' := by
        rintro rfl
        exact absurd digit (by decide)
      show n.chars ≠ [] ∧ n.chars.length ≤ number.reach (n.chars ++ rest)
      rw [hc] at unsigned positive ⊢
      rw [List.cons_append, reach_number_cons other]
      exact ⟨List.cons_ne_nil _ _, unsigned⟩
  | word =>
    obtain ⟨nonempty, all⟩ := mem_someOf.1 mem
    exact ⟨nonempty, length_le_run all⟩
  | quoted =>
    obtain ⟨inner, hi, rfl⟩ := mem_pattern_quoted.1 mem
    refine ⟨List.cons_ne_nil _ _, ?_⟩
    rw [List.cons_append, List.append_assoc, List.singleton_append, reach_quoted hi]
    simp
  | mark =>
    obtain ⟨c, hc, rfl⟩ := mem
    refine ⟨List.cons_ne_nil _ _, ?_⟩
    show 1 ≤ if isMark c then 1 else 0
    rw [if_pos hc]
  | stray => exact absurd mem (Language.notMem_zero _)

/-- The shape takes a piece from the front of the text that matches. -/
def TakesMatch (s : Shape) (cs : List Char) : Prop :=
  ∃ piece rest, cs = piece ++ rest ∧ piece.length = s.reach cs ∧ s.Matches piece rest

/-- What a run takes matches one or more of its characters. -/
theorem takesMatch_run (hs : s.reach cs = run p cs) (hp : s.pattern = someOf p) (plain : s ≠ comment)
    (h : s.reach cs ≠ 0) : s.TakesMatch cs := by
  have nonempty : cs.take (run p cs) ≠ [] := take_run_ne_nil (hs ▸ h)
  have length : (cs.take (run p cs)).length = s.reach cs := (length_take_run p cs).trans hs.symm
  refine ⟨cs.take (run p cs), cs.drop (run p cs), (List.take_append_drop _ _).symm, length, ?_, ?_⟩
  · rw [hp]
    exact mem_someOf.2 ⟨nonempty, fun c hc => of_mem_take_run hc⟩
  · intro same
    exact absurd same plain

/-- **What a shape takes matches.** -/
theorem takesMatch_of_reach (hs : s ≠ stray) (h : s.reach (c :: cs) ≠ 0) : s.TakesMatch (c :: cs) := by
  have first := starts_of_reach h
  cases s with
  | blanks => exact takesMatch_run rfl rfl (by decide) h
  | comment =>
    obtain rfl : c = '#' := Char.toNat_inj.1 first
    obtain ⟨body, hb, rfl | ⟨behind, rfl⟩⟩ := split_at_run '\n' cs
    · refine ⟨'#' :: cs, [], (List.append_nil _).symm, (reach_comment_end hb).symm, ?_, fun _ => .inl rfl⟩
      exact mem_pattern_comment.2 ⟨cs, hb, .inr rfl⟩
    · refine ⟨'#' :: (body ++ ['\n']), behind, by simp, by simp [reach_comment hb], ?_, fun _ => .inr ?_⟩
      · exact mem_pattern_comment.2 ⟨body, hb, .inl rfl⟩
      · rw [← List.cons_append, List.getLast?_concat]
  | lineEnds => exact takesMatch_run rfl rfl (by decide) h
  | number =>
    by_cases hc : c = '-'
    · subst hc
      have digits : unsignedReach cs ≠ 0 := by
        intro none
        have nothing : number.reach ('-' :: cs) = 0 := if_pos none
        exact h nothing
      obtain ⟨n, rest, split, length⟩ := exists_numeral_of_unsignedReach digits
      have reach : number.reach ('-' :: cs) = 1 + unsignedReach cs := if_neg digits
      refine ⟨n.signed true, rest, congrArg ('-' :: ·) split, ?_, mem_pattern_number.2 ⟨n, true, rfl⟩, nofun⟩
      rw [reach, ← length]
      exact Nat.add_comm _ _
    · rw [reach_number_cons hc] at h
      obtain ⟨n, rest, split, length⟩ := exists_numeral_of_unsignedReach h
      exact ⟨n.signed false, rest, split, length.trans (reach_number_cons hc).symm,
        mem_pattern_number.2 ⟨n, false, rfl⟩, nofun⟩
  | word => exact takesMatch_run rfl rfl (by decide) h
  | quoted =>
    obtain rfl : c = '"' := Char.toNat_inj.1 first
    obtain ⟨inner, hi, rfl | ⟨behind, rfl⟩⟩ := split_at_run '"' cs
    · exact absurd (reach_quoted_end hi) h
    · refine ⟨'"' :: (inner ++ ['"']), behind, by simp, by simp [reach_quoted hi], ?_, nofun⟩
      exact mem_pattern_quoted.2 ⟨inner, hi, rfl⟩
  | mark =>
    have hc : isMark c := by
      by_cases hc : isMark c
      · exact hc
      · have nothing : mark.reach (c :: cs) = 0 := if_neg hc
        exact absurd nothing h
    have reach : mark.reach (c :: cs) = 1 := if_pos hc
    exact ⟨[c], cs, rfl, reach.symm, ⟨c, hc, rfl⟩, nofun⟩
  | stray => exact absurd rfl hs

end Shape
end LitSpheres
