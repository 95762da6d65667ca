/-
  The lexemes of a text are its longest matches.

  1. **Program** — at each position the shapes are tried in a fixed order, and each takes as many characters
     as it can; where none takes any, one stray character is a lexeme of its own.

  2. **Specification** — a lexeme is the longest piece of text at its start that matches any of the shapes,
     or one character where none matches; the lexemes are not empty, and put together they are the
     text.  Each of them but the blanks stands for one token.

  3. **The crux** — no character starts two shapes, so what holds for the shape that takes something holds
     for all of them together.
-/
import LitSpheres.Proofs.Token.Pattern

namespace LitSpheres

open Text (Place)

namespace Shape

variable {p : Char → Bool} {c : Char} {cs piece rest : List Char} {s t : Shape}

/-! ## At most one shape -/

/-- A shape that matches is one that reaches. -/
theorem reach_ne_zero_of_matches (h : s.Matches piece rest) : s.reach (piece ++ rest) ≠ 0 := by
  obtain ⟨nonempty, le⟩ := le_reach_of_matches h
  have positive := List.length_pos_of_ne_nil nonempty
  omega

theorem ne_stray_of_matches (h : s.Matches piece rest) : s ≠ stray := by
  rintro rfl
  exact Language.notMem_zero _ h.1

/-- **At most one shape** matches at the front of a text. -/
theorem eq_of_matches {others behind : List Char} (h : s.Matches piece rest) (h' : t.Matches others behind)
    (same : piece ++ rest = others ++ behind) : s = t := by
  obtain ⟨c, cs, rfl⟩ := List.exists_cons_of_ne_nil (le_reach_of_matches h).1
  have here := reach_ne_zero_of_matches h
  have there := reach_ne_zero_of_matches h'
  rw [← same] at there
  exact starts_unique (ne_stray_of_matches h) (ne_stray_of_matches h') (starts_of_reach here)
    (starts_of_reach there)

/-! ## Characters that may stray -/

/-- The characters that scene text is made of. -/
def alphabet (c : Char) : Bool :=
  isBlank c || isLineEnd c || c.isDigit || c.isAlpha || isMark c || c ∈ ['#', '"', '-', '.']

/-- Whether no lexeme can start with the character when the rest stands behind it. -/
def Strays (c : Char) (rest : List Char) : Prop :=
  alphabet c = false ∨ c = '.' ∨ (c = '-' ∧ ∀ d ∈ rest.head?, ¬ d.isDigit) ∨ (c = '"' ∧ '"' ∉ rest)

/-- A single digit is a numeral. -/
def digitNumeral (h : c.isDigit) : Numeral where
  whole := [c]
  fraction := []
  whole_ne_nil := List.cons_ne_nil _ _
  isDigit := by simpa using h

theorem someOf_singleton (h : p c) : [c] ∈ someOf p :=
  mem_someOf.2 ⟨List.cons_ne_nil _ _, by simpa using h⟩

/-- A character that does not stray starts a match. -/
theorem exists_matches_of_not_strays (h : ¬ Strays c rest) :
    ∃ s piece behind, c :: rest = piece ++ behind ∧ Matches s piece behind := by
  simp only [Strays, not_or, not_and, not_forall, Bool.not_eq_false] at h
  obtain ⟨known, point, sign, quote⟩ := h
  simp only [alphabet, Bool.or_eq_true, List.mem_cons, List.not_mem_nil, or_false, decide_eq_true_eq] at known
  rcases known with ((((blank | lineEnd) | digit) | letter) | punctuation) | rfl | rfl | rfl | rfl
  · exact ⟨blanks, [c], rest, rfl, someOf_singleton blank, nofun⟩
  · exact ⟨lineEnds, [c], rest, rfl, someOf_singleton lineEnd, nofun⟩
  · exact ⟨number, [c], rest, rfl, mem_pattern_number.2 ⟨digitNumeral digit, false, rfl⟩, nofun⟩
  · exact ⟨word, [c], rest, rfl, someOf_singleton letter, nofun⟩
  · exact ⟨mark, [c], rest, rfl, ⟨c, punctuation, rfl⟩, nofun⟩
  · obtain ⟨body, hb, rfl | ⟨behind, rfl⟩⟩ := split_at_run '\n' rest
    · exact ⟨comment, '#' :: rest, [], by simp, mem_pattern_comment.2 ⟨rest, hb, .inr rfl⟩, fun _ => .inl rfl⟩
    · refine ⟨comment, '#' :: (body ++ ['\n']), behind, by simp, mem_pattern_comment.2 ⟨body, hb, .inl rfl⟩,
        fun _ => .inr ?_⟩
      rw [← List.cons_append, List.getLast?_concat]
  · have closed : '"' ∈ rest := not_not.1 (quote rfl)
    obtain ⟨inner, hi, rfl | ⟨behind, rfl⟩⟩ := split_at_run '"' rest
    · exact absurd closed hi
    · exact ⟨quoted, '"' :: (inner ++ ['"']), behind, by simp, mem_pattern_quoted.2 ⟨inner, hi, rfl⟩, nofun⟩
  · obtain ⟨d, hd, digit⟩ := sign rfl
    obtain ⟨behind, rfl⟩ := List.head?_eq_some_iff.1 hd
    have numeral : ['-', d] ∈ pattern number := mem_pattern_number.2 ⟨digitNumeral (not_not.1 digit), true, rfl⟩
    exact ⟨number, ['-', d], behind, rfl, numeral, nofun⟩
  · exact absurd rfl point

/-- How a match can begin: with which character, and what has to stand behind it. -/
inductive Begins (c : Char) (rest : List Char) : Prop
  | blank (h : isBlank c)
  | lineEnd (h : isLineEnd c)
  | digit (h : c.isDigit)
  | letter (h : c.isAlpha)
  | mark (h : isMark c)
  | comment (h : c = '#')
  | minus (h : c = '-') (d : Char) (next : d ∈ rest.head?) (digit : d.isDigit)
  | quote (h : c = '"') (closed : '"' ∈ rest)

/-- Every match begins in one of these ways. -/
theorem begins_of_matches {behind : List Char} (h : s.Matches (c :: cs) behind) : Begins c (cs ++ behind) := by
  obtain ⟨mem, -⟩ := h
  cases s with
  | blanks => exact .blank ((mem_someOf.1 mem).2 c List.mem_cons_self)
  | comment =>
    obtain ⟨body, -, whole | whole⟩ := mem_pattern_comment.1 mem
    · exact .comment (List.cons.inj whole).1
    · exact .comment (List.cons.inj whole).1
  | lineEnds => exact .lineEnd ((mem_someOf.1 mem).2 c List.mem_cons_self)
  | number =>
    obtain ⟨n, negative, whole⟩ := mem_pattern_number.1 mem
    obtain ⟨d, ds, hd, digit⟩ := n.exists_chars_eq_cons
    cases negative with
    | true =>
      obtain ⟨rfl, rfl⟩ := List.cons.inj (whole : c :: cs = '-' :: n.chars)
      rw [hd]
      exact .minus rfl d rfl digit
    | false =>
      obtain ⟨rfl, -⟩ := List.cons.inj ((whole : c :: cs = n.chars).trans hd)
      exact .digit digit
  | word => exact .letter ((mem_someOf.1 mem).2 c List.mem_cons_self)
  | quoted =>
    obtain ⟨inner, -, whole⟩ := mem_pattern_quoted.1 mem
    obtain ⟨rfl, rfl⟩ := List.cons.inj whole
    exact .quote rfl (by simp)
  | mark =>
    obtain ⟨d, hd, whole⟩ := mem
    obtain ⟨rfl, -⟩ := List.cons.inj whole
    exact .mark hd
  | stray => exact absurd mem (Language.notMem_zero _)

/-- A character that strays begins nothing. -/
theorem not_begins_of_strays (h : Strays c rest) : ¬ Begins c rest := by
  intro begins
  rcases h with unknown | rfl | ⟨rfl, none⟩ | ⟨rfl, unclosed⟩
  · simp only [alphabet, Bool.or_eq_false_iff] at unknown
    cases begins <;> simp_all
  · cases begins <;> simp_all +decide
  · cases begins with
    | minus _ d next digit => exact none d next digit
    | blank h | lineEnd h | digit h | letter h | mark h | comment h | quote h _ => exact absurd h (by decide)
  · cases begins with
    | quote _ closed => exact unclosed closed
    | blank h | lineEnd h | digit h | letter h | mark h | comment h | minus h _ _ _ => exact absurd h (by decide)

/-- A character that strays starts no match. -/
theorem not_matches_of_strays {others behind : List Char} (h : Strays c rest)
    (same : c :: rest = others ++ behind) : ¬ Matches s others behind := by
  intro matched
  obtain ⟨d, cs, rfl⟩ := List.exists_cons_of_ne_nil (le_reach_of_matches matched).1
  obtain ⟨rfl, behind_eq⟩ := List.cons.inj same
  rw [behind_eq] at h
  exact not_begins_of_strays h (begins_of_matches matched)

end Shape

namespace Lexeme

variable {l : Lexeme} {c : Char} {cs rest text : List Char}

/-! ## The longest match of any shape -/

/-- The lexeme is the longest match of any shape at the front of the text that it makes up with the rest;
    it is a single stray character if nothing there matches. -/
structure Longest (l : Lexeme) (rest : List Char) : Prop where
  matched : l.shape ≠ .stray → l.shape.Matches l.chars rest
  longest : ∀ s piece behind, l.chars ++ rest = piece ++ behind → Shape.Matches s piece behind →
    piece.length ≤ l.chars.length
  stray_iff : l.shape = .stray ↔
    ∀ s piece behind, l.chars ++ rest = piece ++ behind → ¬ Shape.Matches s piece behind
  single : l.shape = .stray → ∃ c, l.chars = [c]

/-- What is found at the front of a text: the only shape that reaches, or one stray character. -/
theorem first_cases (c : Char) (cs : List Char) :
    (∃ s : Shape, s ≠ .stray ∧ s.reach (c :: cs) ≠ 0 ∧ first (c :: cs) = (s, s.reach (c :: cs))) ∨
      (∀ s : Shape, s ≠ .stray → s.reach (c :: cs) = 0) ∧ first (c :: cs) = (.stray, 1) := by
  by_cases some_shape : ∃ s : Shape, s ≠ .stray ∧ s.reach (c :: cs) ≠ 0
  · obtain ⟨s, proper, reach⟩ := some_shape
    exact .inl ⟨s, proper, reach, first_of_reach proper reach⟩
  · have none_reaches : ∀ s : Shape, s ≠ .stray → s.reach (c :: cs) = 0 := by
      intro s proper
      by_contra reach
      exact some_shape ⟨s, proper, reach⟩
    refine .inr ⟨none_reaches, ?_⟩
    have search : Shape.proper.find? (·.reach (c :: cs) ≠ 0) = none := by
      apply List.find?_eq_none.2
      intro s hs
      rw [none_reaches s (Shape.mem_proper.1 hs)]
      decide
    have found : Shape.tried.find? (·.reach (c :: cs) ≠ 0) = some Shape.stray := by
      show (Shape.proper ++ [Shape.stray]).find? _ = some Shape.stray
      rw [List.find?_append, search]
      rfl
    unfold first
    rw [found]
    rfl

theorem longest_of_matches (h : l.shape.Matches l.chars rest)
    (le : l.shape.reach (l.chars ++ rest) ≤ l.chars.length) : l.Longest rest where
  matched := fun _ => h
  longest := by
    intro s piece behind same matched
    obtain rfl := Shape.eq_of_matches h matched same
    have reach := (Shape.le_reach_of_matches matched).2
    rw [← same] at reach
    omega
  stray_iff := by
    constructor
    · intro same
      exact absurd same (Shape.ne_stray_of_matches h)
    · intro none
      exact absurd h (none _ _ _ rfl)
  single := fun same => absurd same (Shape.ne_stray_of_matches h)

/-- Where nothing matches, one character is the longest match. -/
theorem longest_of_no_match
    (none : ∀ s piece behind, c :: rest = piece ++ behind → ¬ Shape.Matches s piece behind) :
    Longest { shape := .stray, chars := [c] } rest where
  matched := fun proper => absurd rfl proper
  longest := fun s piece behind same matched => absurd matched (none s piece behind same)
  stray_iff := ⟨fun _ => none, fun _ => rfl⟩
  single := fun _ => ⟨c, rfl⟩

/-- **What is cut off first is the longest match.** -/
theorem longest_first (c : Char) (cs : List Char) :
    Longest { shape := (first (c :: cs)).1, chars := (c :: cs).take (first (c :: cs)).2 }
      ((c :: cs).drop (first (c :: cs)).2) := by
  obtain ⟨s, proper, reach, found⟩ | ⟨none_reaches, found⟩ := first_cases c cs
  · obtain ⟨piece, rest, split, length, matched⟩ := Shape.takesMatch_of_reach proper reach
    rw [found, ← length]
    simp only [split, List.take_left, List.drop_left]
    apply longest_of_matches matched
    rw [← split, length]
  · rw [found]
    apply longest_of_no_match
    intro s piece behind same matched
    have reach := Shape.reach_ne_zero_of_matches matched
    rw [← same] at reach
    exact reach (none_reaches s (Shape.ne_stray_of_matches matched))

/-- The first lexeme of a text, and the others. -/
theorem cut_eq_cons {others : List Lexeme} (h : cut text = l :: others) :
    ∃ c cs, text = c :: cs ∧
      l = { shape := (first (c :: cs)).1, chars := (c :: cs).take (first (c :: cs)).2 } ∧
        others = cut ((c :: cs).drop (first (c :: cs)).2) := by
  cases text with
  | nil =>
    rw [cut] at h
    exact absurd h (by simp)
  | cons c cs =>
    rw [cut] at h
    obtain ⟨rfl, rfl⟩ := List.cons.inj h
    exact ⟨c, cs, rfl, rfl, rfl⟩

/-- **Every lexeme of a text** has characters and is the longest match where it starts. -/
theorem longest_of_cut {before after : List Lexeme} (h : cut text = before ++ l :: after) :
    l.chars ≠ [] ∧ l.Longest (after.flatMap (·.chars)) := by
  induction before generalizing text with
  | nil =>
    obtain ⟨c, cs, rfl, rfl, rfl⟩ := cut_eq_cons h
    rw [flatten_cut]
    refine ⟨?_, longest_first c cs⟩
    obtain ⟨n, hn⟩ := Nat.exists_eq_succ_of_ne_zero (first_pos (c :: cs)).ne'
    show (c :: cs).take (first (c :: cs)).2 ≠ []
    rw [hn]
    exact List.cons_ne_nil _ _
  | cons m before ih =>
    obtain ⟨c, cs, rfl, -, rest⟩ := cut_eq_cons h
    exact ih rest.symm

/-- **A longest match is what is cut off**, so that the lexemes of a text are the only ones. -/
theorem cut_of_longest (nonempty : l.chars ≠ []) (h : l.Longest rest) :
    cut (l.chars ++ rest) = l :: cut rest := by
  by_cases stray : l.shape = .stray
  · obtain ⟨c, hc⟩ := h.single stray
    have none_matches := h.stray_iff.1 stray
    obtain ⟨s, cs⟩ := l
    obtain rfl : s = .stray := stray
    obtain rfl : cs = [c] := hc
    show cut (c :: rest) = _
    obtain ⟨s, proper, reach, -⟩ | ⟨-, found⟩ := first_cases c rest
    · obtain ⟨piece, behind, split, -, matched⟩ := Shape.takesMatch_of_reach proper reach
      exact absurd matched (none_matches s piece behind split)
    · rw [cut, found]
      rfl
  · apply cut_append stray nonempty
    have matched := h.matched stray
    have reach := Shape.reach_ne_zero_of_matches matched
    obtain ⟨c, cs, hc⟩ := List.exists_cons_of_ne_nil nonempty
    apply Nat.le_antisymm
    · rw [hc, List.cons_append] at reach ⊢
      obtain ⟨piece, behind, split, length, other⟩ := Shape.takesMatch_of_reach stray reach
      rw [← length, ← hc]
      refine h.longest _ piece behind ?_ other
      rw [hc]
      exact split
    · exact (Shape.le_reach_of_matches matched).2

/-- Which lexemes are stray characters. -/
theorem Longest.stray_iff_strays (h : l.Longest rest) :
    l.shape = .stray ↔ ∃ c, l.chars = [c] ∧ Shape.Strays c rest := by
  constructor
  · intro stray
    obtain ⟨c, hc⟩ := h.single stray
    refine ⟨c, hc, ?_⟩
    by_contra starts
    obtain ⟨s, piece, behind, split, matched⟩ := Shape.exists_matches_of_not_strays starts
    refine h.stray_iff.1 stray s piece behind ?_ matched
    rw [hc]
    exact split
  · rintro ⟨c, hc, strays⟩
    apply h.stray_iff.2
    intro s piece behind same
    rw [hc] at same
    exact Shape.not_matches_of_strays strays same

/-- A character that strays is a longest match by itself. -/
theorem longest_of_strays (h : Shape.Strays c rest) : Longest { shape := .stray, chars := [c] } rest :=
  longest_of_no_match fun _ _ _ same => Shape.not_matches_of_strays h same

/-- The match of a known shape. -/
theorem Longest.matches_of_shape {s : Shape} (h : l.Longest rest) (shape : l.shape = s) (proper : s ≠ .stray) :
    s.Matches l.chars rest := by
  subst shape
  exact h.matched proper

/-- Behind line ends that are a longest match stands no other line end. -/
theorem Longest.not_isLineEnd (h : l.Longest rest) (shape : l.shape = .lineEnds) :
    ∀ c ∈ rest.head?, ¬ Shape.isLineEnd c := by
  intro c hc lineEnd
  obtain ⟨others, rfl⟩ := List.head?_eq_some_iff.1 hc
  have all := (Shape.mem_someOf.1 (h.matches_of_shape shape (by decide)).1).2
  have one : ∀ d ∈ [c], Shape.isLineEnd d := by simpa using lineEnd
  have longer : Shape.lineEnds.Matches (l.chars ++ [c]) others :=
    ⟨Shape.mem_someOf.2 ⟨by simp, List.forall_mem_append.2 ⟨all, one⟩⟩, nofun⟩
  have bound := h.longest _ _ _ (by simp) longer
  simp at bound

/-- Only comments, line ends and quoted texts hold a line end. -/
theorem Longest.shape_of_mem (h : l.Longest rest) (inside : c ∈ l.chars) (lineEnd : Shape.isLineEnd c) :
    l.shape = .comment ∨ l.shape = .lineEnds ∨ l.shape = .quoted := by
  have known : c = '\n' ∨ c = '\r' := by simpa [Shape.isLineEnd] using lineEnd
  cases shape : l.shape with
  | comment => exact .inl rfl
  | lineEnds => exact .inr (.inl rfl)
  | quoted => exact .inr (.inr rfl)
  | blanks =>
    have blank := (Shape.mem_someOf.1 (h.matches_of_shape shape (by decide)).1).2 c inside
    rcases known with rfl | rfl <;> exact absurd blank (by decide)
  | number =>
    obtain ⟨n, negative, whole⟩ := Shape.mem_pattern_number.1 (h.matches_of_shape shape (by decide)).1
    have sign := Shape.mem_signed (whole ▸ inside)
    rcases known with rfl | rfl <;> exact absurd sign (by decide)
  | word =>
    have letter := (Shape.mem_someOf.1 (h.matches_of_shape shape (by decide)).1).2 c inside
    rcases known with rfl | rfl <;> exact absurd letter (by decide)
  | mark =>
    obtain ⟨d, hd, whole⟩ := (h.matches_of_shape shape (by decide)).1
    have single : l.chars = [d] := whole
    obtain rfl := List.mem_singleton.1 (single ▸ inside)
    rcases known with rfl | rfl <;> exact absurd hd (by decide)
  | stray =>
    obtain ⟨d, single, strays⟩ := h.stray_iff_strays.1 shape
    obtain rfl := List.mem_singleton.1 (single ▸ inside)
    -- a line end by itself is no stray character
    have matched : Shape.lineEnds.Matches [c] rest :=
      ⟨Shape.someOf_singleton lineEnd, fun comment => absurd comment (by decide)⟩
    exact absurd matched (Shape.not_matches_of_strays strays rfl)

/-- Only comments and line ends end with one. -/
theorem Longest.shape_of_getLast? (h : l.Longest rest) (last : l.chars.getLast? = some c)
    (lineEnd : Shape.isLineEnd c) : l.shape = .comment ∨ l.shape = .lineEnds := by
  rcases h.shape_of_mem (List.mem_of_getLast? last) lineEnd with comment | lineEnds | quoted
  · exact .inl comment
  · exact .inr lineEnds
  · obtain ⟨inner, -, whole⟩ := Shape.mem_pattern_quoted.1 (h.matches_of_shape quoted (by decide)).1
    rw [whole, ← List.cons_append, List.getLast?_concat] at last
    obtain rfl := Option.some.inj last
    exact absurd lineEnd (by decide)

/-! ## One token for each lexeme -/

/-- What a lexeme stands for, wherever it starts.  Blanks stand for no token. -/
def StandsFor (l : Lexeme) (t : Token) : Prop :=
  match l.shape with
  | .blanks => False
  | .comment | .lineEnds => t.kind = .newline ∧ t.value = .none
  | .number => ∃ (n : Numeral) (negative : Bool), l.chars = n.signed negative ∧
      t.kind = .number ∧ t.value = .number (n.decimal.toFloat negative)
  | .word => t.kind = .identifier ∧ t.value = .text (String.ofList l.chars)
  | .quoted => ∃ inner, '"' ∉ inner ∧ l.chars = '"' :: (inner ++ ['"']) ∧
      t.kind = .string ∧ t.value = .text (String.ofList inner)
  | .mark => ∃ c, l.chars = [c] ∧ t.kind = TokenKind.ofMark c ∧ t.value = .text (String.ofList [c])
  | .stray => ∃ c, l.chars = [c] ∧ t.kind = .error ∧ t.value = .text (String.ofList [c])

/-- Whether the lexeme gives a token. -/
def Speaks (l : Lexeme) : Bool := l.shape ≠ .blanks

/-- A lexeme that is the longest match gives the token that it stands for. -/
theorem Longest.standsFor (h : l.Longest rest) (place : Place) :
    match l.token? place with
    | some t => l.Speaks ∧ l.StandsFor t ∧ t.place = place
    | none => l.Speaks = false := by
  obtain ⟨s, cs⟩ := l
  cases s with
  | blanks => exact rfl
  | comment => exact ⟨rfl, ⟨rfl, rfl⟩, rfl⟩
  | lineEnds => exact ⟨rfl, ⟨rfl, rfl⟩, rfl⟩
  | number =>
    obtain ⟨n, negative, whole⟩ := Shape.mem_pattern_number.1 (h.matched nofun).1
    obtain rfl : cs = n.signed negative := whole
    exact ⟨rfl, ⟨n, negative, rfl, rfl, congrArg _ (n.readNumeral_signed negative)⟩, rfl⟩
  | word => exact ⟨rfl, ⟨rfl, rfl⟩, rfl⟩
  | quoted =>
    obtain ⟨inner, plain, whole⟩ := Shape.mem_pattern_quoted.1 (h.matched nofun).1
    obtain rfl : cs = '"' :: (inner ++ ['"']) := whole
    have between : Lexeme.inner { shape := .quoted, chars := '"' :: (inner ++ ['"']) } = inner :=
      List.dropLast_concat
    refine ⟨rfl, ⟨inner, plain, rfl, rfl, ?_⟩, rfl⟩
    exact congrArg (fun cs => TokenValue.text (String.ofList cs)) between
  | mark =>
    obtain ⟨c, -, whole⟩ := (h.matched nofun).1
    obtain rfl : cs = [c] := whole
    exact ⟨rfl, ⟨c, rfl, rfl, rfl⟩, rfl⟩
  | stray =>
    obtain ⟨c, whole⟩ := h.single rfl
    obtain rfl : cs = [c] := whole
    exact ⟨rfl, ⟨c, rfl, rfl, rfl⟩, rfl⟩

/-- Each lexeme of the end of a text gives its token, in order. -/
theorem forall₂_standsFor {before after : List Lexeme} (h : cut text = before ++ after) (place : Place) :
    List.Forall₂ StandsFor (after.filter Speaks) (tokensFrom place after) := by
  induction after generalizing before place with
  | nil => exact .nil
  | cons l after ih =>
    have split : cut text = (before ++ [l]) ++ after := by
      rw [List.append_assoc]
      exact h
    have later := ih split (place.advance l.chars)
    have here := (longest_of_cut h).2.standsFor place
    rw [tokensFrom]
    cases ht : l.token? place with
    | none =>
      rw [ht] at here
      rw [List.filter_cons_of_neg (by simpa using here)]
      exact later
    | some t =>
      rw [ht] at here
      rw [List.filter_cons_of_pos here.1]
      exact .cons here.2.1 later

theorem ofMark_ne_error (c : Char) : TokenKind.ofMark c ≠ .error := by
  unfold TokenKind.ofMark
  grind

/-- Only a stray character stands for an error. -/
theorem StandsFor.stray_of_error {t : Token} (h : l.StandsFor t) (hk : t.kind = .error) :
    l.shape = .stray ∧ ∃ c, l.chars = [c] ∧ t.value = .text (String.ofList [c]) := by
  obtain ⟨s, cs⟩ := l
  cases s with
  | blanks => exact h.elim
  | comment => exact absurd (h.1.symm.trans hk) (by decide)
  | lineEnds => exact absurd (h.1.symm.trans hk) (by decide)
  | number =>
    obtain ⟨_, _, _, kind, _⟩ := h
    exact absurd (kind.symm.trans hk) (by decide)
  | word => exact absurd (h.1.symm.trans hk) (by decide)
  | quoted =>
    obtain ⟨_, _, _, kind, _⟩ := h
    exact absurd (kind.symm.trans hk) (by decide)
  | mark =>
    obtain ⟨c, _, kind, _⟩ := h
    exact absurd (kind.symm.trans hk) (ofMark_ne_error c)
  | stray =>
    obtain ⟨c, whole, _, value⟩ := h
    exact ⟨rfl, c, whole, value⟩

/-- The lexeme of an error is a character that no lexeme can start with. -/
theorem exists_strays_of_error {t : Token} (ht : t ∈ tokenize text) (hk : t.kind = .error) :
    ∃ before l after c, cut text = before ++ l :: after ∧ l.chars = [c] ∧
      t.value = .text (String.ofList [c]) ∧ Shape.Strays c (after.flatMap (·.chars)) := by
  obtain ⟨l, hl, place, token⟩ := mem_tokensFrom ht
  obtain ⟨before, after, split⟩ := List.append_of_mem hl
  have longest := (longest_of_cut split).2
  have stands := longest.standsFor place
  rw [token] at stands
  obtain ⟨stray, c, whole, value⟩ := stands.2.1.stray_of_error hk
  obtain ⟨d, same, strays⟩ := longest.stray_iff_strays.1 stray
  obtain rfl : c = d := List.singleton_injective (whole.symm.trans same)
  exact ⟨before, l, after, c, split, whole, value, strays⟩

end Lexeme

/-- **Maximal munch**: the lexemes of a text are not empty and put together they are the text.  Each
    of them is the longest match of any shape where it starts, or a single character where nothing
    matches, which happens for a character outside the alphabet, a point, a minus with no digit behind it, and
    a double quote with no other behind it.  The tokens stand for the lexemes other than blanks, one for
    one, and an error only for such a character. -/
theorem tokenize_maximal_munch (text : List Char) :
    (Lexeme.cut text).flatMap (·.chars) = text ∧
      (Lexeme.cut text).length ≤ text.length ∧
      (∀ before l after, Lexeme.cut text = before ++ l :: after →
        l.chars ≠ [] ∧ l.Longest (after.flatMap (·.chars)) ∧
          (l.shape = .stray ↔ ∃ c, l.chars = [c] ∧ Shape.Strays c (after.flatMap (·.chars)))) ∧
      List.Forall₂ Lexeme.StandsFor ((Lexeme.cut text).filter Lexeme.Speaks) (tokenize text) ∧
      (∀ t ∈ tokenize text, t.kind = .error →
        ∃ before l after c, Lexeme.cut text = before ++ l :: after ∧ l.chars = [c] ∧
          t.value = .text (String.ofList [c]) ∧ Shape.Strays c (after.flatMap (·.chars))) := by
  have stands : List.Forall₂ Lexeme.StandsFor ((Lexeme.cut text).filter Lexeme.Speaks) (tokenize text) :=
    Lexeme.forall₂_standsFor (List.nil_append _).symm {}
  refine ⟨Lexeme.flatten_cut text, ?_, ?_, stands, fun _ => Lexeme.exists_strays_of_error⟩
  · have nonempty : ∀ l ∈ Lexeme.cut text, 1 ≤ l.chars.length := by
      intro l hl
      obtain ⟨before, after, split⟩ := List.append_of_mem hl
      exact List.length_pos_of_ne_nil (Lexeme.longest_of_cut split).1
    have length : ((Lexeme.cut text).map (·.chars.length)).sum = text.length := by
      rw [← List.length_flatMap, Lexeme.flatten_cut]
    rw [← length]
    calc (Lexeme.cut text).length = ((Lexeme.cut text).map fun _ => 1).sum := by simp
      _ ≤ ((Lexeme.cut text).map (·.chars.length)).sum := List.sum_le_sum nonempty
  · intro before l after split
    obtain ⟨nonempty, longest⟩ := Lexeme.longest_of_cut split
    exact ⟨nonempty, longest, longest.stray_iff_strays⟩

/-- A point and a minus may belong to a number, here neither the point nor the first minus does; and the
    quoted text is not closed. -/
theorem tokenize_maximal_munch_unclosed :
    (Lexeme.cut "1.--5 \"x".toList).map (fun l => (l.shape, String.ofList l.chars)) =
        [(.number, "1"), (.stray, "."), (.stray, "-"), (.number, "-5"), (.blanks, " "), (.stray, "\""),
          (.word, "x")] ∧
      List.Forall₂ Lexeme.StandsFor ((Lexeme.cut "1.--5 \"x".toList).filter Lexeme.Speaks)
        (tokenize "1.--5 \"x".toList) :=
  ⟨by decide +kernel, (tokenize_maximal_munch "1.--5 \"x".toList).2.2.2.1⟩

end LitSpheres
