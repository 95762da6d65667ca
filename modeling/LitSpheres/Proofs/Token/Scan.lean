/-
  Text that is put together from pieces is scanned piece by piece.

  1. **Program** — at each position the shapes are tried in order, and the first that matches is the
     lexeme; blanks give no token, every other lexeme gives one.

  2. **Specification** — a word, a numeral, a quoted text, a mark or a line end is scanned as the one token
     that it is, wherever it stands, if what follows does not continue it.  And no token that stands
     for a text holds a double quote.

  3. **The crux** — the first character decides the shape: the characters that the shapes start with are
     disjoint, so a shape that matches is the only one, and the order of trying has no influence.
-/
import LitSpheres.Proofs.Decimal.Numeral
import LitSpheres.Proofs.Grammar.Tree

namespace LitSpheres

open Text (Place)

namespace Shape

variable {c : Char} {cs piece rest : List Char} {s t : Shape}

/-! ## The first character decides -/

/-- The code points of the characters that lexemes of the shape start with. -/
def Starts (n : Nat) : Shape → Prop
  | blanks => n = 32 ∨ n = 9 ∨ n = 12
  | comment => n = 35
  | lineEnds => n = 10 ∨ n = 13
  | number => n = 45 ∨ 48 ≤ n ∧ n ≤ 57
  | word => 65 ≤ n ∧ n ≤ 90 ∨ 97 ≤ n ∧ n ≤ 122
  | quoted => n = 34
  | mark => n = 61 ∨ n = 44 ∨ n = 40 ∨ n = 41 ∨ n = 123 ∨ n = 125
  | stray => True

/-- All shapes but the stray character. -/
def proper : List Shape := [blanks, comment, lineEnds, number, word, quoted, mark]

theorem mem_proper : s ∈ proper ↔ s ≠ stray := by cases s <;> decide

/-- No character starts two shapes. -/
theorem starts_unique {n : Nat} (hs : s ≠ stray) (ht : t ≠ stray) (h : Starts n s)
    (h' : Starts n t) : s = t := by
  -- two different shapes have no code point in common
  cases s <;> cases t <;> first
    | rfl
    | exact absurd rfl hs
    | exact absurd rfl ht
    | (simp only [Starts] at h h'; omega)

theorem run_pos {p : Char → Bool} (h : run p (c :: cs) ≠ 0) : p c := by
  by_cases hc : p c
  · exact hc
  · unfold run at h
    rw [List.takeWhile_cons_of_neg hc] at h
    exact absurd rfl h

theorem isDigit_of_unsignedReach (h : unsignedReach (c :: cs) ≠ 0) : c.isDigit := by
  have digits : run Char.isDigit (c :: cs) ≠ 0 := by
    intro none
    unfold unsignedReach at h
    simp only [none, if_true] at h
    exact h rfl
  exact run_pos digits

theorem starts_of_isDigit (h : c.isDigit) : Starts c.toNat number := by
  have range : (48 ≤ c.val && c.val ≤ 57) = true := h
  rw [Bool.and_eq_true, decide_eq_true_iff, decide_eq_true_iff] at range
  exact .inr range

theorem starts_of_isAlpha (h : c.isAlpha) : Starts c.toNat word := by
  have ranges : (decide (65 ≤ c.val ∧ c.val ≤ 90) || (97 ≤ c.val && c.val ≤ 122)) = true := h
  rw [Bool.or_eq_true, Bool.and_eq_true, decide_eq_true_iff, decide_eq_true_iff,
    decide_eq_true_iff] at ranges
  exact ranges

theorem starts_of_isBlank (h : isBlank c) : Starts c.toNat blanks := by
  simp only [isBlank, Bool.or_eq_true, beq_iff_eq] at h
  rcases h with (rfl | rfl) | rfl
  · exact .inl rfl
  · exact .inr (.inl rfl)
  · exact .inr (.inr rfl)

theorem starts_of_isLineEnd (h : isLineEnd c) : Starts c.toNat lineEnds := by
  simp only [isLineEnd, Bool.or_eq_true, beq_iff_eq] at h
  rcases h with rfl | rfl
  · exact .inl rfl
  · exact .inr rfl

/-- A shape that matches is one that the first character starts. -/
theorem starts_of_reach (h : s.reach (c :: cs) ≠ 0) : Starts c.toNat s := by
  cases s with
  | blanks => exact starts_of_isBlank (run_pos h)
  | comment =>
    by_cases hc : c = '#'
    · rw [hc]
      exact rfl
    · simp [reach, hc] at h
  | lineEnds => exact starts_of_isLineEnd (run_pos h)
  | number =>
    by_cases hc : c = '-'
    · rw [hc]
      exact .inl rfl
    · have unsigned : unsignedReach (c :: cs) ≠ 0 := by simpa [reach, hc] using h
      exact starts_of_isDigit (isDigit_of_unsignedReach unsigned)
  | word => exact starts_of_isAlpha (run_pos h)
  | quoted =>
    by_cases hc : c = '"'
    · rw [hc]
      exact rfl
    · simp [reach, hc] at h
  | mark =>
    by_cases hc : isMark c
    · simp only [isMark, List.mem_cons, List.not_mem_nil, or_false, decide_eq_true_eq] at hc
      rcases hc with rfl | rfl | rfl | rfl | rfl | rfl <;> simp [Starts]
    · simp [reach, hc] at h
  | stray => trivial

end Shape

namespace Lexeme

variable {c : Char} {cs piece rest : List Char} {s : Shape}

/-- **The only shape that matches is the one that is found.** -/
theorem first_of_reach (hs : s ≠ .stray) (h : s.reach (c :: cs) ≠ 0) :
    first (c :: cs) = (s, s.reach (c :: cs)) := by
  -- another shape that matched before would start with the same character
  have search : Shape.proper.find? (·.reach (c :: cs) ≠ 0) = some s := by
    cases hf : Shape.proper.find? (·.reach (c :: cs) ≠ 0) with
    | none => exact absurd (decide_eq_true h) (List.find?_eq_none.1 hf s (Shape.mem_proper.2 hs))
    | some t =>
      have ht : t ≠ .stray := Shape.mem_proper.1 (List.mem_of_find?_eq_some hf)
      have matched := List.find?_some hf
      exact congrArg some (Shape.starts_unique ht hs (Shape.starts_of_reach (of_decide_eq_true matched))
        (Shape.starts_of_reach h))
  have found : Shape.tried.find? (·.reach (c :: cs) ≠ 0) = some s := by
    show (Shape.proper ++ [Shape.stray]).find? _ = some s
    rw [List.find?_append, search]
    rfl
  unfold first
  rw [found]

/-- A piece at the front that a shape covers is the first lexeme. -/
theorem cut_append (hs : s ≠ .stray) (hp : piece ≠ []) (h : s.reach (piece ++ rest) = piece.length) :
    cut (piece ++ rest) = { shape := s, chars := piece } :: cut rest := by
  obtain ⟨c, cs, rfl⟩ := List.exists_cons_of_ne_nil hp
  have matched : s.reach (c :: (cs ++ rest)) ≠ 0 := by
    rw [← List.cons_append, h]
    exact Nat.succ_ne_zero _
  show cut (c :: (cs ++ rest)) = _
  rw [cut, first_of_reach hs matched, ← List.cons_append]
  simp only [h, List.take_left, List.drop_left]

end Lexeme

/-! ## Pieces of text -/

/-- The tokens of a text that starts at the given place. -/
def scan (place : Place) (cs : List Char) : List Token := tokensFrom place (Lexeme.cut cs)

theorem tokenize_eq_scan (text : List Char) : tokenize text = scan {} text := rfl

theorem scan_nil (place : Place) : scan place [] = [] := by
  rw [scan, Lexeme.cut]
  rfl

namespace Shape

variable {c : Char} {piece rest : List Char} {s : Shape} (place : Place)

theorem scan_append (hs : s ≠ stray) (hp : piece ≠ []) (h : s.reach (piece ++ rest) = piece.length) :
    scan place (piece ++ rest) =
      (Lexeme.token? { shape := s, chars := piece } place).toList ++ scan (place.advance piece) rest := by
  unfold scan
  rw [Lexeme.cut_append hs hp h, tokensFrom]
  cases (Lexeme.token? { shape := s, chars := piece } place) <;> rfl

theorem run_append {p : Char → Bool} (inside : ∀ c ∈ piece, p c) (boundary : ∀ c ∈ rest.head?, ¬ p c) :
    run p (piece ++ rest) = piece.length :=
  congrArg List.length (takeWhile_append_of_boundary inside boundary)

/-- A blank gives no token. -/
theorem scan_blank (boundary : ∀ c ∈ rest.head?, ¬ isBlank c) :
    scan place (' ' :: rest) = scan (place.advance [' ']) rest := by
  have blank : ∀ c ∈ [' '], isBlank c := List.all_eq_true.1 rfl
  have covered : blanks.reach ([' '] ++ rest) = [' '].length := run_append blank boundary
  exact scan_append place (by decide) (by decide) covered

/-- A line end. -/
theorem scan_lineEnd (boundary : ∀ c ∈ rest.head?, ¬ isLineEnd c) :
    ∃ l : Leaf .newline, scan place ('\n' :: rest) = l.token :: scan (place.advance ['\n']) rest := by
  have lineEnd : ∀ c ∈ ['\n'], isLineEnd c := List.all_eq_true.1 rfl
  have covered : lineEnds.reach (['\n'] ++ rest) = ['\n'].length := run_append lineEnd boundary
  exact ⟨⟨_, rfl⟩, scan_append place (by decide) (by decide) covered⟩

/-- A mark. -/
theorem scan_mark (h : isMark c) (rest : List Char) :
    ∃ l : Leaf (TokenKind.ofMark c), scan place (c :: rest) = l.token :: scan (place.advance [c]) rest := by
  have covered : mark.reach ([c] ++ rest) = [c].length := if_pos h
  exact ⟨⟨_, rfl⟩, scan_append place (by decide) (by simp) covered⟩

/-- A word. -/
theorem scan_word (nonempty : piece ≠ []) (letters : ∀ c ∈ piece, c.isAlpha)
    (boundary : ∀ c ∈ rest.head?, ¬ c.isAlpha) :
    ∃ l : Leaf .identifier, l.token.text = String.ofList piece ∧
      scan place (piece ++ rest) = l.token :: scan (place.advance piece) rest := by
  have covered : word.reach (piece ++ rest) = piece.length := run_append letters boundary
  exact ⟨⟨_, rfl⟩, rfl, scan_append place (by decide) nonempty covered⟩

/-- A text between double quotes. -/
theorem scan_quoted (plain : '"' ∉ piece) (rest : List Char) :
    ∃ l : Leaf .string, l.token.text = String.ofList piece ∧
      scan place ('"' :: (piece ++ '"' :: rest)) =
        l.token :: scan (place.advance ('"' :: (piece ++ ['"']))) rest := by
  have body : run (· != '"') (piece ++ '"' :: rest) = piece.length := by
    refine run_append (fun c hc => ?_) (by simp)
    exact bne_iff_ne.2 fun same => plain (same ▸ hc)
  have shape : '"' :: (piece ++ ['"']) ++ rest = '"' :: (piece ++ '"' :: rest) := by simp
  have covered : quoted.reach ('"' :: (piece ++ ['"']) ++ rest) = ('"' :: (piece ++ ['"'])).length := by
    rw [shape]
    unfold reach
    simp only [body, List.drop_left, List.length_cons, List.length_append, List.length_nil]
    exact Nat.add_comm _ _
  have inner : Lexeme.inner { shape := .quoted, chars := '"' :: (piece ++ ['"']) } = piece :=
    List.dropLast_concat
  have scanned : scan place ('"' :: (piece ++ ['"']) ++ rest) = _ :=
    scan_append place (by decide) (by simp) covered
  rw [shape] at scanned
  refine ⟨⟨_, rfl⟩, ?_, scanned⟩
  exact congrArg String.ofList inner

/-- The reach of a numeral without its sign. -/
theorem unsignedReach_chars (n : Numeral) (boundary : ∀ c ∈ rest.head?, ¬ c.isDigit ∧ c ≠ '.') :
    unsignedReach (n.chars ++ rest) = n.chars.length := by
  have whole_pos : n.whole.length ≠ 0 := by simpa using n.whole_ne_nil
  have stop : ∀ c ∈ rest.head?, ¬ c.isDigit := fun c hc => (boundary c hc).1
  have behind_stop : ∀ c ∈ (n.behind ++ rest).head?, ¬ c.isDigit := by
    intro c hc
    rw [List.head?_append] at hc
    cases hb : n.behind.head? with
    | none =>
      rw [hb] at hc
      exact stop c hc
    | some b =>
      rw [hb] at hc
      exact n.not_isDigit_head?_behind c (hb.trans hc)
  have whole : run Char.isDigit (n.whole ++ (n.behind ++ rest)) = n.whole.length :=
    run_append (fun c hc => n.isDigit_whole hc) behind_stop
  rw [n.chars_eq_append, List.append_assoc]
  unfold unsignedReach
  simp only [whole, if_neg whole_pos, List.drop_left]
  by_cases hf : n.fraction = []
  · -- the reach goes on at a point only, and what follows the numeral does not begin with one
    have none_behind : n.behind = [] := if_pos hf
    rw [none_behind, List.nil_append, List.append_nil]
    split
    · next fraction => exact absurd rfl (boundary '.' rfl).2
    · rfl
  · have point : n.behind = '.' :: n.fraction := if_neg hf
    have places : run Char.isDigit (n.fraction ++ rest) = n.fraction.length :=
      run_append (fun c hc => n.isDigit_fraction hc) stop
    have places_pos : n.fraction.length ≠ 0 := by simpa using hf
    rw [point]
    simp only [List.cons_append, places, if_neg places_pos, List.length_append, List.length_cons]
    omega

/-- A numeral. -/
theorem scan_number (n : Numeral) (negative : Bool) (boundary : ∀ c ∈ rest.head?, ¬ c.isDigit ∧ c ≠ '.') :
    ∃ l : Leaf .number, l.token.number = readNumeral (n.signed negative) ∧
      scan place (n.signed negative ++ rest) = l.token :: scan (place.advance (n.signed negative)) rest := by
  obtain ⟨c, cs, hc, digit⟩ := n.exists_chars_eq_cons
  have unsigned := unsignedReach_chars n boundary
  have positive : n.chars.length ≠ 0 := by
    rw [hc]
    exact Nat.succ_ne_zero _
  have covered : number.reach (n.signed negative ++ rest) = (n.signed negative).length := by
    cases negative with
    | true =>
      show (if unsignedReach (n.chars ++ rest) = 0 then 0 else 1 + unsignedReach (n.chars ++ rest)) = _
      rw [unsigned, if_neg positive, Nat.add_comm]
      rfl
    | false =>
      have other : c ≠ '-' := by
        rintro rfl
        exact absurd digit (by decide)
      show number.reach (n.chars ++ rest) = n.chars.length
      rw [← unsigned, hc]
      simp [reach, other]
  have nonempty : n.signed negative ≠ [] := by
    cases negative with
    | true => exact List.cons_ne_nil _ _
    | false =>
      show n.chars ≠ []
      rw [hc]
      exact List.cons_ne_nil _ _
  exact ⟨⟨_, rfl⟩, rfl, scan_append place (by decide) nonempty covered⟩

end Shape

/-! ## Double quotes -/

theorem TokenKind.ofMark_ne (c : Char) : ofMark c ≠ .identifier ∧ ofMark c ≠ .string := by
  unfold ofMark
  grind

namespace Lexeme

/-- What a lexeme is made of: a word of letters, and a quoted text of other characters than quotes. -/
def Proper (l : Lexeme) : Prop :=
  match l.shape with
  | .word => ∀ c ∈ l.chars, c.isAlpha
  | .quoted => '"' ∉ l.inner
  | _ => True

theorem take_run (p : Char → Bool) (cs : List Char) : cs.take (Shape.run p cs) = cs.takeWhile p :=
  (List.prefix_iff_eq_take.1 (List.takeWhile_prefix p)).symm

/-- The characters inside a quoted text are those before the next double quote. -/
theorem mem_inner_take {c d : Char} {cs : List Char}
    (h : c ∈ inner { shape := .quoted, chars := (d :: cs).take (Shape.quoted.reach (d :: cs)) }) :
    c ∈ cs.takeWhile (· != '"') := by
  by_cases hd : d = '"'
  · subst hd
    unfold inner Shape.reach at h
    simp only at h
    by_cases closed : (cs.drop (Shape.run (· != '"') cs)).isEmpty
    · -- there is no second quote, so the shape does not match
      rw [if_pos closed] at h
      exact absurd h (by simp)
    · have reach : 2 + Shape.run (· != '"') cs = (Shape.run (· != '"') cs + 1) + 1 := by omega
      rw [if_neg closed, reach, List.take_succ_cons, List.drop_one, List.tail_cons, List.dropLast_eq_take,
        List.take_take] at h
      rw [← take_run]
      refine (List.take_prefix_take_left ?_).subset h
      rw [List.length_take]
      omega
  · have none : Shape.quoted.reach (d :: cs) = 0 := by simp [Shape.reach, hd]
    rw [none] at h
    exact absurd h (by simp [inner])

theorem proper_take (s : Shape) (c : Char) (cs : List Char) :
    Proper { shape := s, chars := (c :: cs).take (s.reach (c :: cs)) } := by
  cases s with
  | word =>
    intro a ha
    have taken : a ∈ (c :: cs).takeWhile Char.isAlpha := take_run Char.isAlpha (c :: cs) ▸ ha
    exact List.all_eq_true.1 List.all_takeWhile a taken
  | quoted =>
    intro quote
    have other := List.all_eq_true.1 List.all_takeWhile _ (mem_inner_take quote)
    exact absurd other (by decide)
  | _ => trivial

/-- Every lexeme of a text is what its shape says. -/
theorem proper_of_mem_cut {l : Lexeme} {cs : List Char} (h : l ∈ cut cs) : l.Proper := by
  fun_induction cut cs with
  | case1 => exact absurd h (by simp)
  | case2 c cs f ih =>
    rcases List.mem_cons.1 h with rfl | later
    · -- whichever shape was found first, the lexeme is as long as that shape reaches
      show Proper { shape := (first (c :: cs)).1, chars := (c :: cs).take (first (c :: cs)).2 }
      unfold first
      split
      · exact proper_take _ c cs
      · trivial
    · exact ih later

/-- A word or a text has no double quote in it. -/
theorem plain_of_token? {l : Lexeme} {place : Place} {t : Token} (proper : l.Proper)
    (h : l.token? place = some t) (hk : t.kind = .identifier ∨ t.kind = .string) : '"' ∉ t.text.toList := by
  obtain ⟨s, cs⟩ := l
  cases s with
  | word =>
    obtain rfl := Option.some.inj h
    show '"' ∉ (String.ofList cs).toList
    rw [String.toList_ofList]
    intro quote
    exact absurd (proper _ quote) (by decide)
  | quoted =>
    obtain rfl := Option.some.inj h
    show '"' ∉ (String.ofList (inner { shape := .quoted, chars := cs })).toList
    rw [String.toList_ofList]
    exact proper
  | mark =>
    obtain rfl := Option.some.inj h
    obtain ⟨notWord, notText⟩ := TokenKind.ofMark_ne (cs.headD '=')
    exact absurd hk (not_or.2 ⟨notWord, notText⟩)
  | blanks => exact absurd h (by simp [token?])
  | _ =>
    obtain rfl := Option.some.inj h
    exact absurd hk (by simp)

end Lexeme

theorem mem_tokensFrom {place : Place} {ls : List Lexeme} {t : Token} (h : t ∈ tokensFrom place ls) :
    ∃ l ∈ ls, ∃ p, l.token? p = some t := by
  induction ls generalizing place with
  | nil => exact absurd h (by simp [tokensFrom])
  | cons l ls ih =>
    rw [tokensFrom] at h
    cases ht : l.token? place with
    | none =>
      rw [ht] at h
      obtain ⟨m, hm, p, hp⟩ := ih h
      exact ⟨m, List.mem_cons_of_mem _ hm, p, hp⟩
    | some u =>
      rw [ht] at h
      rcases List.mem_cons.1 h with rfl | later
      · exact ⟨l, List.mem_cons_self, place, ht⟩
      · obtain ⟨m, hm, p, hp⟩ := ih later
        exact ⟨m, List.mem_cons_of_mem _ hm, p, hp⟩

/-- **No token that stands for a text holds a double quote.** -/
theorem plain_of_mem_tokenize {text : List Char} {t : Token} (h : t ∈ tokenize text)
    (hk : t.kind = .identifier ∨ t.kind = .string) : '"' ∉ t.text.toList := by
  obtain ⟨l, hl, p, ht⟩ := mem_tokensFrom h
  exact Lexeme.plain_of_token? (Lexeme.proper_of_mem_cut hl) ht hk

end LitSpheres
