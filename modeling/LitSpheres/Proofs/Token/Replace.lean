/-
  What stands behind some lexemes can be replaced without a change of their tokens.

  1. **Program** — a lexeme is cut off where it is longest, which depends on what stands behind it; its
     token has the kind and the value of its characters, wherever it stands.

  2. **Specification** — lexemes that are followed by something else keep their tokens, up to the places, if
     what follows begins with a blank, a line end or a comment, with a line end only if one stood there
     before, and if it has no double quote unless there was one.

  3. **The crux** — no number, word or mark contains the first character of the replacement, line ends are not
     continued by it, and a quote that was not closed is not closed by it.  Blanks need not be kept, as
     they give no token.
-/
import LitSpheres.Proofs.Token.Place

namespace LitSpheres

open Text (Place)

/-! ## What a token is, wherever it stands -/

/-- What a token is, without its place. -/
structure Content where
  kind : TokenKind
  value : TokenValue

def Token.content (t : Token) : Content := { kind := t.kind, value := t.value }

def Content.lineEnd : Content := { kind := .newline, value := .none }

namespace Lexeme

variable {l : Lexeme} {c : Char} {cs rest text ws : List Char}

/-- The kind and the value of the token that a lexeme stands for. -/
def content? (l : Lexeme) : Option Content := (l.token? {}).map Token.content

/-- The kinds and values of the tokens of a text. -/
def contents (cs : List Char) : List Content := (cut cs).filterMap content?

/-- They do not depend on the place. -/
theorem content_token? (l : Lexeme) (place : Place) : (l.token? place).map Token.content = l.content? := by
  obtain ⟨s, cs⟩ := l
  cases s <;> rfl

theorem content_tokensFrom (place : Place) (ls : List Lexeme) :
    (tokensFrom place ls).map Token.content = ls.filterMap content? := by
  induction ls generalizing place with
  | nil => rfl
  | cons l ls ih =>
    have here := content_token? l place
    have later := ih (place.advance l.chars)
    rw [tokensFrom]
    cases ht : l.token? place with
    | none =>
      rw [ht] at here
      rw [List.filterMap_cons_none here.symm]
      exact later
    | some t =>
      rw [ht] at here
      rw [List.filterMap_cons_some here.symm]
      exact congrArg (t.content :: ·) later

theorem content_scan (place : Place) (cs : List Char) : (scan place cs).map Token.content = contents cs :=
  content_tokensFrom place (cut cs)

theorem content_tokenize (text : List Char) : (tokenize text).map Token.content = contents text :=
  content_scan {} text

/-- The token of a lexeme is one of the text. -/
theorem exists_token_of_content {given : Content} (hl : l ∈ cut text) (h : l.content? = some given) :
    ∃ t ∈ tokenize text, t.content = given := by
  have inside : given ∈ (tokenize text).map Token.content := by
    rw [content_tokenize]
    exact List.mem_filterMap.2 ⟨l, hl, h⟩
  exact List.mem_map.1 inside

/-- **A lexeme in front** gives its own token, and what stands behind it gives the others. -/
theorem Longest.scan_append (h : l.Longest rest) (nonempty : l.chars ≠ []) (place : Place) :
    scan place (l.chars ++ rest) = (l.token? place).toList ++ scan (place.advance l.chars) rest := by
  rw [scan, cut_of_longest nonempty h, tokensFrom]
  cases l.token? place <;> rfl

theorem Longest.contents_append (h : l.Longest rest) (nonempty : l.chars ≠ []) :
    contents (l.chars ++ rest) = l.content?.toList ++ contents rest := by
  rw [← content_scan {}, h.scan_append nonempty, List.map_append, content_scan, ← content_token? l {}]
  cases l.token? {} <;> rfl

/-! ## Runs of blanks and of line ends -/

/-- A run at the front, and what it leaves. -/
theorem exists_run (p : Char → Bool) (cs : List Char) :
    ∃ front back, cs = front ++ back ∧ (∀ c ∈ front, p c) ∧ ∀ c ∈ back.head?, ¬ p c := by
  refine ⟨cs.take (Shape.run p cs), cs.drop (Shape.run p cs), (List.take_append_drop _ _).symm, ?_, ?_⟩
  · intro c hc
    exact Shape.of_mem_take_run hc
  · exact Shape.head?_drop_run

theorem not_carriage_of_blank (blank : ∀ c ∈ ws, Shape.isBlank c) : '\r' ∉ ws :=
  fun inside => absurd (blank _ inside) (by decide)

/-- **Blanks give no token**, whatever follows them. -/
theorem scan_blanks (place : Place) (blank : ∀ c ∈ ws, Shape.isBlank c) (rest : List Char) :
    scan place (ws ++ rest) = scan (place.advance ws) rest := by
  -- a whole run of blanks, of which there may be none
  have whole {ws rest : List Char} (place : Place) (blank : ∀ c ∈ ws, Shape.isBlank c)
      (boundary : ∀ c ∈ rest.head?, ¬ Shape.isBlank c) :
      scan place (ws ++ rest) = scan (place.advance ws) rest := by
    by_cases nothing : ws = []
    · rw [nothing]
      rfl
    · have covered : Shape.blanks.reach (ws ++ rest) = ws.length := Shape.run_append blank boundary
      exact Shape.scan_append place (by decide) nothing covered
  obtain ⟨front, back, rfl, more, boundary⟩ := exists_run Shape.isBlank rest
  have all : ∀ c ∈ ws ++ front, Shape.isBlank c := List.forall_mem_append.2 ⟨blank, more⟩
  rw [← List.append_assoc, whole place all boundary, whole _ more boundary,
    Text.advance_append place (Text.not_splitsBreak_of_not_mem (not_carriage_of_blank blank) front)]

/-- A whole run of line ends gives one of them. -/
theorem scan_lineEnds (place : Place) (nonempty : ws ≠ []) (ends : ∀ c ∈ ws, Shape.isLineEnd c)
    (boundary : ∀ c ∈ rest.head?, ¬ Shape.isLineEnd c) :
    scan place (ws ++ rest) = { kind := .newline, place } :: scan (place.advance ws) rest := by
  have covered : Shape.lineEnds.reach (ws ++ rest) = ws.length := Shape.run_append ends boundary
  exact Shape.scan_append place (by decide) nonempty covered

/-- A comment with its line feed gives a line end. -/
theorem scan_comment (place : Place) {body : List Char} (h : '\n' ∉ body) (rest : List Char) :
    scan place ('#' :: (body ++ '\n' :: rest)) =
      { kind := .newline, place } :: scan (place.advance ('#' :: (body ++ ['\n']))) rest := by
  have covered : Shape.comment.reach ('#' :: (body ++ ['\n']) ++ rest) = ('#' :: (body ++ ['\n'])).length := by
    rw [List.cons_append, List.append_assoc, List.singleton_append, Shape.reach_comment h]
    simp
  have shape : '#' :: (body ++ '\n' :: rest) = '#' :: (body ++ ['\n']) ++ rest := by simp
  rw [shape]
  exact Shape.scan_append place (by decide) (List.cons_ne_nil _ _) covered

/-- So does a comment at the end of the text. -/
theorem scan_comment_end (place : Place) {body : List Char} (h : '\n' ∉ body) :
    scan place ('#' :: body) = [{ kind := .newline, place }] := by
  have covered : Shape.comment.reach ('#' :: body ++ []) = ('#' :: body).length := by
    rw [List.append_nil, Shape.reach_comment_end h]
    rfl
  have whole := Shape.scan_append place (by decide) (List.cons_ne_nil _ _) covered
  rw [List.append_nil, scan_nil] at whole
  exact whole

theorem contents_nil : contents [] = [] := by
  rw [← content_scan {}, scan_nil]
  rfl

theorem contents_blanks (blank : ∀ c ∈ ws, Shape.isBlank c) : contents (ws ++ rest) = contents rest := by
  rw [← content_scan {}, scan_blanks {} blank, content_scan]

theorem contents_lineEnds (nonempty : ws ≠ []) (ends : ∀ c ∈ ws, Shape.isLineEnd c)
    (boundary : ∀ c ∈ rest.head?, ¬ Shape.isLineEnd c) :
    contents (ws ++ rest) = .lineEnd :: contents rest := by
  rw [← content_scan {}, scan_lineEnds {} nonempty ends boundary, List.map_cons, content_scan]
  rfl

theorem contents_comment {body : List Char} (h : '\n' ∉ body) :
    contents ('#' :: (body ++ '\n' :: rest)) = .lineEnd :: contents rest := by
  rw [← content_scan {}, scan_comment {} h, List.map_cons, content_scan]
  rfl

theorem contents_comment_end {body : List Char} (h : '\n' ∉ body) : contents ('#' :: body) = [.lineEnd] := by
  rw [← content_scan {}, scan_comment_end {} h]
  rfl

/-! ## What may stand behind a lexeme instead -/

/-- A text that continues no lexeme, if the text that stood in its place did not. -/
structure Fits (new old : List Char) : Prop where
  apart : ∀ c ∈ new.head?, Shape.isBlank c ∨ Shape.isLineEnd c ∨ c = '#'
  lineEnd : ∀ c ∈ new.head?, Shape.isLineEnd c → ∃ d ∈ old.head?, Shape.isLineEnd d

/-- A text that can stand in place of another one without a change of the lexemes before it, stray
    characters among them. -/
structure Replaces (new old : List Char) : Prop extends Fits new old where
  quote : '"' ∈ new → '"' ∈ old

/-- The characters that a replacement can begin with are in no number, word or mark. -/
theorem Fits.not_head {new old : List Char} (r : Fits new old) {p : Char → Bool}
    (other : [' ', '\t', '\x0c', '\n', '\r', '#'].all fun c => !p c) : ∀ c ∈ new.head?, ¬ p c := by
  intro c hc
  have known : ∀ c ∈ [' ', '\t', '\x0c', '\n', '\r', '#'], ¬ p c := by simpa using other
  apply known
  rcases r.apart c hc with blank | lineEnd | rfl
  · simp only [Shape.isBlank, Bool.or_eq_true, beq_iff_eq] at blank
    rcases blank with (rfl | rfl) | rfl <;> decide
  · simp only [Shape.isLineEnd, Bool.or_eq_true, beq_iff_eq] at lineEnd
    rcases lineEnd with rfl | rfl <;> decide
  · decide

section

variable {front new old : List Char}

/-- What does not stand behind some text does not stand there after the replacement. -/
theorem not_head_append {p : Char → Bool} (before : ∀ c ∈ (front ++ old).head?, ¬ p c)
    (after : ∀ c ∈ new.head?, ¬ p c) : ∀ c ∈ (front ++ new).head?, ¬ p c := by
  cases front with
  | nil => exact after
  | cons d ds => exact before

/-- A longest match stays one if the replacement begins with a character that is in no match. -/
theorem Longest.replace_apart (h : l.Longest (front ++ old)) (matched : l.shape.Matches l.chars (front ++ new))
    (plain : l.shape ≠ .comment) (apart : ∀ piece ∈ l.shape.pattern, ∀ c ∈ new.head?, c ∉ piece) :
    l.Longest (front ++ new) := by
  apply longest_of_matches matched
  have reach := Shape.reach_ne_zero_of_matches matched
  obtain ⟨c, cs, hc⟩ := List.exists_cons_of_ne_nil (Shape.le_reach_of_matches matched).1
  rw [hc, List.cons_append] at reach ⊢
  obtain ⟨piece, behind, split, length, other⟩ :=
    Shape.takesMatch_of_reach (Shape.ne_stray_of_matches matched) reach
  rw [← length, ← hc]
  have same : (l.chars ++ front) ++ new = piece ++ behind := by
    rw [List.append_assoc, hc]
    exact split
  -- the piece ends before the replacement, or the replacement begins inside of it
  rcases List.append_eq_append_iff.1 same with ⟨more, hp, hn⟩ | ⟨more, hp, -⟩
  · cases more with
    | nil =>
      rw [List.append_nil] at hp
      refine h.longest _ piece old ?_ ⟨other.1, fun same => absurd same plain⟩
      rw [hp, List.append_assoc]
    | cons d ds =>
      have inside : d ∈ piece := by
        rw [hp]
        exact List.mem_append_right _ List.mem_cons_self
      exact absurd inside (apart piece other.1 d (by rw [hn]; rfl))
  · refine h.longest _ piece (more ++ old) ?_ ⟨other.1, fun same => absurd same plain⟩
    rw [← List.append_assoc, hp, List.append_assoc]

/-- **A lexeme stays the longest match** when something else stands behind it; only for a stray character it
    matters whether that has a double quote. -/
theorem Longest.replace (h : l.Longest (front ++ old)) (speaks : l.shape ≠ .blanks)
    (closed : l.shape = .comment → l.chars.getLast? = some '\n') (r : Fits new old)
    (quote : l.shape = .stray → '"' ∈ new → '"' ∈ old) : l.Longest (front ++ new) := by
  obtain ⟨s, cs⟩ := l
  cases s with
  | blanks => exact absurd rfl speaks
  | comment =>
    have matched : Shape.comment.Matches cs (front ++ new) := ⟨(h.matched nofun).1, fun _ => .inr (closed rfl)⟩
    apply longest_of_matches matched
    obtain ⟨body, hb, rfl | rfl⟩ := Shape.mem_pattern_comment.1 matched.1
    · show Shape.comment.reach ('#' :: (body ++ ['\n']) ++ (front ++ new)) ≤ _
      rw [List.cons_append, List.append_assoc, List.singleton_append, Shape.reach_comment hb]
      simp
    · have feed := List.mem_of_getLast? (closed rfl)
      exact absurd feed (by simpa using hb)
  | lineEnds =>
    have matched : Shape.lineEnds.Matches cs (front ++ new) := ⟨(h.matched nofun).1, nofun⟩
    apply longest_of_matches matched
    have before := h.not_isLineEnd rfl
    have boundary : ∀ c ∈ (front ++ new).head?, ¬ Shape.isLineEnd c := by
      cases front with
      | nil =>
        intro c hc lineEnd
        obtain ⟨d, hd, other⟩ := r.lineEnd c hc lineEnd
        exact before d hd other
      | cons d ds => exact before
    exact (Shape.run_append (Shape.mem_someOf.1 matched.1).2 boundary).le
  | number =>
    apply h.replace_apart ⟨(h.matched nofun).1, nofun⟩ nofun
    intro piece hp c hc inside
    obtain ⟨n, negative, rfl⟩ := Shape.mem_pattern_number.1 hp
    refine r.not_head (p := fun c => c == '-' || c == '.' || c.isDigit) rfl c hc ?_
    rcases Shape.mem_signed inside with rfl | rfl | digit
    · rfl
    · rfl
    · rw [digit, Bool.or_true]
  | word =>
    apply h.replace_apart ⟨(h.matched nofun).1, nofun⟩ nofun
    intro piece hp c hc inside
    exact r.not_head (p := Char.isAlpha) rfl c hc ((Shape.mem_someOf.1 hp).2 c inside)
  | quoted =>
    have matched : Shape.quoted.Matches cs (front ++ new) := ⟨(h.matched nofun).1, nofun⟩
    apply longest_of_matches matched
    obtain ⟨inner, hi, rfl⟩ := Shape.mem_pattern_quoted.1 matched.1
    show Shape.quoted.reach ('"' :: (inner ++ ['"']) ++ (front ++ new)) ≤ _
    rw [List.cons_append, List.append_assoc, List.singleton_append, Shape.reach_quoted hi]
    simp
  | mark =>
    apply h.replace_apart ⟨(h.matched nofun).1, nofun⟩ nofun
    rintro _ ⟨d, hd, rfl⟩ c hc inside
    obtain rfl := List.mem_singleton.1 inside
    exact r.not_head (p := Shape.isMark) rfl c hc hd
  | stray =>
    obtain ⟨c, whole, strays⟩ := h.stray_iff_strays.1 rfl
    obtain rfl : cs = [c] := whole
    apply longest_of_strays
    rcases strays with unknown | point | ⟨sign, none⟩ | ⟨opening, unclosed⟩
    · exact .inl unknown
    · exact .inr (.inl point)
    · exact .inr (.inr (.inl ⟨sign, not_head_append none (r.not_head (p := Char.isDigit) rfl)⟩))
    · refine .inr (.inr (.inr ⟨opening, ?_⟩))
      intro closing
      apply unclosed
      rcases List.mem_append.1 closing with inside | inside
      · exact List.mem_append_left _ inside
      · exact List.mem_append_right _ (quote rfl inside)

end

/-! ## Lexemes in front of a replacement -/

section

variable {before after : List Lexeme} {new old : List Char}

/-- The lexemes at the end of a text are those of the end of the text. -/
theorem cut_back (h : cut text = before ++ after) : cut (after.flatMap (·.chars)) = after := by
  induction before generalizing text with
  | nil =>
    rw [← List.nil_append after, ← h, flatten_cut]
  | cons m before ih =>
    obtain ⟨c, cs, -, -, rest⟩ := cut_eq_cons h
    exact ih rest.symm

/-- A comment that is not the last lexeme ends with its line. -/
theorem closed_of_cut (h : cut text = before ++ l :: after) :
    ∀ m ∈ before, m.shape = .comment → m.chars.getLast? = some '\n' := by
  intro m hm shape
  obtain ⟨front, back, rfl⟩ := List.append_of_mem hm
  have nonempty := (longest_of_cut h).1
  have split : cut text = front ++ m :: (back ++ l :: after) := by simpa using h
  rcases ((longest_of_cut split).2.matches_of_shape shape (by decide)).2 rfl with none | ended
  · rw [List.flatMap_append, List.flatMap_cons] at none
    exact absurd (List.append_eq_nil_iff.1 (List.append_eq_nil_iff.1 none).2).1 nonempty
  · exact ended

/-- **The lexemes before a replacement** give the tokens that they gave. -/
theorem contents_front (h : cut (before.flatMap (·.chars) ++ old) = before ++ cut old)
    (closed : ∀ m ∈ before, m.shape = .comment → m.chars.getLast? = some '\n') (r : Fits new old)
    (quote : ∀ m ∈ before, m.shape = .stray → '"' ∈ new → '"' ∈ old) :
    contents (before.flatMap (·.chars) ++ new) = before.filterMap content? ++ contents new := by
  induction before with
  | nil => rfl
  | cons m before ih =>
    rw [List.flatMap_cons, List.append_assoc] at h ⊢
    have split : cut (m.chars ++ (before.flatMap (·.chars) ++ old)) = [] ++ m :: (before ++ cut old) := h
    obtain ⟨nonempty, longest⟩ := longest_of_cut split
    rw [List.flatMap_append, flatten_cut] at longest
    rw [cut_of_longest nonempty longest] at h
    have later := ih (List.cons.inj h).2 (fun n hn => closed n (List.mem_cons_of_mem m hn))
      fun n hn => quote n (List.mem_cons_of_mem m hn)
    by_cases blank : m.shape = .blanks
    · have matched := longest.matches_of_shape blank (by decide)
      have silent : m.content? = none := by
        unfold content? token?
        rw [blank]
        rfl
      rw [contents_blanks (Shape.mem_someOf.1 matched.1).2, later, List.filterMap_cons_none silent]
    · have stays := longest.replace blank (closed m List.mem_cons_self) r (quote m List.mem_cons_self)
      rw [stays.contents_append nonempty, later, List.filterMap_cons]
      cases m.content? <;> rfl

end

end Lexeme
end LitSpheres
