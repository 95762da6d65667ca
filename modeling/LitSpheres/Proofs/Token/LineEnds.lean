/-
  What unified line ends do to the lexemes of a text.

  1. **Program** — a text with a line feed for each of its line ends is cut into lexemes like any other.

  2. **Specification** — a lexeme without a carriage return stays as it is, whatever becomes of the text behind
     it.  Blanks, line ends and closed comments without a carriage return give line ends at most, and
     what stands behind them is scanned from the place behind them.

  3. **The crux** — up to its first carriage return the text behind a lexeme is the same, and there a line feed
     stands instead, which continues no lexeme either.
-/
import LitSpheres.Proofs.Grammar.Reading
import LitSpheres.Proofs.Text.LineEnds
import LitSpheres.Proofs.Token.Layout

namespace LitSpheres.Lexeme

open Text (Place SplitsBreak unifyLineEnds)
open Reader (afterNewlines)

variable {l : Lexeme} {c : Char} {cs rest ws : List Char} {place : Place}

/-! ## Lexemes that stay -/

/-- **A lexeme stays the longest match** when the line ends behind it are unified. -/
theorem Longest.unify (h : l.Longest rest) (speaks : l.shape ≠ .blanks) (other : l.shape ≠ .comment) :
    l.Longest (unifyLineEnds rest) := by
  obtain ⟨front, plain, rfl | ⟨behind, rfl⟩⟩ := Shape.split_at_run '\r' rest
  · rw [Text.unifyLineEnds_of_not_mem plain]
    exact h
  · rw [Text.unifyLineEnds_append_of_not_mem plain]
    apply h.replace speaks fun comment => absurd comment other
    · have first := Text.head?_unifyLineEnds ('\r' :: behind)
      constructor
      · rw [first]
        rintro _ ⟨⟩
        exact .inr (.inl rfl)
      · intro _ _ _
        exact ⟨'\r', rfl, rfl⟩
    · intro _ quote
      exact Text.mem_of_mem_unifyLineEnds quote (by decide)

/-- Only comments, line ends and quoted texts hold a carriage return. -/
theorem Longest.not_mem_carriage (h : l.Longest rest) (comment : l.shape ≠ .comment)
    (lineEnds : l.shape ≠ .lineEnds) (quoted : l.shape = .quoted → '\r' ∉ l.chars) : '\r' ∉ l.chars := by
  intro inside
  rcases h.shape_of_mem inside rfl with shape | shape | shape
  · exact comment shape
  · exact lineEnds shape
  · exact quoted shape inside

/-! ## Pieces that give line ends at most -/

/-- Characters that change the tokens behind them at most by line ends at the front, and move their places. -/
def Quiet (cs : List Char) : Prop :=
  ∀ place rest, afterNewlines (scan place (cs ++ rest)) = afterNewlines (scan (place.advance cs) rest)

/-- The run of line ends that some line ends belong to gives one token, where it starts. -/
theorem exists_scan_lineEnds (place : Place) (nonempty : ws ≠ []) (ends : ∀ c ∈ ws, Shape.isLineEnd c)
    (whole : ∀ front, ¬ SplitsBreak ws front) (rest : List Char) :
    ∃ more, scan place (ws ++ rest) = { kind := .newline, place } :: more ∧
      afterNewlines more = afterNewlines (scan (place.advance ws) rest) := by
  obtain ⟨front, back, rfl, further, boundary⟩ := exists_run Shape.isLineEnd rest
  have all : ∀ c ∈ ws ++ front, Shape.isLineEnd c := List.forall_mem_append.2 ⟨ends, further⟩
  refine ⟨scan (place.advance (ws ++ front)) back, ?_, ?_⟩
  · rw [← List.append_assoc]
    exact scan_lineEnds place (by simp [nonempty]) all boundary
  · rw [Text.advance_append place (whole front)]
    by_cases none : front = []
    · rw [none]
      rfl
    · rw [scan_lineEnds _ none further boundary, Reader.afterNewlines_cons rfl]

theorem quiet_lineEnds (nonempty : ws ≠ []) (ends : ∀ c ∈ ws, Shape.isLineEnd c)
    (whole : ∀ front, ¬ SplitsBreak ws front) : Quiet ws := by
  intro place rest
  obtain ⟨more, scanned, behind⟩ := exists_scan_lineEnds place nonempty ends whole rest
  rw [scanned, Reader.afterNewlines_cons rfl, behind]

theorem quiet_blanks (blank : ∀ c ∈ ws, Shape.isBlank c) : Quiet ws := by
  intro place rest
  rw [scan_blanks place blank]

theorem quiet_comment {body : List Char} (h : '\n' ∉ body) : Quiet ('#' :: (body ++ ['\n'])) := by
  intro place rest
  rw [List.cons_append, List.append_assoc, List.singleton_append, scan_comment place h,
    Reader.afterNewlines_cons rfl]

/-- A text of such pieces is one. -/
theorem quiet_flatMap {ls : List Lexeme} (h : ∀ l ∈ ls, Quiet l.chars ∧ '\r' ∉ l.chars) :
    Quiet (ls.flatMap (·.chars)) := by
  induction ls with
  | nil => exact fun _ _ => rfl
  | cons l ls ih =>
    obtain ⟨quiet, plain⟩ := h l List.mem_cons_self
    intro place rest
    rw [List.flatMap_cons, List.append_assoc, quiet, ih fun m hm => h m (List.mem_cons_of_mem l hm),
      Text.advance_append place (Text.not_splitsBreak_of_not_mem plain _)]

theorem ofMark_ne_newline (c : Char) : TokenKind.ofMark c ≠ .newline := by
  unfold TokenKind.ofMark
  grind

/-- The shapes of lexemes that give no token or a line end. -/
theorem shape_of_newline (h : ∀ given ∈ l.content?, given.kind = .newline) :
    l.shape = .blanks ∨ l.shape = .comment ∨ l.shape = .lineEnds := by
  obtain ⟨s, cs⟩ := l
  cases s with
  | blanks => exact .inl rfl
  | comment => exact .inr (.inl rfl)
  | lineEnds => exact .inr (.inr rfl)
  | number | word | quoted | stray => exact absurd (h _ rfl) nofun
  | mark => exact absurd (h _ rfl) (ofMark_ne_newline _)

/-- **A text without carriage returns that gives line ends only**, and ends its last line, is quiet. -/
theorem quiet_of_newlines (plain : '\r' ∉ cs) (feed : cs.getLast? = some '\n')
    (idle : ∀ t ∈ tokenize cs, t.kind = .newline) : Quiet cs := by
  rw [← flatten_cut cs]
  apply quiet_flatMap
  intro l hl
  have part : '\r' ∉ l.chars := by
    intro inside
    rw [← flatten_cut cs] at plain
    exact plain (List.mem_flatMap.2 ⟨l, hl, inside⟩)
  refine ⟨?_, part⟩
  have given : ∀ c ∈ l.content?, c.kind = .newline := by
    intro c hc
    obtain ⟨t, ht, rfl⟩ := exists_token_of_content hl hc
    exact idle t ht
  obtain ⟨before, after, split⟩ := List.append_of_mem hl
  obtain ⟨nonempty, longest⟩ := longest_of_cut split
  rcases shape_of_newline given with shape | shape | shape
  · exact quiet_blanks (Shape.mem_someOf.1 (longest.matches_of_shape shape (by decide)).1).2
  · obtain ⟨matched, ended⟩ := longest.matches_of_shape shape (by decide)
    have closed : l.chars.getLast? = some '\n' := by
      rcases ended rfl with last | closed
      · -- the last lexeme ends as the text does
        rw [text_of_cut split, List.flatMap_cons, last, List.append_nil,
          List.getLast?_append_of_ne_nil _ nonempty] at feed
        exact feed
      · exact closed
    obtain ⟨body, hb, whole | whole⟩ := Shape.mem_pattern_comment.1 matched
    · rw [whole]
      exact quiet_comment hb
    · rw [whole] at closed
      exact absurd (List.mem_of_getLast? closed) (by simpa using hb)
  · exact quiet_lineEnds nonempty (Shape.mem_someOf.1 (longest.matches_of_shape shape (by decide)).1).2
      (Text.not_splitsBreak_of_not_mem part)

end LitSpheres.Lexeme
