/-
  A text and the same text with unified line ends are read alike.

  1. **Program** — a text from a file has a line feed for each of its line ends before it is read; a text from
     elsewhere has not.

  2. **Specification** — both have the same definitions or the same problem at the same place, if no quoted text
     holds a carriage return, and if the comments hold nothing but comments and empty lines behind their
     carriage returns.

  3. **The crux** — lexeme by lexeme, both texts give the same tokens at the same places, but for runs of line
     ends, which may be longer in the one where a comment ends earlier.  Such runs are read in step.
-/
import Mathlib.Data.List.TakeWhile
import LitSpheres.Proofs.Grammar.InStep
import LitSpheres.Proofs.Token.LineEnds

namespace LitSpheres

open Text (Place unifyLineEnds)

/-! ## Nothing may differ -/

theorem Assignment.Near.eq {a b : Assignment} (h : a.Near Eq b) : a = b := by
  obtain ⟨name, value, place⟩ := a
  obtain ⟨rfl, rfl, rfl⟩ := h
  rfl

theorem Block.Near.eq {b c : Block} (h : b.Near Eq c) : b = c := by
  obtain ⟨kind, as, place⟩ := b
  obtain ⟨kind', bs, place'⟩ := c
  obtain ⟨rfl, all, rfl⟩ := h
  have same : as = bs := List.forall₂_eq_eq_eq ▸ all.imp fun _ _ => Assignment.Near.eq
  rw [same]

/-- Each token stands for itself only, and so do places and problems. -/
def Leeway.none : Leeway where
  same := Eq
  near := Eq
  alike := Eq
  place := congrArg Token.place
  refl _ := rfl
  character := congrArg TextProblem.character
  grammar g := congrArg fun t => TextProblem.grammar (g t)
  meaning near hb hc := by
    rw [near.eq, hc] at hb
    rw [Except.error.inj hb]

/-- Outcomes that agree exactly are the same. -/
theorem Reading.Agree.eq {r s : Reading} (h : Agree .none r s) : r.result = s.result := by
  rcases h.result with ⟨definitions, hr, hs⟩ | ⟨p, q, hr, hs, rfl⟩
  · rw [hr, hs]
  · rw [hr, hs]

namespace Lexeme

open Reader (InStep InStepBehind afterNewlines)

variable {l : Lexeme} {cs rest text : List Char} {place : Place}

/-! ## Lexemes in step -/

/-- Whether a lexeme is read the same with unified line ends: a quoted text has no carriage return, and a
    comment holds line ends only behind its carriage returns, with blanks and comments between them. -/
structure KeepsLines (l : Lexeme) : Prop where
  quoted : l.shape = .quoted → '\r' ∉ l.chars
  comment : l.shape = .comment → ∀ t ∈ tokenize (unifyLineEnds l.chars), t.kind = .newline

/-- A number sign gives a line end, whatever follows. -/
theorem exists_scan_comment (place : Place) (cs : List Char) :
    ∃ more, scan place ('#' :: cs) = { kind := .newline, place } :: more := by
  obtain ⟨body, hb, rfl | ⟨behind, rfl⟩⟩ := Shape.split_at_run '\n' cs
  · exact ⟨[], scan_comment_end place hb⟩
  · exact ⟨_, scan_comment place hb behind⟩

/-- A text that gives line ends only does so wherever it starts. -/
theorem newlines_of_tokenize (idle : ∀ t ∈ tokenize cs, t.kind = .newline) (place : Place) :
    ∀ t ∈ scan place cs, t.kind = .newline := by
  intro t ht
  have inside : t.content ∈ (tokenize cs).map Token.content := by
    rw [content_tokenize, ← content_scan place]
    exact List.mem_map_of_mem ht
  obtain ⟨u, hu, same⟩ := List.mem_map.1 inside
  exact (congrArg Content.kind same).symm.trans (idle u hu)

section

variable (h : l.Longest rest) (nonempty : l.chars ≠ [])
  (later : InStep .none (scan (place.advance l.chars) rest) (scan (place.advance l.chars) (unifyLineEnds rest)))

include h nonempty later

/-- A run of line ends is one in both texts. -/
theorem inStep_lineEnds (shape : l.shape = .lineEnds) :
    InStep .none (scan place (l.chars ++ rest)) (scan place (unifyLineEnds l.chars ++ unifyLineEnds rest)) := by
  have ends := (Shape.mem_someOf.1 (h.matches_of_shape shape (by decide)).1).2
  have before := h.not_isLineEnd shape
  have endsToo : ∀ c ∈ unifyLineEnds l.chars, Shape.isLineEnd c := by
    intro c hc
    by_cases feed : c = '\n'
    · rw [feed]
      rfl
    · exact ends c (Text.mem_of_mem_unifyLineEnds hc feed)
  have nonemptyToo : unifyLineEnds l.chars ≠ [] := by
    intro none
    have first := Text.head?_unifyLineEnds l.chars
    rw [none] at first
    exact nonempty (List.head?_eq_none_iff.1 (Option.map_eq_none_iff.1 first.symm))
  have boundary : ∀ c ∈ (unifyLineEnds rest).head?, ¬ Shape.isLineEnd c := by
    intro c hc
    rw [Text.head?_unifyLineEnds] at hc
    obtain ⟨d, hd, rfl⟩ := Option.map_eq_some_iff.1 hc
    have other : d ≠ '\r' := by
      rintro rfl
      exact before '\r' hd rfl
    rw [if_neg other]
    exact before d hd
  rw [scan_lineEnds place nonempty ends before, scan_lineEnds place nonemptyToo endsToo boundary,
    Text.advance_unifyLineEnds]
  exact .lineEnd rfl rfl rfl later.behind

/-- A comment gives a line end in both texts, and in one of them further line ends behind it. -/
theorem inStep_comment (shape : l.shape = .comment)
    (idle : ∀ t ∈ tokenize (unifyLineEnds l.chars), t.kind = .newline) :
    InStep .none (scan place (l.chars ++ rest)) (scan place (unifyLineEnds l.chars ++ unifyLineEnds rest)) := by
  obtain ⟨matched, ended⟩ := h.matches_of_shape shape (by decide)
  have here : l.token? place = some { kind := .newline, place } := by
    unfold token?
    rw [shape]
  have begins : (unifyLineEnds l.chars).head? = some '#' := by
    rw [Text.head?_unifyLineEnds]
    obtain ⟨body, -, whole | whole⟩ := Shape.mem_pattern_comment.1 matched
    · rw [whole]
      rfl
    · rw [whole]
      rfl
  obtain ⟨body, begun⟩ := List.head?_eq_some_iff.1 begins
  obtain ⟨more, there⟩ := exists_scan_comment place (body ++ unifyLineEnds rest)
  rw [← List.cons_append, ← begun] at there
  rw [h.scan_append nonempty, here, there]
  refine .lineEnd rfl rfl rfl ?_
  rcases ended rfl with rfl | closed
  · -- the comment is the last lexeme, and so are the line ends that it becomes
    have last : unifyLineEnds l.chars ++ unifyLineEnds [] = unifyLineEnds l.chars := List.append_nil _
    rw [last] at there
    have skipped : afterNewlines more = [] := by
      refine List.dropWhile_eq_nil_iff.2 fun t ht => decide_eq_true ?_
      apply newlines_of_tokenize idle place
      rw [there]
      exact List.mem_cons_of_mem _ ht
    rw [scan_nil, skipped]
    exact .nil
  · -- what the comment holds behind its first line end gives line ends only, and they are skipped
    have quiet := quiet_of_newlines (Text.not_mem_unifyLineEnds _) (Text.getLast?_unifyLineEnds closed) idle
    have behind := quiet place (unifyLineEnds rest)
    rw [there, Reader.afterNewlines_cons rfl, Text.advance_unifyLineEnds] at behind
    rw [behind]
    exact later.behind

/-- Any other lexeme that speaks is the same token in both texts. -/
theorem inStep_other (plain : '\r' ∉ l.chars) (speaks : l.shape ≠ .blanks) (comment : l.shape ≠ .comment)
    (lineEnds : l.shape ≠ .lineEnds) :
    InStep .none (scan place (l.chars ++ rest)) (scan place (unifyLineEnds l.chars ++ unifyLineEnds rest)) := by
  rw [Text.unifyLineEnds_of_not_mem plain, h.scan_append nonempty,
    (h.unify speaks comment).scan_append nonempty]
  have content := content_token? l place
  cases given : l.token? place with
  | none => exact later
  | some t =>
    rw [given] at content
    refine .token ?_ rfl rfl later
    intro newline
    have only : ∀ c ∈ l.content?, c.kind = .newline := by
      rw [← content]
      rintro _ ⟨⟩
      exact newline
    rcases shape_of_newline only with shape | shape | shape
    · exact speaks shape
    · exact comment shape
    · exact lineEnds shape

end

/-- **Both texts are in step**, wherever they start. -/
theorem inStep_unify (good : ∀ l ∈ cut cs, l.KeepsLines) (place : Place) :
    InStep .none (scan place cs) (scan place (unifyLineEnds cs)) := by
  induction all : cut cs generalizing cs place with
  | nil =>
    have empty := flatten_cut cs
    rw [all] at empty
    rw [← empty]
    exact (scan_nil place).symm ▸ .nil
  | cons l ls ih =>
    have split : cut cs = [l] ++ ls := all
    have front : cut cs = [] ++ l :: ls := all
    obtain ⟨nonempty, longest⟩ := longest_of_cut front
    have whole := text_of_cut split
    have behind := cut_back split
    rw [List.flatMap_singleton] at whole
    generalize ls.flatMap (·.chars) = rest at longest whole behind
    have later := ih (fun m hm => good m (by rw [all, ← behind]; exact List.mem_cons_of_mem l hm))
      (place.advance l.chars) behind
    have keeps := good l (by rw [all]; exact List.mem_cons_self)
    -- no lexeme ends between a carriage return and its line feed, so each is unified by itself
    rw [whole, Text.unifyLineEnds_append longest.not_splitsBreak]
    by_cases blanks : l.shape = .blanks
    · have blank := (Shape.mem_someOf.1 (longest.matches_of_shape blanks (by decide)).1).2
      rw [Text.unifyLineEnds_of_not_mem (not_carriage_of_blank blank), scan_blanks place blank, scan_blanks place blank]
      exact later
    · by_cases lineEnds : l.shape = .lineEnds
      · exact inStep_lineEnds longest nonempty later lineEnds
      · by_cases comment : l.shape = .comment
        · exact inStep_comment longest nonempty later comment (keeps.comment comment)
        · have plain := longest.not_mem_carriage comment lineEnds keeps.quoted
          exact inStep_other longest nonempty later plain blanks comment lineEnds

end Lexeme

/-- **The same definitions or the same problem** are read with unified line ends. -/
theorem parse_unifyLineEnds {text : List Char} (good : ∀ l ∈ Lexeme.cut text, l.KeepsLines) :
    parse (unifyLineEnds text) = parse text :=
  (Reading.agree_ofTokens (Lexeme.inStep_unify good {}).behind).eq.symm

end LitSpheres
