/-
  Layout does not matter to the reader of a scene.

  1. **Program** — a text is cut into tokens, the tokens are read as blocks, and each block is given its
     meaning; a problem names the places of tokens.

  2. **Specification** — blanks that are put in where a lexeme ends change no token's kind or value.  A
     comment that is put in before a line feed, and idle lines behind it, change neither the definitions
     nor the class of the problem.

  3. **The crux** — tokens with the same contents, up to the lengths of runs of line ends, are in step, and
     what is read in step has the same outcome whatever the places are.
-/
import LitSpheres.Proofs.Grammar.InStep
import LitSpheres.Proofs.Token.Layout

namespace LitSpheres

/-! ## Problems of one class -/

/-- The classes of problems. -/
inductive ProblemClass where
  | character
  | grammar
  | meaning
deriving DecidableEq, Repr

def TextProblem.toClass : TextProblem → ProblemClass
  | character _ => .character
  | grammar _ => .grammar
  | meaning _ => .meaning

/-- Any places may stand for each other, and any problems of one class. -/
def Leeway.anyPlace : Leeway where
  same _ _ := True
  near _ _ := True
  alike p q := p.toClass = q.toClass
  place _ := trivial
  refl _ := rfl
  character _ := rfl
  grammar _ _ := rfl
  meaning _ _ _ := rfl

namespace Reader

open Content (squeeze behindLines)

variable {t u : Token} {ts us : List Token}

/-! ## Tokens that differ in layout -/

theorem content_afterNewlines (ts : List Token) :
    (afterNewlines ts).map Token.content = behindLines (ts.map Token.content) := by
  induction ts with
  | nil => rfl
  | cons t ts ih =>
    by_cases ht : t.kind = .newline
    · rw [afterNewlines_cons ht, List.map_cons, Content.behindLines_cons ht, ih]
    · rw [afterNewlines_cons_of_ne ht, List.map_cons, Content.behindLines_cons_of_ne ht]

/-- What stands behind the first line ends is the same up to the lengths of runs, if all is. -/
theorem squeeze_afterNewlines
    (h : behindLines (squeeze (ts.map Token.content)) = behindLines (squeeze (us.map Token.content))) :
    squeeze ((afterNewlines ts).map Token.content) = squeeze ((afterNewlines us).map Token.content) := by
  rw [content_afterNewlines, content_afterNewlines, ← Content.behindLines_squeeze,
    ← Content.behindLines_squeeze]
  exact h

/-- How two lists begin whose contents are the same up to the lengths of runs of line ends: both with the same
    token, or both with a line end. -/
inductive SameFront : List Token → List Token → Prop
  | nil : SameFront [] []
  | token {t u : Token} {ts us : List Token} : t.kind ≠ .newline → t.content = u.content →
      squeeze (ts.map Token.content) = squeeze (us.map Token.content) → SameFront (t :: ts) (u :: us)
  | lineEnd {t u : Token} {ts us : List Token} : t.kind = .newline → u.kind = .newline →
      squeeze ((afterNewlines ts).map Token.content) = squeeze ((afterNewlines us).map Token.content) →
      SameFront (t :: ts) (u :: us)

theorem sameFront (h : squeeze (ts.map Token.content) = squeeze (us.map Token.content)) : SameFront ts us := by
  have nonempty (c : Content) (cs : List Content) : squeeze (c :: cs) ≠ [] := by
    by_cases hc : c.kind = .newline
    · rw [Content.squeeze_cons hc]
      exact List.cons_ne_nil _ _
    · rw [Content.squeeze_cons_of_ne hc]
      exact List.cons_ne_nil _ _
  cases ts with
  | nil =>
    cases us with
    | nil => exact .nil
    | cons u us => exact absurd h.symm (nonempty _ _)
  | cons t ts =>
    cases us with
    | nil => exact absurd h (nonempty _ _)
    | cons u us =>
      rw [List.map_cons, List.map_cons] at h
      by_cases ht : t.content.kind = .newline
      · by_cases hu : u.content.kind = .newline
        · rw [Content.squeeze_cons ht, Content.squeeze_cons hu] at h
          exact .lineEnd ht hu (squeeze_afterNewlines (List.cons.inj h).2)
        · rw [Content.squeeze_cons ht, Content.squeeze_cons_of_ne hu] at h
          have kind := congrArg Content.kind (List.cons.inj h).1
          exact absurd kind.symm hu
      · by_cases hu : u.content.kind = .newline
        · rw [Content.squeeze_cons_of_ne ht, Content.squeeze_cons hu] at h
          have kind := congrArg Content.kind (List.cons.inj h).1
          exact absurd kind ht
        · rw [Content.squeeze_cons_of_ne ht, Content.squeeze_cons_of_ne hu] at h
          exact .token ht (List.cons.inj h).1 (List.cons.inj h).2

/-- **Tokens with the same contents**, up to the lengths of runs of line ends, are in step. -/
theorem inStep_of_squeeze (h : squeeze (ts.map Token.content) = squeeze (us.map Token.content)) :
    InStep .anyPlace ts us := by
  induction length : ts.length using Nat.strongRecOn generalizing ts us with
  | ind n ih =>
    cases sameFront h with
    | nil => exact .nil
    | token ht hc rest => exact .token ht hc trivial (ih _ (by simp [← length]) rest rfl)
    | @lineEnd t u ts us ht hu rest =>
      have shorter : (afterNewlines ts).length < n := by
        rw [← length]
        exact Nat.lt_succ_of_le (afterNewlines_suffix ts).length_le
      exact .lineEnd ht hu trivial (ih _ shorter rest rfl)

end Reader

/-! ## Whole texts -/

/-- Outcomes that agree up to places are the same, up to the class of the problem. -/
theorem Reading.Agree.toClass {r s : Reading} (h : Agree .anyPlace r s) :
    r.result.mapError TextProblem.toClass = s.result.mapError TextProblem.toClass := by
  rcases h.result with ⟨definitions, hr, hs⟩ | ⟨p, q, hr, hs, same⟩
  · rw [hr, hs]
  · rw [hr, hs]
    exact congrArg Except.error same

/-- Texts with the same tokens, up to the lengths of runs of line ends, mean the same. -/
theorem parse_congr {text other : List Char}
    (h : Content.squeeze (Lexeme.contents text) = Content.squeeze (Lexeme.contents other)) :
    (parse text).mapError TextProblem.toClass = (parse other).mapError TextProblem.toClass := by
  rw [← Lexeme.content_tokenize, ← Lexeme.content_tokenize] at h
  exact (Reading.agree_ofTokens (Reader.inStep_of_squeeze h).behind).toClass

/-- **Layout does not matter**: blanks that are put in between two lexemes, at the start or at the end leave the
    kinds and values of the tokens as they are.  A comment that is put in before a line feed among line
    ends, and idle lines that are put in behind this line feed, leave the definitions as they are, or the
    class of the problem. -/
theorem layout_irrelevant (text : List Char) :
    (∀ before after ws, Lexeme.cut text = before ++ after → (∀ c ∈ ws, Shape.isBlank c) →
      (tokenize (before.flatMap (·.chars) ++ (ws ++ after.flatMap (·.chars)))).map Token.content =
        (tokenize text).map Token.content) ∧
    (∀ before l after pre post remark lines, Lexeme.cut text = before ++ l :: after → l.shape = .lineEnds →
      l.chars = pre ++ '\n' :: post → (remark = [] ∨ Text.Remark remark) →
      (∀ line ∈ lines, Text.IdleLine line) →
      (parse (before.flatMap (·.chars) ++
          Lexeme.withLines pre remark lines post (after.flatMap (·.chars)))).mapError TextProblem.toClass =
        (parse text).mapError TextProblem.toClass) := by
  constructor
  · intro before after ws split blank
    rw [Lexeme.content_tokenize, Lexeme.content_tokenize]
    exact Lexeme.contents_insert_blanks split blank
  · intro before l after pre post remark lines split shape feed hr hl
    exact parse_congr (Lexeme.squeeze_insert_lines split shape feed hr hl)

/-- A window with a comment behind its opening brace, an empty line and a line of comment, and one with blanks
    before the brace, are those of the same block without them. -/
theorem layout_irrelevant_window :
    (parse "window \x7b# sides\n \n# note\nwidth = 8\n\x7d\n".toList).mapError TextProblem.toClass =
        (parse "window \x7b\nwidth = 8\n\x7d\n".toList).mapError TextProblem.toClass ∧
      (tokenize "window\t \x7b\nwidth = 8\n\x7d\n".toList).map Token.content =
        (tokenize "window \x7b\nwidth = 8\n\x7d\n".toList).map Token.content := by
  have layout := layout_irrelevant "window \x7b\nwidth = 8\n\x7d\n".toList
  constructor
  · have split : Lexeme.cut "window \x7b\nwidth = 8\n\x7d\n".toList =
        Lexeme.cut "window \x7b".toList ++
          { shape := .lineEnds, chars := ['\n'] } :: Lexeme.cut "width = 8\n\x7d\n".toList := by decide +kernel
    have remark : Text.Remark "# sides".toList := ⟨" sides".toList, rfl, by decide, by decide⟩
    have empty : Text.IdleLine ([' '] ++ ['\n']) := .blank (List.all_eq_true.1 rfl) (by decide)
    have note : Text.IdleLine ([] ++ ("# note".toList ++ ['\n'])) :=
      .remark (List.forall_mem_nil _) ⟨" note".toList, rfl, by decide, by decide⟩
    have idle : ∀ line ∈ [[' '] ++ ['\n'], [] ++ ("# note".toList ++ ['\n'])], Text.IdleLine line := by
      intro line hl
      rcases List.mem_cons.1 hl with rfl | hl
      · exact empty
      · rw [List.mem_singleton.1 hl]
        exact note
    have same := layout.2 _ _ _ [] [] _ _ split rfl rfl (.inr remark) idle
    rw [Lexeme.flatten_cut, Lexeme.flatten_cut] at same
    exact same
  · have split : Lexeme.cut "window \x7b\nwidth = 8\n\x7d\n".toList =
        Lexeme.cut "window".toList ++ Lexeme.cut " \x7b\nwidth = 8\n\x7d\n".toList := by decide +kernel
    have same := layout.1 _ _ ['\t'] split (List.all_eq_true.1 rfl)
    rw [Lexeme.flatten_cut, Lexeme.flatten_cut] at same
    exact same

end LitSpheres
