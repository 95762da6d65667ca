/-
  How much of a text its tokens do not show: blanks, comments and empty lines.

  1. **Program** — blanks give no token; a comment gives the same token as a line end, and a run of line
     ends gives one token, as long as no comment stands in it.

  2. **Specification** — the kinds and values of the tokens stay as they are when blanks are put in where a
     lexeme ends.  They stay the same up to the lengths of runs of line ends when a comment without
     double quotes is put in before a line feed, or idle lines are put in behind it.

  3. **The crux** — blanks, line ends and whole comments in front of a text change its tokens only by line
     ends at their front.  What stands before them keeps its tokens, by the theorem on replacements;
     only a comment at the end of the text swallows the blanks behind it, and stays a comment.
-/
import LitSpheres.Proofs.Token.Replace

namespace LitSpheres

namespace Lexeme

variable {l : Lexeme} {c : Char} {cs rest text ws : List Char} {before after : List Lexeme}

/-! ## Blanks -/

theorem contents_of_cut (h : cut text = before ++ after) :
    contents text = before.filterMap content? ++ contents (after.flatMap (·.chars)) := by
  show (cut text).filterMap content? = _
  rw [contents, cut_back h, h, List.filterMap_append]

theorem text_of_cut (h : cut text = before ++ after) :
    text = before.flatMap (·.chars) ++ after.flatMap (·.chars) := by
  rw [← List.flatMap_append, ← h, flatten_cut]

/-- The lexemes before a replacement, when they are some of a text. -/
theorem contents_replace {new : List Char} (h : cut text = before ++ after)
    (closed : ∀ m ∈ before, m.shape = .comment → m.chars.getLast? = some '\n')
    (r : Replaces new (after.flatMap (·.chars))) :
    contents (before.flatMap (·.chars) ++ new) = before.filterMap content? ++ contents new := by
  apply contents_front _ closed r.toFits fun _ _ _ => r.quote
  rw [← text_of_cut h, cut_back h, h]

theorem not_quote_of_blank (blank : ∀ c ∈ ws, Shape.isBlank c) : '"' ∉ ws := by
  intro quote
  exact absurd (blank _ quote) (by decide)

/-- Blanks may stand in front of anything. -/
theorem replaces_blanks (nonempty : ws ≠ []) (blank : ∀ c ∈ ws, Shape.isBlank c) (old : List Char) :
    Replaces (ws ++ old) old := by
  obtain ⟨c, cs, rfl⟩ := List.exists_cons_of_ne_nil nonempty
  have first := blank c List.mem_cons_self
  refine { apart := ?_, lineEnd := ?_, quote := ?_ }
  · rintro d ⟨⟩
    exact .inl first
  · rintro d ⟨⟩ lineEnd
    have starts := Shape.starts_unique (by decide) (by decide) (Shape.starts_of_isBlank first)
      (Shape.starts_of_isLineEnd lineEnd)
    exact absurd starts (by decide)
  · intro quote
    rcases List.mem_append.1 quote with inside | behind
    · exact absurd inside (not_quote_of_blank blank)
    · exact behind

/-- A comment at the end of the text swallows blanks behind it. -/
theorem contents_insert_end {m : Lexeme} (h : cut text = before ++ [m]) (shape : m.shape = .comment)
    (unclosed : m.chars.getLast? ≠ some '\n') (blank : ∀ c ∈ ws, Shape.isBlank c) :
    contents ((before ++ [m]).flatMap (·.chars) ++ (ws ++ [])) = contents text := by
  have comment := ((longest_of_cut h).2.matches_of_shape shape (by decide)).1
  obtain ⟨body, feed, whole | whole⟩ := Shape.mem_pattern_comment.1 comment
  · rw [whole, ← List.cons_append, List.getLast?_concat] at unclosed
    exact absurd rfl unclosed
  · have swallowed : '\n' ∉ body ++ ws := by
      intro inside
      rcases List.mem_append.1 inside with inside | inside
      · exact feed inside
      · exact absurd (blank _ inside) (by decide)
    have last : [m].flatMap (·.chars) = '#' :: body := by
      rw [List.flatMap_singleton]
      exact whole
    have replaces : Replaces ('#' :: (body ++ ws)) ([m].flatMap (·.chars)) := by
      rw [last]
      refine { apart := ?_, lineEnd := ?_, quote := ?_ }
      · rintro d ⟨⟩
        exact .inr (.inr rfl)
      · rintro d ⟨⟩ lineEnd
        exact absurd lineEnd (by decide)
      · intro quote
        rw [← List.cons_append] at quote
        rcases List.mem_append.1 quote with inside | behind
        · exact inside
        · exact absurd behind (not_quote_of_blank blank)
    rw [List.flatMap_append, last, List.append_nil, List.append_assoc, List.cons_append,
      contents_replace h (closed_of_cut h) replaces, contents_of_cut h, last, contents_comment_end swallowed,
      contents_comment_end feed]

/-- **Blanks where a lexeme ends** leave the tokens as they are. -/
theorem contents_insert_blanks (h : cut text = before ++ after) (blank : ∀ c ∈ ws, Shape.isBlank c) :
    contents (before.flatMap (·.chars) ++ (ws ++ after.flatMap (·.chars))) = contents text := by
  by_cases nothing : ws = []
  · rw [nothing, List.nil_append, ← text_of_cut h]
  · by_cases closed : ∀ m ∈ before, m.shape = .comment → m.chars.getLast? = some '\n'
    · rw [contents_replace h closed (replaces_blanks nothing blank _), contents_blanks blank, contents_of_cut h]
    · simp only [not_forall] at closed
      obtain ⟨m, hm, shape, unclosed⟩ := closed
      obtain ⟨front, back, rfl⟩ := List.append_of_mem hm
      -- such a comment is the last lexeme
      have last : back = [] ∧ after = [] := by
        apply List.append_eq_nil_iff.1
        cases more : back ++ after with
        | nil => rfl
        | cons n others =>
          have split : cut text = (front ++ [m]) ++ n :: others := by
            rw [h, List.append_assoc, List.append_assoc, ← more]
            rfl
          exact absurd (closed_of_cut split m (by simp) shape) unclosed
      obtain ⟨rfl, rfl⟩ := last
      rw [List.append_nil] at h
      exact contents_insert_end h shape unclosed blank

end Lexeme

/-! ## Runs of line ends -/

namespace Content

/-- What stands behind the line ends at the front. -/
def behindLines (cs : List Content) : List Content := cs.dropWhile (·.kind = .newline)

/-- Every run of line ends as a single one. -/
def squeeze : List Content → List Content
  | [] => []
  | c :: cs => if c.kind = .newline then .lineEnd :: behindLines (squeeze cs) else c :: squeeze cs

variable {c : Content} {cs ds : List Content}

theorem behindLines_cons (h : c.kind = .newline) : behindLines (c :: cs) = behindLines cs :=
  List.dropWhile_cons_of_pos (decide_eq_true h)

theorem behindLines_cons_of_ne (h : c.kind ≠ .newline) : behindLines (c :: cs) = c :: cs :=
  List.dropWhile_cons_of_neg (by simpa using h)

theorem squeeze_cons (h : c.kind = .newline) :
    squeeze (c :: cs) = .lineEnd :: behindLines (squeeze cs) := if_pos h

theorem squeeze_cons_of_ne (h : c.kind ≠ .newline) : squeeze (c :: cs) = c :: squeeze cs := if_neg h

theorem behindLines_idem (cs : List Content) : behindLines (behindLines cs) = behindLines cs := by
  induction cs with
  | nil => rfl
  | cons c cs ih =>
    by_cases h : c.kind = .newline
    · rw [behindLines_cons h]
      exact ih
    · rw [behindLines_cons_of_ne h, behindLines_cons_of_ne h]

/-- Squeezing leaves what stands behind the first line ends to itself. -/
theorem behindLines_squeeze (cs : List Content) : behindLines (squeeze cs) = squeeze (behindLines cs) := by
  induction cs with
  | nil => rfl
  | cons c cs ih =>
    by_cases h : c.kind = .newline
    · rw [squeeze_cons h, behindLines_cons h, behindLines_cons rfl, behindLines_idem]
      exact ih
    · rw [squeeze_cons_of_ne h, behindLines_cons_of_ne h, behindLines_cons_of_ne h, squeeze_cons_of_ne h]

/-- Line ends and what stands behind all of them. -/
theorem squeeze_lineEnd (cs : List Content) :
    squeeze (.lineEnd :: cs) = .lineEnd :: squeeze (behindLines (.lineEnd :: cs)) := by
  rw [squeeze_cons rfl, behindLines_squeeze, behindLines_cons rfl]

theorem squeeze_append (front : List Content) (h : squeeze cs = squeeze ds) :
    squeeze (front ++ cs) = squeeze (front ++ ds) := by
  induction front with
  | nil => exact h
  | cons c front ih =>
    rw [List.cons_append, List.cons_append, squeeze, squeeze, ih]

end Content

/-! ## Idle lines -/

open Content (behindLines squeeze)

namespace Text

/-- A comment without double quotes, up to the end of its line. -/
def Remark (cs : List Char) : Prop := ∃ body, cs = '#' :: body ∧ '\n' ∉ body ∧ '"' ∉ body

/-- A whole line without a definition: blanks, or blanks and a comment. -/
inductive IdleLine : List Char → Prop
  | blank {ws ending : List Char} : (∀ c ∈ ws, Shape.isBlank c) →
      ending ∈ [['\n'], ['\r', '\n'], ['\r']] → IdleLine (ws ++ ending)
  | remark {ws remark : List Char} : (∀ c ∈ ws, Shape.isBlank c) → Remark remark →
      IdleLine (ws ++ (remark ++ ['\n']))

end Text

namespace Lexeme

variable {l : Lexeme} {c : Char} {cs ds rest text ws : List Char} {before after : List Lexeme}

/-- Characters that change the tokens of what follows them at most by line ends at the front. -/
def Idle (cs : List Char) : Prop :=
  ∀ rest, behindLines (contents (cs ++ rest)) = behindLines (contents rest)

theorem idle_nil : Idle [] := fun _ => rfl

theorem Idle.append (hc : Idle cs) (hd : Idle ds) : Idle (cs ++ ds) := by
  intro rest
  rw [List.append_assoc, hc, hd]

theorem idle_blanks (blank : ∀ c ∈ ws, Shape.isBlank c) : Idle ws := by
  intro rest
  rw [contents_blanks blank]

/-- The run of line ends that some line ends belong to. -/
theorem exists_contents_lineEnds (nonempty : ws ≠ []) (ends : ∀ c ∈ ws, Shape.isLineEnd c) (rest : List Char) :
    ∃ more, contents (ws ++ rest) = .lineEnd :: more ∧ behindLines more = behindLines (contents rest) := by
  obtain ⟨front, back, rfl, further, boundary⟩ := exists_run Shape.isLineEnd rest
  have all : ∀ c ∈ ws ++ front, Shape.isLineEnd c := List.forall_mem_append.2 ⟨ends, further⟩
  refine ⟨contents back, ?_, ?_⟩
  · rw [← List.append_assoc]
    exact contents_lineEnds (by simp [nonempty]) all boundary
  · by_cases none : front = []
    · rw [none]
      rfl
    · rw [contents_lineEnds none further boundary, Content.behindLines_cons rfl]

theorem idle_lineEnds (ends : ∀ c ∈ ws, Shape.isLineEnd c) : Idle ws := by
  intro rest
  by_cases nonempty : ws = []
  · rw [nonempty]
    rfl
  · obtain ⟨more, whole, behind⟩ := exists_contents_lineEnds nonempty ends rest
    rw [whole, Content.behindLines_cons rfl, behind]

theorem idle_remark {remark : List Char} (h : Text.Remark remark) : Idle (remark ++ ['\n']) := by
  obtain ⟨body, rfl, feed, -⟩ := h
  intro rest
  rw [List.append_assoc, List.cons_append, List.singleton_append, contents_comment feed,
    Content.behindLines_cons rfl]

theorem idle_line {line : List Char} (h : Text.IdleLine line) : Idle line := by
  cases h with
  | blank blanks ending =>
    apply (idle_blanks blanks).append
    apply idle_lineEnds
    rcases List.mem_cons.1 ending with rfl | ending
    · exact List.all_eq_true.1 rfl
    · rcases List.mem_cons.1 ending with rfl | ending
      · exact List.all_eq_true.1 rfl
      · rw [List.mem_singleton.1 ending]
        exact List.all_eq_true.1 rfl
  | remark blanks remark => exact (idle_blanks blanks).append (idle_remark remark)

theorem idle_lines {lines : List (List Char)} (h : ∀ line ∈ lines, Text.IdleLine line) :
    Idle lines.flatten := by
  induction lines with
  | nil => exact idle_nil
  | cons line lines ih =>
    rw [List.flatten_cons]
    apply (idle_line (h line List.mem_cons_self)).append
    exact ih fun other ho => h other (List.mem_cons_of_mem line ho)

/-! ## Comments and lines that are put in -/

theorem idle_remark_or_none {remark : List Char} (h : remark = [] ∨ Text.Remark remark) :
    Idle (remark ++ ['\n']) := by
  rcases h with rfl | h
  · exact idle_lineEnds (List.all_eq_true.1 rfl)
  · exact idle_remark h

/-- Any comment begins with a line end. -/
theorem exists_contents_comment (cs : List Char) : ∃ more, contents ('#' :: cs) = .lineEnd :: more := by
  obtain ⟨body, hb, rfl | ⟨behind, rfl⟩⟩ := Shape.split_at_run '\n' cs
  · exact ⟨[], contents_comment_end hb⟩
  · exact ⟨contents behind, contents_comment hb⟩

theorem not_quote_of_line {line : List Char} (h : Text.IdleLine line) : '"' ∉ line := by
  intro quote
  cases h with
  | blank blanks ending =>
    rcases List.mem_append.1 quote with inside | inside
    · exact not_quote_of_blank blanks inside
    · have known : ∀ ending ∈ [['\n'], ['\r', '\n'], ['\r']], '"' ∉ ending := by decide
      exact known _ ending inside
  | remark blanks remark =>
    obtain ⟨body, rfl, -, plain⟩ := remark
    rcases List.mem_append.1 quote with inside | inside
    · exact not_quote_of_blank blanks inside
    · exact absurd inside (by simpa using plain)

section

variable {pre post remark : List Char} {lines : List (List Char)}

/-- A comment before a line feed and idle lines behind it, in front of the rest of the line ends and of the
    text. -/
def withLines (pre remark : List Char) (lines : List (List Char)) (post rest : List Char) : List Char :=
  pre ++ (remark ++ '\n' :: (lines.flatten ++ (post ++ rest)))

/-- All that is put in, and the line ends around it, is idle. -/
theorem behindLines_withLines (ends : ∀ c ∈ pre ++ '\n' :: post, Shape.isLineEnd c)
    (hr : remark = [] ∨ Text.Remark remark) (hl : ∀ line ∈ lines, Text.IdleLine line) (rest : List Char) :
    behindLines (contents (withLines pre remark lines post rest)) = behindLines (contents rest) := by
  have front : Idle pre := idle_lineEnds fun c hc => ends c (List.mem_append_left _ hc)
  have back : Idle post := by
    apply idle_lineEnds
    intro c hc
    exact ends c (List.mem_append_right _ (List.mem_cons_of_mem _ hc))
  have whole := (front.append (idle_remark_or_none hr)).append ((idle_lines hl).append back) rest
  rw [← whole]
  unfold withLines
  simp only [List.append_assoc, List.cons_append, List.nil_append]

/-- What is put in begins with a line end or with a comment. -/
theorem head?_withLines (ends : ∀ c ∈ pre ++ '\n' :: post, Shape.isLineEnd c)
    (hr : remark = [] ∨ Text.Remark remark) (lines : List (List Char)) (rest : List Char) :
    ∃ c cs, withLines pre remark lines post rest = c :: cs ∧ (Shape.isLineEnd c ∨ c = '#') := by
  cases pre with
  | nil =>
    rcases hr with rfl | ⟨body, rfl, -⟩
    · exact ⟨'\n', _, rfl, .inl rfl⟩
    · exact ⟨'#', _, rfl, .inr rfl⟩
  | cons c cs => exact ⟨c, _, rfl, .inl (ends c List.mem_cons_self)⟩

/-- So its first token is a line end. -/
theorem exists_contents_withLines (ends : ∀ c ∈ pre ++ '\n' :: post, Shape.isLineEnd c)
    (hr : remark = [] ∨ Text.Remark remark) (lines : List (List Char)) (rest : List Char) :
    ∃ more, contents (withLines pre remark lines post rest) = .lineEnd :: more := by
  obtain ⟨c, cs, whole, first⟩ := head?_withLines ends hr lines rest
  rw [whole]
  rcases first with lineEnd | rfl
  · obtain ⟨more, contents, -⟩ := exists_contents_lineEnds (List.cons_ne_nil c []) (by simpa using lineEnd) cs
    exact ⟨more, contents⟩
  · exact exists_contents_comment cs

theorem replaces_withLines (ends : ∀ c ∈ pre ++ '\n' :: post, Shape.isLineEnd c)
    (hr : remark = [] ∨ Text.Remark remark) (hl : ∀ line ∈ lines, Text.IdleLine line) (rest : List Char) :
    Replaces (withLines pre remark lines post rest) (pre ++ '\n' :: post ++ rest) := by
  refine { apart := ?_, lineEnd := ?_, quote := ?_ }
  · intro d hd
    obtain ⟨c, cs, whole, first⟩ := head?_withLines ends hr lines rest
    rw [whole] at hd
    obtain rfl : c = d := Option.some.inj hd
    exact .inr first
  · intro d _ _
    cases pre with
    | nil => exact ⟨'\n', rfl, rfl⟩
    | cons c cs => exact ⟨c, rfl, ends c List.mem_cons_self⟩
  · intro quote
    have plain : ∀ {cs : List Char}, (∀ c ∈ cs, Shape.isLineEnd c) → '"' ∉ cs :=
      fun all inside => absurd (all _ inside) (by decide)
    have none := plain ends
    simp only [withLines, List.mem_append, List.mem_cons, List.mem_flatten, not_or] at quote none ⊢
    rcases quote with inside | inside | inside | ⟨line, hline, inside⟩ | inside | inside
    · exact absurd inside none.1
    · rcases hr with rfl | ⟨body, rfl, -, clean⟩
      · exact absurd inside (by simp)
      · exact absurd inside (by simpa using clean)
    · exact absurd inside (by decide)
    · exact absurd inside (not_quote_of_line (hl line hline))
    · exact absurd inside none.2.2
    · exact .inr inside

/-- **A comment before a line feed and idle lines behind it** leave the tokens as they are, up to the lengths
    of runs of line ends. -/
theorem squeeze_insert_lines (h : cut text = before ++ l :: after) (shape : l.shape = .lineEnds)
    (feed : l.chars = pre ++ '\n' :: post) (hr : remark = [] ∨ Text.Remark remark)
    (hl : ∀ line ∈ lines, Text.IdleLine line) :
    squeeze (contents (before.flatMap (·.chars) ++
        withLines pre remark lines post (after.flatMap (·.chars)))) = squeeze (contents text) := by
  obtain ⟨nonempty, longest⟩ := longest_of_cut h
  have ends : ∀ c ∈ l.chars, Shape.isLineEnd c :=
    (Shape.mem_someOf.1 (longest.matches_of_shape shape (by decide)).1).2
  have old : (l :: after).flatMap (·.chars) = l.chars ++ after.flatMap (·.chars) := List.flatMap_cons
  obtain ⟨more, given, behind⟩ := exists_contents_lineEnds nonempty ends (after.flatMap (·.chars))
  rw [feed] at ends
  obtain ⟨others, changed⟩ := exists_contents_withLines ends hr lines (after.flatMap (·.chars))
  have replaces := replaces_withLines ends hr hl (after.flatMap (·.chars))
  rw [← feed, ← old] at replaces
  rw [contents_replace h (closed_of_cut h) replaces, contents_of_cut h, old]
  apply Content.squeeze_append
  have idle := behindLines_withLines ends hr hl (after.flatMap (·.chars))
  rw [changed] at idle
  rw [given, changed, Content.squeeze_lineEnd, Content.squeeze_lineEnd, idle,
    Content.behindLines_cons rfl, behind]

end

end Lexeme
end LitSpheres
