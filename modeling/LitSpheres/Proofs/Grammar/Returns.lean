/-
  A text and the same text with a carriage return before each line feed.

  1. **Program** — comments, line ends and quoted texts take line feeds, and the carriage returns before them
     as well; no other lexeme has any.

  2. **Specification** — both texts have the same number of tokens, of the same kinds, at the same places and
     with the same values, but for the carriage returns in quoted texts.  So they have the same definitions,
     but for those in titles, or problems of one class.

  3. **The crux** — lexeme by lexeme, the one with carriage returns is the longest match where the other one
     is.  A comment takes the carriage return at its end, a run of line ends has twice the length, and
     behind any other lexeme a carriage return continues it no more than a line feed does.
-/
import LitSpheres.Proofs.Grammar.Layout
import LitSpheres.Proofs.Grammar.Reworded
import LitSpheres.Proofs.Text.Returns

namespace LitSpheres

open Text (Place returnString withReturns)

/-- Texts with a carriage return before each line feed; no word has any. -/
def Rewording.returns : Rewording where
  text := returnString
  keeps letters := Text.returnString_eq_iff fun feed => absurd (List.all_eq_true.1 letters _ feed) (by decide)

namespace Lexeme

variable {l : Lexeme} {cs rest : List Char} {place : Place}

/-! ## Lexemes that are the longest match wherever they stand -/

theorem longest_comment {body : List Char} (plain : '\n' ∉ body) (rest : List Char) :
    Longest { shape := .comment, chars := '#' :: (body ++ ['\n']) } rest := by
  have closed : ('#' :: (body ++ ['\n'])).getLast? = some '\n' := by
    rw [← List.cons_append, List.getLast?_concat]
  apply longest_of_matches ⟨Shape.mem_pattern_comment.2 ⟨body, plain, .inl rfl⟩, fun _ => .inr closed⟩
  show Shape.comment.reach ('#' :: (body ++ ['\n']) ++ rest) ≤ _
  rw [List.cons_append, List.append_assoc, List.singleton_append, Shape.reach_comment plain]
  simp

theorem longest_quoted {inner : List Char} (plain : '"' ∉ inner) (rest : List Char) :
    Longest { shape := .quoted, chars := '"' :: (inner ++ ['"']) } rest := by
  have matched : Shape.quoted.Matches ('"' :: (inner ++ ['"'])) rest :=
    ⟨Shape.mem_pattern_quoted.2 ⟨inner, plain, rfl⟩, nofun⟩
  apply longest_of_matches matched
  show Shape.quoted.reach ('"' :: (inner ++ ['"']) ++ rest) ≤ _
  rw [List.cons_append, List.append_assoc, List.singleton_append, Shape.reach_quoted plain]
  simp

theorem longest_lineEnds {ws : List Char} (nonempty : ws ≠ []) (ends : ∀ c ∈ ws, Shape.isLineEnd c)
    (boundary : ∀ c ∈ rest.head?, ¬ Shape.isLineEnd c) : Longest { shape := .lineEnds, chars := ws } rest := by
  have matched : Shape.lineEnds.Matches ws rest := ⟨Shape.mem_someOf.2 ⟨nonempty, ends⟩, nofun⟩
  exact longest_of_matches matched (Shape.run_append ends boundary).le

/-! ## Lexemes with carriage returns -/

/-- The lexeme with a carriage return before each line feed. -/
def returned (l : Lexeme) : Lexeme := { l with chars := withReturns l.chars }

/-- Only comments, line ends and quoted texts hold a line feed. -/
theorem Longest.not_mem_feed (h : l.Longest rest) (other : l.shape ∉ [.comment, .lineEnds, .quoted]) :
    '\n' ∉ l.chars := by
  intro inside
  have known : l.shape = .comment ∨ l.shape = .lineEnds ∨ l.shape = .quoted := h.shape_of_mem inside rfl
  exact other (by simpa using known)

theorem returned_eq (plain : '\n' ∉ l.chars) : l.returned = l := by
  unfold returned
  rw [Text.withReturns_of_not_mem plain]

/-- The text behind a lexeme continues it with carriage returns no more than without. -/
theorem Longest.returns_behind (h : l.Longest rest) (speaks : l.shape ≠ .blanks) (comment : l.shape ≠ .comment) :
    l.Longest (withReturns rest) := by
  obtain ⟨front, plain, rfl | ⟨behind, rfl⟩⟩ := Shape.split_at_run '\n' rest
  · rw [Text.withReturns_of_not_mem plain]
    exact h
  · -- up to the first line feed the text is the same, and there a carriage return stands instead
    rw [Text.withReturns_append, Text.withReturns_of_not_mem plain]
    apply h.replace speaks fun other => absurd other comment
    · constructor
      · rintro _ ⟨⟩
        exact .inr (.inl rfl)
      · intro _ _ _
        exact ⟨'\n', rfl, rfl⟩
    · intro _ quote
      exact (Text.mem_withReturns (by decide)).1 quote

/-- What begins with no line end still does. -/
theorem not_isLineEnd_returns (boundary : ∀ c ∈ rest.head?, ¬ Shape.isLineEnd c) :
    ∀ c ∈ (withReturns rest).head?, ¬ Shape.isLineEnd c := by
  cases rest with
  | nil => exact nofun
  | cons d ds =>
    have other : d ≠ '\n' := by
      rintro rfl
      exact boundary '\n' rfl rfl
    rw [Text.withReturns_cons other]
    exact boundary

/-- **A lexeme stays the longest match** with carriage returns in it and behind it. -/
theorem Longest.returned (h : l.Longest rest) (nonempty : l.chars ≠ []) (speaks : l.shape ≠ .blanks) :
    l.returned.Longest (withReturns rest) := by
  obtain ⟨s, cs⟩ := l
  cases s with
  | blanks => exact absurd rfl speaks
  | comment =>
    obtain ⟨matched, ended⟩ := h.matched nofun
    obtain ⟨body, plain, rfl | rfl⟩ := Shape.mem_pattern_comment.1 matched
    · -- the carriage return belongs to the comment
      have whole : withReturns ('#' :: (body ++ ['\n'])) = '#' :: ((body ++ ['\r']) ++ ['\n']) := by
        rw [Text.withReturns_cons (by decide), Text.withReturns_append, Text.withReturns_of_not_mem plain]
        simp
      unfold Lexeme.returned
      rw [whole]
      exact longest_comment (by simpa using plain) _
    · -- the comment is the last lexeme, and the text ends without a line feed
      have none : '\n' ∉ '#' :: body := by simpa using plain
      rcases ended rfl with rfl | closed
      · rw [returned_eq none]
        exact h
      · exact absurd (List.mem_of_getLast? closed) none
  | lineEnds =>
    have ends := (Shape.mem_someOf.1 (h.matched nofun).1).2
    exact longest_lineEnds (fun none => nonempty (Text.withReturns_eq_nil.1 none))
      (Text.forall_mem_withReturns rfl ends) (not_isLineEnd_returns (h.not_isLineEnd rfl))
  | quoted =>
    obtain ⟨inner, plain, rfl⟩ := Shape.mem_pattern_quoted.1 (h.matched nofun).1
    unfold Lexeme.returned
    rw [Text.withReturns_quoted]
    exact longest_quoted (fun quote => plain ((Text.mem_withReturns (by decide)).1 quote)) _
  | number | word | mark | stray =>
    rw [returned_eq (h.not_mem_feed (by simp))]
    exact h.returns_behind nofun nofun

/-- A token stays as it is if it has no line feed in its text. -/
theorem returns_token_of_plain {t : Token} (plain : '\n' ∉ t.text.toList) : Rewording.returns.token t = t := by
  obtain ⟨kind, value, place⟩ := t
  cases value with
  | none => rfl
  | number x => rfl
  | text s =>
    have same : returnString s = s := (Text.returnString_eq_iff plain).2 rfl
    show Token.mk kind (.text (returnString s)) place = _
    rw [same]

/-- Only the token of a quoted text may hold a line feed. -/
theorem Longest.plain_token (h : l.Longest rest) (quoted : l.shape ≠ .quoted) {t : Token}
    (given : l.token? place = some t) : '\n' ∉ t.text.toList := by
  obtain ⟨s, cs⟩ := l
  cases s with
  | blanks => exact absurd given nofun
  | quoted => exact absurd rfl quoted
  | comment | lineEnds | number =>
    obtain rfl := Option.some.inj given
    exact List.not_mem_nil
  | word | mark | stray =>
    obtain rfl := Option.some.inj given
    show '\n' ∉ (String.ofList cs).toList
    rw [String.toList_ofList]
    exact h.not_mem_feed (by simp)

/-- The token of a quoted text stands for what is between the quotes. -/
theorem token?_quoted (inner : List Char) (place : Place) :
    token? { shape := .quoted, chars := '"' :: (inner ++ ['"']) } place =
      some { kind := .string, value := .text (String.ofList inner), place } := by
  have between : Lexeme.inner { shape := .quoted, chars := '"' :: (inner ++ ['"']) } = inner :=
    List.dropLast_concat
  exact congrArg (fun cs => some (Token.mk .string (.text (String.ofList cs)) place)) between

/-- The token of a lexeme with carriage returns has the same kind and the same place, and the same text but for
    the carriage returns. -/
theorem Longest.token?_returned (h : l.Longest rest) (place : Place) :
    l.returned.token? place = (l.token? place).map Rewording.returns.token := by
  obtain ⟨s, cs⟩ := l
  cases s with
  | blanks | comment | lineEnds => rfl
  | quoted =>
    obtain ⟨inner, -, rfl⟩ := Shape.mem_pattern_quoted.1 (h.matched (by simp)).1
    have text : returnString (String.ofList inner) = String.ofList (withReturns inner) := by
      rw [returnString, String.toList_ofList]
    show token? { shape := .quoted, chars := withReturns ('"' :: (inner ++ ['"'])) } place = _
    rw [Text.withReturns_quoted, token?_quoted, token?_quoted, ← text]
    rfl
  | number | word | mark | stray =>
    rw [returned_eq (h.not_mem_feed (by simp))]
    exact congrArg some (returns_token_of_plain (h.plain_token (by simp) rfl)).symm

/-! ## Texts with carriage returns -/

/-- **The tokens of both texts**, wherever they start: by induction on the lexemes of the one without. -/
theorem scan_withReturns (plain : '\r' ∉ cs) (place : Place) :
    scan place (withReturns cs) = (scan place cs).map Rewording.returns.token := by
  induction all : cut cs generalizing cs place with
  | nil =>
    have empty := flatten_cut cs
    rw [all] at empty
    rw [← empty, List.flatMap_nil, Text.withReturns_nil, scan_nil]
    rfl
  | cons l ls ih =>
    have split : cut cs = [l] ++ ls := all
    have front : cut cs = [] ++ l :: ls := all
    obtain ⟨nonempty, longest⟩ := longest_of_cut front
    have whole := text_of_cut split
    have behind := cut_back split
    rw [List.flatMap_singleton] at whole
    generalize ls.flatMap (·.chars) = rest at longest whole behind
    rw [whole] at plain ⊢
    have plainChars : '\r' ∉ l.chars := fun inside => plain (List.mem_append_left _ inside)
    have later := ih (fun inside => plain (List.mem_append_right _ inside)) (place.advance l.chars) behind
    rw [Text.withReturns_append]
    by_cases blanks : l.shape = .blanks
    · have blank := (Shape.mem_someOf.1 (longest.matches_of_shape blanks (by decide)).1).2
      have none : '\n' ∉ l.chars := fun feed => absurd (blank _ feed) (by decide)
      rw [Text.withReturns_of_not_mem none, scan_blanks place blank, scan_blanks place blank]
      exact later
    · have returned := longest.returned nonempty blanks
      have nonemptyToo : l.returned.chars ≠ [] := fun none => nonempty (Text.withReturns_eq_nil.1 none)
      have there := returned.scan_append nonemptyToo place
      rw [longest.token?_returned, show l.returned.chars = withReturns l.chars from rfl,
        Text.advance_withReturns plainChars, later] at there
      rw [there, longest.scan_append nonempty, List.map_append]
      cases l.token? place <;> rfl

/-- The token of a quoted text stands for a text. -/
theorem value_of_string {l : Lexeme} {place : Place} {t : Token} (given : l.token? place = some t)
    (string : t.kind = .string) : t.value = .text t.text := by
  obtain ⟨s, cs⟩ := l
  cases s with
  | blanks => exact absurd given nofun
  | mark =>
    obtain rfl := Option.some.inj given
    exact absurd string (TokenKind.ofMark_ne _).2
  | comment | lineEnds | number | word | quoted | stray =>
    obtain rfl := Option.some.inj given
    first | rfl | exact absurd string nofun

end Lexeme

/-- The token with a carriage return before each line feed of a quoted text. -/
def Token.withReturns (t : Token) : Token :=
  if t.kind = .string then { t with value := .text (returnString t.text) } else t

/-- The definition with a carriage return before each line feed of a title. -/
def Definition.withReturns : Definition → Definition
  | .window v => .window { v with title := v.title.map returnString }
  | other => other

theorem tokenize_withReturns {text : List Char} (plain : '\r' ∉ text) :
    tokenize (withReturns text) = (tokenize text).map Token.withReturns := by
  rw [tokenize_eq_scan, tokenize_eq_scan, Lexeme.scan_withReturns plain]
  refine List.map_congr_left fun t ht => ?_
  obtain ⟨l, hl, place, given⟩ := mem_tokensFrom ht
  obtain ⟨before, after, split⟩ := List.append_of_mem hl
  have longest := (Lexeme.longest_of_cut split).2
  unfold Token.withReturns
  by_cases string : t.kind = .string
  · rw [if_pos string]
    have value := Lexeme.value_of_string given string
    show Token.mk t.kind (Rewording.returns.tokenValue t.value) t.place = _
    rw [value]
    rfl
  · rw [if_neg string]
    apply Lexeme.returns_token_of_plain
    apply longest.plain_token ?_ given
    intro quoted
    unfold Lexeme.token? at given
    rw [quoted] at given
    exact string (Option.some.inj given ▸ rfl)

theorem toClass_problem (w : Rewording) (p : TextProblem) : (w.problem p).toClass = p.toClass := by
  cases p <;> rfl

/-- **Carriage returns before line feeds** change quoted texts only: the tokens are of the same kinds, at the same
    places and with the same values, but for the carriage returns in quoted texts.  So the definitions are
    the same, but for those in titles, or the problems are of one class. -/
theorem parse_withReturns {text : List Char} (plain : '\r' ∉ text) :
    (tokenize (withReturns text)).length = (tokenize text).length ∧
      tokenize (withReturns text) = (tokenize text).map Token.withReturns ∧
      (∀ ds, parse text = .ok ds → parse (withReturns text) = .ok (ds.map Definition.withReturns)) ∧
      ∀ p, parse text = .error p → ∃ q, parse (withReturns text) = .error q ∧ q.toClass = p.toClass := by
  have tokens := tokenize_withReturns plain
  have reworded : parse (withReturns text) = _ := parse_reworded (Lexeme.scan_withReturns plain {})
  refine ⟨by rw [tokens, List.length_map], tokens, ?_, ?_⟩
  · intro ds h
    have titles : Rewording.returns.definition = Definition.withReturns := by
      funext d
      cases d <;> rfl
    rw [reworded, h, titles]
    rfl
  · intro p h
    rw [reworded, h]
    exact ⟨_, rfl, toClass_problem _ p⟩

/-- A window with a title over two lines, behind a comment and an empty line. -/
def twoLines : List Char := "window \x7b # wide\n\ntitle = \"a\nb\"\n\x7d\n".toList

/-- A light whose type is broken over two lines. -/
def brokenType : List Char := "light \x7b\nintensity = 1\ntype = \"am\nbient\"\n\x7d".toList

/-- The title that a definition sets. -/
def Definition.title? : Definition → Option String
  | .window v => v.title
  | _ => none

/-- The title keeps both lines, with a carriage return between them; a type of two lines is unknown with a
    carriage return as well. -/
theorem parse_withReturns_two_lines :
    '\r' ∉ twoLines ∧
      (∃ ds, parse twoLines = .ok ds ∧ parse (withReturns twoLines) = .ok (ds.map Definition.withReturns) ∧
        ds.map Definition.title? = [some "a\nb"] ∧
        (ds.map Definition.withReturns).map Definition.title? = [some "a\r\nb"]) ∧
      '\r' ∉ brokenType ∧
      ∃ p q, parse brokenType = .error p ∧ parse (withReturns brokenType) = .error q ∧ q.toClass = p.toClass := by
  have plain : '\r' ∉ twoLines := by decide +kernel
  have plainType : '\r' ∉ brokenType := by decide +kernel
  refine ⟨plain, ?_, plainType, ?_⟩
  · have titles : (parse twoLines).toOption.map (List.map Definition.title?) = some [some "a\nb"] := by
      decide +kernel
    cases read : parse twoLines with
    | error p =>
      rw [read] at titles
      exact absurd titles nofun
    | ok ds =>
      rw [read] at titles
      have before : ds.map Definition.title? = [some "a\nb"] := Option.some.inj titles
      have title (d : Definition) : d.withReturns.title? = d.title?.map returnString := by
        cases d <;> rfl
      have behind : (ds.map Definition.withReturns).map Definition.title? = [some "a\r\nb"] := by
        calc (ds.map Definition.withReturns).map Definition.title?
            = (ds.map Definition.title?).map (Option.map returnString) := by
              rw [List.map_map, List.map_map]
              exact List.map_congr_left fun d _ => title d
          _ = [some "a\r\nb"] := by
              rw [before]
              decide +kernel
      exact ⟨ds, rfl, (parse_withReturns plain).2.2.1 ds read, before, behind⟩
  · cases read : parse brokenType with
    | ok ds =>
      have failed : (parse brokenType).isOk = false := by decide +kernel
      rw [read] at failed
      exact absurd failed nofun
    | error p =>
      obtain ⟨q, readToo, same⟩ := (parse_withReturns plainType).2.2.2 p read
      exact ⟨p, q, rfl, readToo, same⟩

end LitSpheres
