/-
  Scene texts that are put one behind the other.

  1. **Program** — a text is cut into tokens, and the tokens are read as blocks to the last one.

  2. **Specification** — behind a text that can be read and that ends its last line, another text is read as if
     it stood alone: the definitions of both are found, or the second text has a problem, of the same
     class.  If the second text has none but line ends and comments, nothing is added.

  3. **The crux** — the first text has no stray character, so no quote of it can be closed by the second one,
     and it ends with a line end or a comment.  So the tokens of both texts together are those of the
     one and of the other, up to the run of line ends between them, and blocks that are read leave
     nothing behind that a later block could see.
-/
import Mathlib.Data.List.TakeWhile
import LitSpheres.Proofs.Grammar.Layout

namespace LitSpheres

open Content (squeeze behindLines)

namespace Lexeme

variable {l : Lexeme} {first rest : List Char}

/-! ## The tokens of both texts -/

/-- A lexeme that ends a line gives one line end, behind which other line ends may follow. -/
theorem squeeze_contents_line (h : l.Longest []) (nonempty : l.chars ≠ []) (feed : l.chars.getLast? = some '\n')
    (rest : List Char) : squeeze (contents (l.chars ++ rest)) = squeeze (contents l.chars ++ contents rest) := by
  rcases h.shape_of_getLast? feed rfl with shape | shape
  · obtain ⟨body, plain, whole | whole⟩ := Shape.mem_pattern_comment.1 (h.matches_of_shape shape (by decide)).1
    · have alone : contents ('#' :: (body ++ ['\n'])) = .lineEnd :: contents [] := contents_comment plain
      have before : contents ('#' :: (body ++ '\n' :: rest)) = .lineEnd :: contents rest := contents_comment plain
      rw [whole, List.cons_append, List.append_assoc, List.singleton_append, before, alone, contents_nil,
        List.singleton_append]
    · rw [whole] at feed
      exact absurd (List.mem_of_getLast? feed) (by simpa using plain)
  · have ends := (Shape.mem_someOf.1 (h.matches_of_shape shape (by decide)).1).2
    have alone : contents (l.chars ++ []) = .lineEnd :: contents [] := contents_lineEnds nonempty ends nofun
    rw [List.append_nil, contents_nil] at alone
    obtain ⟨more, before, behind⟩ := exists_contents_lineEnds nonempty ends rest
    rw [alone, before, List.singleton_append, Content.squeeze_lineEnd, Content.squeeze_lineEnd,
      Content.behindLines_cons rfl, Content.behindLines_cons rfl, behind]

/-- Such a lexeme can be followed by anything. -/
theorem fits_line (h : l.Longest []) (nonempty : l.chars ≠ []) (feed : l.chars.getLast? = some '\n')
    (rest : List Char) : Fits (l.chars ++ rest) l.chars := by
  obtain ⟨c, cs, hc⟩ := List.exists_cons_of_ne_nil nonempty
  have begins : Shape.isLineEnd c ∨ c = '#' := by
    rcases h.shape_of_getLast? feed rfl with shape | shape
    · obtain ⟨body, -, whole | whole⟩ := Shape.mem_pattern_comment.1 (h.matches_of_shape shape (by decide)).1
      · exact .inr (List.cons.inj (hc.symm.trans whole)).1
      · exact .inr (List.cons.inj (hc.symm.trans whole)).1
    · have ends := (Shape.mem_someOf.1 (h.matches_of_shape shape (by decide)).1).2
      rw [hc] at ends
      exact .inl (ends c List.mem_cons_self)
  rw [hc]
  constructor
  · rintro d ⟨⟩
    exact .inr begins
  · rintro d ⟨⟩ lineEnd
    exact ⟨c, rfl, lineEnd⟩

/-- **The tokens of two texts** are those of the one and of the other, up to the lengths of runs of line ends, if
    the first text ends its last line and has no stray character. -/
theorem squeeze_contents_append (feed : first.getLast? = some '\n') (plain : ∀ l ∈ cut first, l.shape ≠ .stray)
    (second : List Char) :
    squeeze (contents (first ++ second)) = squeeze (contents first ++ contents second) := by
  rcases List.eq_nil_or_concat (cut first) with none | ⟨before, l, all⟩
  · have empty := flatten_cut first
    rw [none] at empty
    rw [← empty] at feed
    exact absurd feed nofun
  · rw [List.concat_eq_append] at all
    obtain ⟨nonempty, longest⟩ := longest_of_cut all
    have alone : [l].flatMap (·.chars) = l.chars := List.flatMap_singleton _ _
    have whole := text_of_cut all
    have last : l.chars.getLast? = some '\n' := by
      rw [whole, alone, List.getLast?_append_of_ne_nil _ nonempty] at feed
      exact feed
    have split : cut (before.flatMap (·.chars) ++ l.chars) = before ++ cut l.chars := by
      rw [← alone, cut_back all, ← whole, all]
    have front := contents_front split (closed_of_cut all) (fits_line longest nonempty last second) fun m hm stray =>
      absurd stray (plain m (by rw [all]; exact List.mem_append_left _ hm))
    have here := contents_of_cut all
    rw [alone] at here
    have both : first ++ second = before.flatMap (·.chars) ++ (l.chars ++ second) := by
      rw [← List.append_assoc, ← alone, ← whole]
    rw [both, front, here, List.append_assoc]
    exact Content.squeeze_append _ (squeeze_contents_line longest nonempty last second)

/-- A stray character gives an error token. -/
theorem exists_error_of_stray {text : List Char} (hl : l ∈ cut text) (stray : l.shape = .stray) :
    ∃ t ∈ tokenize text, t.kind = .error := by
  obtain ⟨s, cs⟩ := l
  obtain rfl : s = .stray := stray
  obtain ⟨t, ht, content⟩ := exists_token_of_content hl rfl
  exact ⟨t, ht, congrArg Content.kind content⟩

end Lexeme

/-! ## Reading both texts -/

section

variable {first second : List Char} {found more : List Definition} {problem : TextProblem}

/-- What a reading comes to behind some definitions. -/
def Reading.behind (r : Reading) (found : List Definition) : Reading := { r with found := found ++ r.found }

/-- What the texts mean together is what the second one means, behind the definitions of the first one. -/
theorem parse_append_toClass (feed : first.getLast? = some '\n') (read : parse first = .ok found)
    (second : List Char) :
    (parse (first ++ second)).mapError TextProblem.toClass =
      ((readText second).behind found).result.mapError TextProblem.toClass := by
  obtain ⟨tree, tokens, meant⟩ := exists_tree read
  have plain : ∀ l ∈ Lexeme.cut first, l.shape ≠ .stray := by
    intro l hl stray
    obtain ⟨t, ht, error⟩ := Lexeme.exists_error_of_stray hl stray
    rw [← tokens] at ht
    exact SceneTree.ne_error ht error
  have behind := Reading.ofTokens_body_append meant (tokenize second) tree.lineEnds
  have both : Leaf.tokens tree.lineEnds ++ (SceneTree.body tree.definitions ++ tokenize second) =
      tokenize first ++ tokenize second := by
    rw [← tokens, ← List.append_assoc]
    rfl
  have same := Lexeme.squeeze_contents_append feed plain second
  rw [← Lexeme.content_tokenize, ← Lexeme.content_tokenize, ← Lexeme.content_tokenize, ← List.map_append] at same
  -- the tokens of the whole text differ from those of its parts in runs of line ends and in places
  have agree := Reading.agree_ofTokens (Reader.inStep_of_squeeze same).behind
  rw [← both, behind] at agree
  exact agree.toClass

/-- **Scene texts can be put together.**  Behind a text that is read as definitions and ends with a line feed, a
    text that is read as definitions adds them, and a text with no tokens but line ends adds nothing; any
    other text has a problem of the same class as by itself. -/
theorem parse_append (first second : List Char) (found : List Definition) (feed : first.getLast? = some '\n')
    (read : parse first = .ok found) :
    (∀ more, parse second = .ok more → parse (first ++ second) = .ok (found ++ more)) ∧
    ((∀ t ∈ tokenize second, t.kind = .newline) → parse (first ++ second) = .ok found) ∧
    (∀ problem, parse second = .error problem → (∃ t ∈ tokenize second, t.kind ≠ .newline) →
      ∃ other, parse (first ++ second) = .error other ∧ other.toClass = problem.toClass) := by
  have whole := parse_append_toClass feed read second
  obtain ⟨-, -, some⟩ := Reading.result_eq_ok.1 read
  refine ⟨fun more readMore => ?_, fun lineEnds => ?_, fun problem failed speaks => ?_⟩
  · obtain ⟨none, rfl, -⟩ := Reading.result_eq_ok.1 readMore
    have joined : ((readText second).behind found).result = .ok (found ++ (readText second).found) :=
      Reading.result_eq_ok.2 ⟨none, rfl, List.append_ne_nil_of_left_ne_nil some _⟩
    rw [joined] at whole
    exact ok_of_mapError whole
  · have skipped : Reader.afterNewlines (tokenize second) = [] :=
      List.dropWhile_eq_nil_iff.2 fun t ht => decide_eq_true (lineEnds t ht)
    have nothing : readText second = { found := [], problem := none, rest := [] } := Reading.ofTokens_nil skipped
    have joined : ((readText second).behind found).result = .ok found := by
      rw [nothing]
      exact Reading.result_eq_ok.2 ⟨rfl, List.append_nil found, some⟩
    rw [joined] at whole
    exact ok_of_mapError whole
  · rcases problem_of_parse failed with stopped | ⟨none, empty, -⟩
    · have joined : ((readText second).behind found).result = .error problem := by
        unfold Reading.result Reading.behind
        rw [stopped]
      rw [joined] at whole
      exact error_of_mapError whole
    · -- a text without a problem and without a definition has no tokens but line ends
      have skipped := Reading.afterNewlines_of_empty none empty
      obtain ⟨t, ht, other⟩ := speaks
      exact absurd (of_decide_eq_true (List.dropWhile_eq_nil_iff.1 skipped t ht)) other

/-- A window with a comment behind it. -/
def wideWindow : List Char := "window \x7b\nwidth = 8\n\x7d # wide\n".toList

/-- A light with a line end before it and none behind it. -/
def flatLight : List Char := "\nlight \x7b\ntype = ambient\nintensity = 1\n\x7d".toList

/-- Behind the window are put the light, a comment with a double quote, and half a sphere. -/
theorem parse_append_window :
    wideWindow.getLast? = Option.some '\n' ∧ ∃ found, parse wideWindow = .ok found ∧
      (∃ more, parse flatLight = .ok more ∧ parse (wideWindow ++ flatLight) = .ok (found ++ more)) ∧
      parse (wideWindow ++ "\r\n# \"end".toList) = .ok found ∧
      ∃ problem, parse (wideWindow ++ "sphere".toList) = .error problem ∧ problem.toClass = .grammar := by
  have feed : wideWindow.getLast? = Option.some '\n' := by decide +kernel
  obtain ⟨found, read⟩ : ∃ found, parse wideWindow = .ok found := exists_of_isOk (by decide +kernel)
  obtain ⟨more, readMore⟩ : ∃ more, parse flatLight = .ok more := exists_of_isOk (by decide +kernel)
  have idle : ∀ t ∈ tokenize "\r\n# \"end".toList, t.kind = .newline := by decide +kernel
  have speaks : ∃ t ∈ tokenize "sphere".toList, t.kind ≠ .newline := by decide +kernel
  have half : (readText "sphere".toList).problem.map TextProblem.toClass = Option.some .grammar := by decide +kernel
  obtain ⟨problem, stopped, grammar⟩ := Option.map_eq_some_iff.1 half
  obtain ⟨adds, -, -⟩ := parse_append wideWindow flatLight found feed read
  obtain ⟨-, keeps, -⟩ := parse_append wideWindow "\r\n# \"end".toList found feed read
  obtain ⟨-, -, fails⟩ := parse_append wideWindow "sphere".toList found feed read
  obtain ⟨other, failed, same⟩ := fails problem (parse_of_problem stopped) speaks
  exact ⟨feed, found, read, ⟨more, readMore, adds more readMore⟩, keeps idle, other, failed,
    same.trans grammar⟩

end
end LitSpheres
