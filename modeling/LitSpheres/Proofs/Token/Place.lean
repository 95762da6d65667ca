/-
  The place of a token is the real one.

  1. **Program** — the place is moved forward lexeme by lexeme, and each lexeme is searched for line
     breaks by itself.

  2. **Specification** — the line of a token is one more than the number of line breaks of the whole text
     that lie before its lexeme, and its column one more than the number of characters since the
     last of them.

  3. **The crux** — a carriage return that ends a lexeme is never followed by a line feed: the line ends
     and a comment would have taken it too.  So the breaks of the text are those of its lexemes, one
     after the other, and the place behind some lexemes is computed from their characters alone.
-/
import LitSpheres.Proofs.Token.Munch

namespace LitSpheres

namespace Text

/-! ## The breaks of a text -/

/-- The offsets just behind the line breaks, where a carriage return with its line feed, a lone carriage
    return and a lone line feed are one break each, and the text starts at the given offset. -/
def breakEnds (start : Nat) : List Char → List Nat
  | [] => []
  | '\r' :: '\n' :: cs => (start + 2) :: breakEnds (start + 2) cs
  | c :: cs =>
    if c = '\r' ∨ c = '\n' then (start + 1) :: breakEnds (start + 1) cs
    else breakEnds (start + 1) cs

/-- The place at an offset of a text, from the breaks of the whole text that lie before it. -/
def placeAt (text : List Char) (offset : Nat) : Place :=
  let before := (breakEnds 0 text).filter (· ≤ offset)
  { line := 1 + before.length, column := offset - before.getLastD 0 + 1 }

/-- Whether a line break stands half in one text and half in the next. -/
def SplitsBreak (front back : List Char) : Prop := front.getLast? = some '\r' ∧ back.head? = some '\n'

variable {c : Char} {cs front back : List Char} {start : Nat}

theorem not_splitsBreak_of_not_mem (h : '\r' ∉ front) (back : List Char) : ¬ SplitsBreak front back :=
  fun split => h (List.mem_of_getLast? split.1)

theorem SplitsBreak.cons (h : SplitsBreak cs back) : SplitsBreak (c :: cs) back := by
  refine ⟨?_, h.2⟩
  rw [List.getLast?_cons, h.1]
  rfl

/-- Every break of a text lies in it. -/
theorem mem_breakEnds {e : Nat} (h : e ∈ breakEnds start cs) : start < e ∧ e ≤ start + cs.length := by
  fun_induction breakEnds start cs with
  | case1 => exact absurd h (by simp)
  | case2 start cs ih =>
    rw [List.length_cons, List.length_cons]
    rcases List.mem_cons.1 h with rfl | h
    · omega
    · have := ih h
      omega
  | case3 start c cs _ _ ih =>
    rw [List.length_cons]
    rcases List.mem_cons.1 h with rfl | h
    · omega
    · have := ih h
      omega
  | case4 start c cs _ _ ih =>
    rw [List.length_cons]
    have := ih h
    omega

/-- What is no carriage return with its line feed is none in front of another text either. -/
theorem unpaired_append (alone : ∀ ds, c = '\r' → cs = '\n' :: ds → False)
    (h : ¬ SplitsBreak (c :: cs) back) : ∀ ds, c = '\r' → cs ++ back = '\n' :: ds → False := by
  rintro ds rfl feed
  cases cs with
  | nil => exact h ⟨rfl, congrArg List.head? feed⟩
  | cons d others =>
    obtain ⟨rfl, -⟩ := List.cons.inj feed
    exact alone others rfl rfl

/-- **The breaks of two texts** in a row are those of the one and of the other. -/
theorem breakEnds_append (h : ¬ SplitsBreak front back) :
    breakEnds start (front ++ back) = breakEnds start front ++ breakEnds (start + front.length) back := by
  fun_induction breakEnds start front with
  | case1 => rfl
  | case2 start cs ih =>
    have inside : ¬ SplitsBreak cs back := fun split => h split.cons.cons
    rw [List.cons_append, List.cons_append, breakEnds, ih inside, List.length_cons, List.length_cons,
      Nat.add_assoc, Nat.add_comm 2]
    rfl
  | case3 start c cs alone lone ih =>
    have inside : ¬ SplitsBreak cs back := fun split => h split.cons
    rw [List.cons_append, breakEnds.eq_3 _ _ _ (unpaired_append alone h), if_pos lone, ih inside,
      List.length_cons, Nat.add_assoc, Nat.add_comm 1]
    rfl
  | case4 start c cs alone other ih =>
    have inside : ¬ SplitsBreak cs back := fun split => h split.cons
    rw [List.cons_append, breakEnds.eq_3 _ _ _ (unpaired_append alone h), if_neg other, ih inside,
      List.length_cons, Nat.add_assoc, Nat.add_comm 1]

/-! ## Moving a place forward -/

/-- **Moving over two texts** in a row is moving over the one and over the other. -/
theorem advance_append (place : Place) (h : ¬ SplitsBreak front back) :
    place.advance (front ++ back) = (place.advance front).advance back := by
  fun_induction Place.advance place front with
  | case1 => rfl
  | case2 place cs ih => exact ih fun split => h split.cons.cons
  | case3 place c cs alone lone ih =>
    rw [List.cons_append, Place.advance.eq_3 _ _ _ (unpaired_append alone h), if_pos lone]
    exact ih fun split => h split.cons
  | case4 place c cs alone other ih =>
    rw [List.cons_append, Place.advance.eq_3 _ _ _ (unpaired_append alone h), if_neg other]
    exact ih fun split => h split.cons

/-- The place behind a text, computed from the text alone. -/
def placeBehind (cs : List Char) : Place :=
  { line := 1 + (breakEnds 0 cs).length, column := cs.length - (breakEnds 0 cs).getLastD 0 + 1 }

/-- A place that moves over a text, when its line starts at the given offset. -/
theorem advance_eq {place : Place} {lineStart : Nat} (h : place.column = start - lineStart + 1) :
    place.advance cs =
      { line := place.line + (breakEnds start cs).length
        column := (start + cs.length : Nat) - (breakEnds start cs).getLastD lineStart + 1 } := by
  fun_induction Place.advance place cs generalizing start lineStart with
  | case1 place =>
    obtain ⟨line, column⟩ := place
    simp_all [breakEnds]
  | case2 place cs ih =>
    have begun : place.nextLine.column = ((start + 2 : Nat) : Int) - (start + 2 : Nat) + 1 := by
      rw [Int.sub_self]
      rfl
    rw [ih begun, breakEnds, List.getLastD_cons, List.length_cons, List.length_cons, List.length_cons]
    simp only [Place.nextLine, Place.mk.injEq]
    constructor <;> omega
  | case3 place c cs whole lone ih =>
    have begun : place.nextLine.column = ((start + 1 : Nat) : Int) - (start + 1 : Nat) + 1 := by
      rw [Int.sub_self]
      rfl
    rw [ih begun, breakEnds.eq_3 _ _ _ whole, if_pos lone, List.getLastD_cons, List.length_cons,
      List.length_cons]
    simp only [Place.nextLine, Place.mk.injEq]
    constructor <;> omega
  | case4 place c cs whole other ih =>
    have further : place.column + 1 = ((start + 1 : Nat) : Int) - lineStart + 1 := by omega
    rw [ih further, breakEnds.eq_3 _ _ _ whole, if_neg other, List.length_cons]
    simp only [Place.mk.injEq, true_and]
    omega

/-- It is the place that moves over the text from the start. -/
theorem advance_start (cs : List Char) : ({} : Place).advance cs = placeBehind cs := by
  have column : ({} : Place).column = ((0 : Nat) : Int) - (0 : Nat) + 1 := rfl
  rw [advance_eq column, placeBehind, Nat.zero_add]

/-- **One step of the bookkeeping**: the place behind a text, moved over the next piece, is the place
    behind both, if no break is cut in two between them. -/
theorem advance_placeBehind (h : ¬ SplitsBreak front back) :
    (placeBehind front).advance back = placeBehind (front ++ back) := by
  rw [← advance_start, ← advance_start, advance_append _ h]

/-- The place behind the front of a text is the one at its offset. -/
theorem placeAt_append (h : ¬ SplitsBreak front back) :
    placeAt (front ++ back) front.length = placeBehind front := by
  have breaks : breakEnds 0 (front ++ back) = breakEnds 0 front ++ breakEnds (0 + front.length) back :=
    breakEnds_append h
  have before : (breakEnds 0 front).filter (· ≤ front.length) = breakEnds 0 front := by
    apply List.filter_eq_self.2
    intro e he
    have bound := (mem_breakEnds he).2
    apply decide_eq_true
    omega
  have later : (breakEnds (0 + front.length) back).filter (· ≤ front.length) = [] := by
    apply List.filter_eq_nil_iff.2
    intro e he
    have bound := (mem_breakEnds he).1
    simp only [decide_eq_true_eq]
    omega
  unfold placeAt
  rw [breaks, List.filter_append, before, later, List.append_nil]
  rfl

end Text

namespace Lexeme

open Text (placeAt placeBehind SplitsBreak advance_placeBehind placeAt_append)

variable {l : Lexeme} {rest text : List Char}

/-! ## No lexeme ends inside a break -/

/-- **A carriage return at the end of a lexeme** is a break by itself. -/
theorem Longest.not_splitsBreak (h : l.Longest rest) : ¬ SplitsBreak l.chars rest := by
  rintro ⟨last, feed⟩
  obtain ⟨others, rfl⟩ := List.head?_eq_some_iff.1 feed
  rcases h.shape_of_getLast? last rfl with comment | lineEnds
  · -- the line feed would have ended the comment
    rcases (h.matches_of_shape comment (by decide)).2 rfl with none | ended
    · exact absurd none (List.cons_ne_nil _ _)
    · exact absurd (last.symm.trans ended) (by decide)
  · -- the line feed would have been taken too
    exact absurd rfl (h.not_isLineEnd lineEnds '\n' rfl)

/-- No line break is cut in two where a lexeme ends. -/
theorem not_splitsBreak_of_cut {front back : List Lexeme} (h : cut text = front ++ back) :
    ¬ SplitsBreak (front.flatMap (·.chars)) (back.flatMap (·.chars)) := by
  rcases List.eq_nil_or_concat front with rfl | ⟨before, l, rfl⟩
  · rintro ⟨last, -⟩
    exact absurd last (by simp)
  · have split : cut text = before ++ l :: back := by simpa using h
    obtain ⟨nonempty, longest⟩ := longest_of_cut split
    rintro ⟨last, feed⟩
    apply longest.not_splitsBreak
    refine ⟨?_, feed⟩
    rw [List.concat_eq_append, List.flatMap_append, List.flatMap_singleton,
      List.getLast?_append_of_ne_nil _ nonempty] at last
    exact last

/-! ## Every token -/

/-- The tokens of the last lexemes of a text: each belongs to one of them and has its place. -/
theorem exists_of_getElem? {front back : List Lexeme} (h : cut text = front ++ back) {i : Nat} {t : Token}
    (ht : (tokensFrom (placeBehind (front.flatMap (·.chars))) back)[i]? = some t) :
    ∃ passed l after, back = passed ++ l :: after ∧ l.Speaks ∧ (passed.filter Speaks).length = i ∧
      l.StandsFor t ∧ t.place = placeBehind ((front ++ passed).flatMap (·.chars)) := by
  induction back generalizing front i with
  | nil => exact absurd ht (by simp [tokensFrom])
  | cons l back ih =>
    have step : (placeBehind (front.flatMap (·.chars))).advance l.chars =
        placeBehind ((front ++ [l]).flatMap (·.chars)) := by
      rw [List.flatMap_append, List.flatMap_singleton]
      apply advance_placeBehind
      rintro ⟨last, feed⟩
      apply not_splitsBreak_of_cut h
      refine ⟨last, ?_⟩
      rw [List.flatMap_cons, List.head?_append, feed]
      rfl
    have next : cut text = (front ++ [l]) ++ back := by
      rw [List.append_assoc]
      exact h
    have here := (longest_of_cut h).2.standsFor (placeBehind (front.flatMap (·.chars)))
    rw [tokensFrom, step] at ht
    cases hl : l.token? (placeBehind (front.flatMap (·.chars))) with
    | none =>
      rw [hl] at here ht
      obtain ⟨passed, m, after, rfl, speaks, count, stands, place⟩ := ih next ht
      refine ⟨l :: passed, m, after, rfl, speaks, ?_, stands, ?_⟩
      · rw [List.filter_cons_of_neg (by simpa using here)]
        exact count
      · rw [place, List.append_assoc]
        rfl
    | some u =>
      rw [hl] at here ht
      obtain ⟨speaks, stands, place⟩ := here
      cases i with
      | zero =>
        obtain rfl : u = t := Option.some.inj ht
        refine ⟨[], l, back, rfl, speaks, rfl, stands, ?_⟩
        rw [place, List.append_nil]
      | succ i =>
        obtain ⟨passed, m, after, rfl, others, count, stands, place⟩ := ih next ht
        refine ⟨l :: passed, m, after, rfl, others, ?_, stands, ?_⟩
        · rw [List.filter_cons_of_pos speaks, List.length_cons, count]
        · rw [place, List.append_assoc]
          rfl

end Lexeme

/-- **The place of every token is the real one**: the token at an index stands for the lexeme with that
    many others before it, blanks not counted, and its place is the one at the offset of that lexeme in
    the whole text.  No line break is cut in two there. -/
theorem tokenize_places (text : List Char) (i : Nat) (t : Token) (h : (tokenize text)[i]? = some t) :
    ∃ before l after, Lexeme.cut text = before ++ l :: after ∧ l.Speaks ∧
      (before.filter Lexeme.Speaks).length = i ∧ l.StandsFor t ∧
      t.place = Text.placeAt text (before.flatMap (·.chars)).length ∧
      ¬ Text.SplitsBreak (before.flatMap (·.chars)) ((l :: after).flatMap (·.chars)) := by
  have all : Lexeme.cut text = [] ++ Lexeme.cut text := rfl
  obtain ⟨before, l, after, split, speaks, count, stands, place⟩ := Lexeme.exists_of_getElem? all h
  have apart := Lexeme.not_splitsBreak_of_cut split
  refine ⟨before, l, after, split, speaks, count, stands, ?_, apart⟩
  have whole : text = before.flatMap (·.chars) ++ (l :: after).flatMap (·.chars) := by
    rw [← List.flatMap_append, ← split, Lexeme.flatten_cut]
  rw [place, List.nil_append, ← Text.placeAt_append apart, ← whole]

/-- A quoted text with two breaks, a comment with a carriage return in it, a run of mixed breaks and a
    character that is no token stand before the last word. -/
theorem tokenize_places_mixed :
    let text := "\"a\r\nb\r\" # c\rd\n\n\r\n.\r  x".toList
    ∃ t, (tokenize text)[5]? = some t ∧ t.place = { line := 8, column := 3 } ∧
      ∃ before l after, Lexeme.cut text = before ++ l :: after ∧
        t.place = Text.placeAt text (before.flatMap (·.chars)).length := by
  intro text
  have place : (tokenize text)[5]?.map (·.place) = some { line := 8, column := 3 } := by decide +kernel
  obtain ⟨t, ht, last⟩ := Option.map_eq_some_iff.1 place
  obtain ⟨before, l, after, split, -, -, -, counted, -⟩ := tokenize_places text 5 t ht
  exact ⟨t, ht, last, before, l, after, split, counted⟩

end LitSpheres
