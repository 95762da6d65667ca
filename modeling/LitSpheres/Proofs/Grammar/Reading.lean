/-
  Reading steps and the trees of the grammar.

  1. **Program** — a reading step takes tokens from the front, looks one token ahead and never goes back.

  2. **Specification** — a step succeeds exactly on the token lists that begin with a tree of its kind,
     returns what the tree stands for, and leaves the tokens behind the tree.

  3. **The crux** — each step is settled by one equivalence, used from right to left for completeness
     and from left to right for soundness.  Inside a block the loop follows by induction on the tokens
     that are left in the one direction, and on the trees in the other.
-/
import LitSpheres.Block.Read
import LitSpheres.Proofs.Grammar.Tree

namespace LitSpheres

namespace Reader

variable {α β : Type} {tokens rest : List Token}

/-! ## Steps -/

theorem bind_of_ok {r : Reader α} {next : α → Reader β} {a : α} {mid : List Token}
    (h : r tokens = ⟨.ok a, mid⟩) : (r >>= next) tokens = next a mid := by
  show andThen r next tokens = next a mid
  unfold andThen
  rw [h]

/-- Two steps succeed one after the other if both do. -/
theorem bind_eq_ok {r : Reader α} {next : α → Reader β} {b : β} :
    (r >>= next) tokens = ⟨.ok b, rest⟩ ↔
      ∃ a mid, r tokens = ⟨.ok a, mid⟩ ∧ next a mid = ⟨.ok b, rest⟩ := by
  constructor
  · intro h
    match hr : r tokens with
    | ⟨.ok a, mid⟩ => exact ⟨a, mid, rfl, (bind_of_ok hr).symm.trans h⟩
    | ⟨.error problem, mid⟩ =>
      have failed : (r >>= next) tokens = ⟨.error problem, mid⟩ := by
        show andThen r next tokens = _
        unfold andThen
        rw [hr]
      exact absurd (failed.symm.trans h) (by simp)
  · rintro ⟨a, mid, hr, hn⟩
    exact (bind_of_ok hr).trans hn

theorem pure_eq_ok {a b : α} : (pure a : Reader α) tokens = ⟨.ok b, rest⟩ ↔ a = b ∧ tokens = rest := by
  show (⟨.ok a, tokens⟩ : Step α) = _ ↔ _
  simp

theorem fail_ne_ok {problem : TextProblem} {a : α} : (fail problem : Reader α) tokens ≠ ⟨.ok a, rest⟩ := by
  show (⟨.error problem, tokens⟩ : Step α) ≠ _
  simp

/-- The next token, if it is not an error token. -/
theorem next_cons {t : Token} (h : t.kind ≠ .error) : next (t :: rest) = ⟨.ok (some t), rest⟩ := by
  unfold next
  exact if_neg h

theorem next_eq_ok {o : Option Token} :
    next tokens = ⟨.ok o, rest⟩ ↔
      (o = none ∧ tokens = [] ∧ rest = []) ∨ ∃ t, o = some t ∧ tokens = t :: rest ∧ t.kind ≠ .error := by
  constructor
  · intro h
    cases tokens with
    | nil =>
      injection h with ho hr
      exact .inl ⟨(Except.ok.inj ho).symm, rfl, hr.symm⟩
    | cons t ts =>
      by_cases ht : t.kind = .error
      · have failed : next (t :: ts) = ⟨.error (.character t), ts⟩ := if_pos ht
        exact absurd (failed.symm.trans h) (by simp)
      · injection (next_cons ht).symm.trans h with ho hr
        exact .inr ⟨t, (Except.ok.inj ho).symm, by rw [hr], ht⟩
  · rintro (⟨rfl, rfl, rfl⟩ | ⟨t, rfl, rfl, ht⟩)
    · rfl
    · exact next_cons ht

theorem expect_leaf {kind : TokenKind} (hk : kind ≠ .error) (demand : String) (l : Leaf kind) :
    expect kind demand (l.token :: rest) = ⟨.ok l.token, rest⟩ := by
  unfold expect
  rw [bind_of_ok (next_cons (l.kind_ne hk))]
  dsimp only
  rw [if_pos l.kind_eq]
  rfl

/-- A token is taken exactly if it is of the kind that is due. -/
theorem expect_eq_ok {kind : TokenKind} {demand : String} {t : Token}
    (h : expect kind demand tokens = ⟨.ok t, rest⟩) :
    ∃ l : Leaf kind, l.token = t ∧ tokens = l.token :: rest := by
  obtain ⟨o, mid, taken, checked⟩ := bind_eq_ok.1 h
  rcases next_eq_ok.1 taken with ⟨rfl, -, -⟩ | ⟨u, rfl, rfl, -⟩
  · exact absurd checked fail_ne_ok
  · by_cases hu : u.kind = kind
    · dsimp only at checked
      rw [if_pos hu] at checked
      obtain ⟨rfl, rfl⟩ := pure_eq_ok.1 checked
      exact ⟨⟨u, hu⟩, rfl, rfl⟩
    · dsimp only at checked
      rw [if_neg hu] at checked
      exact absurd checked fail_ne_ok

theorem identifier_leaf (demand : String) (l : Leaf .identifier) :
    identifier demand (l.token :: rest) = ⟨.ok l.token, rest⟩ := expect_leaf (by decide) demand l

theorem number_leaf (demand : String) (l : Leaf .number) :
    number demand (l.token :: rest) = ⟨.ok l.token.number, rest⟩ := by
  unfold number
  rw [bind_of_ok (expect_leaf (by decide) demand l)]
  rfl

theorem number_eq_ok {demand : String} {x : Float} (h : number demand tokens = ⟨.ok x, rest⟩) :
    ∃ l : Leaf .number, l.token.number = x ∧ tokens = l.token :: rest := by
  obtain ⟨t, mid, taken, converted⟩ := bind_eq_ok.1 h
  obtain ⟨l, rfl, rfl⟩ := expect_eq_ok taken
  obtain ⟨rfl, rfl⟩ := pure_eq_ok.1 converted
  exact ⟨l, rfl, rfl⟩

/-! ## Values -/

theorem triple_eq_ok {v : Vec3 Float} (h : triple tokens = ⟨.ok v, rest⟩) :
    ∃ (x : Leaf .number) (first : Leaf .comma) (y : Leaf .number) (second : Leaf .comma)
      (z : Leaf .number) (closing : Leaf .rightParen),
      tokens = x.token :: first.token :: y.token :: second.token :: z.token :: closing.token :: rest ∧
        (⟨x.token.number, y.token.number, z.token.number⟩ : Vec3 Float) = v := by
  obtain ⟨_, _, hx, h₁⟩ := bind_eq_ok.1 h
  obtain ⟨x, rfl, rfl⟩ := number_eq_ok hx
  obtain ⟨_, _, hc, h₂⟩ := bind_eq_ok.1 h₁
  obtain ⟨first, rfl, rfl⟩ := expect_eq_ok hc
  obtain ⟨_, _, hy, h₃⟩ := bind_eq_ok.1 h₂
  obtain ⟨y, rfl, rfl⟩ := number_eq_ok hy
  obtain ⟨_, _, hd, h₄⟩ := bind_eq_ok.1 h₃
  obtain ⟨second, rfl, rfl⟩ := expect_eq_ok hd
  obtain ⟨_, _, hz, h₅⟩ := bind_eq_ok.1 h₄
  obtain ⟨z, rfl, rfl⟩ := number_eq_ok hz
  obtain ⟨_, _, he, h₆⟩ := bind_eq_ok.1 h₅
  obtain ⟨closing, rfl, rfl⟩ := expect_eq_ok he
  obtain ⟨same, rfl⟩ := pure_eq_ok.1 h₆
  exact ⟨x, first, y, second, z, closing, rfl, same⟩

theorem triple_leaves (x : Leaf .number) (first : Leaf .comma) (y : Leaf .number) (second : Leaf .comma)
    (z : Leaf .number) (closing : Leaf .rightParen) :
    triple (x.token :: first.token :: y.token :: second.token :: z.token :: closing.token :: rest) =
      ⟨.ok ⟨x.token.number, y.token.number, z.token.number⟩, rest⟩ := by
  unfold triple
  rw [bind_of_ok (number_leaf _ x), bind_of_ok (expect_leaf (by decide) _ first),
    bind_of_ok (number_leaf _ y), bind_of_ok (expect_leaf (by decide) _ second),
    bind_of_ok (number_leaf _ z), bind_of_ok (expect_leaf (by decide) _ closing)]
  rfl

/-- **Values**: a value is read exactly where a tree of one stands. -/
theorem value_eq_ok {v : Value} :
    value tokens = ⟨.ok v, rest⟩ ↔ ∃ tree : ValueTree, tokens = tree.tokens ++ rest ∧ tree.value = v := by
  constructor
  · intro h
    obtain ⟨o, mid, taken, chosen⟩ := bind_eq_ok.1 h
    rcases next_eq_ok.1 taken with ⟨rfl, -, -⟩ | ⟨t, rfl, rfl, -⟩
    · exact absurd chosen fail_ne_ok
    · dsimp only at chosen
      cases ht : t.kind <;> simp only [ht] at chosen
      case number =>
        obtain ⟨rfl, rfl⟩ := pure_eq_ok.1 chosen
        exact ⟨.number ⟨t, ht⟩, rfl, rfl⟩
      case string =>
        obtain ⟨rfl, rfl⟩ := pure_eq_ok.1 chosen
        exact ⟨.string ⟨t, ht⟩, rfl, rfl⟩
      case identifier =>
        obtain ⟨rfl, rfl⟩ := pure_eq_ok.1 chosen
        exact ⟨.word ⟨t, ht⟩, rfl, rfl⟩
      case leftParen =>
        obtain ⟨_, _, numbers, packed⟩ := bind_eq_ok.1 chosen
        obtain ⟨x, first, y, second, z, closing, rfl, rfl⟩ := triple_eq_ok numbers
        obtain ⟨rfl, rfl⟩ := pure_eq_ok.1 packed
        exact ⟨.triple ⟨t, ht⟩ x first y second z closing, rfl, rfl⟩
      -- no value begins with a token of another kind
      all_goals exact absurd chosen fail_ne_ok
  · rintro ⟨tree, rfl, rfl⟩
    unfold value
    cases tree with
    | number n =>
      show (next >>= _) (n.token :: rest) = _
      rw [bind_of_ok (next_cons (n.kind_ne (by decide)))]
      simp only [n.kind_eq]
      rfl
    | string s =>
      show (next >>= _) (s.token :: rest) = _
      rw [bind_of_ok (next_cons (s.kind_ne (by decide)))]
      simp only [s.kind_eq]
      rfl
    | word w =>
      show (next >>= _) (w.token :: rest) = _
      rw [bind_of_ok (next_cons (w.kind_ne (by decide)))]
      simp only [w.kind_eq]
      rfl
    | triple opening x first y second z closing =>
      show (next >>= _) (opening.token :: _) = _
      rw [bind_of_ok (next_cons (opening.kind_ne (by decide)))]
      simp only [opening.kind_eq]
      exact bind_of_ok (triple_leaves x first y second z closing)

/-! ## Assignments -/

/-- **Assignments**: an assignment is read exactly where a tree of one stands. -/
theorem assignment_eq_ok {a : Assignment} :
    assignment tokens = ⟨.ok a, rest⟩ ↔
      ∃ tree : AssignmentTree, tokens = tree.tokens ++ rest ∧ tree.assignment = a := by
  constructor
  · intro h
    obtain ⟨_, _, hn, h₁⟩ := bind_eq_ok.1 h
    obtain ⟨name, rfl, rfl⟩ := expect_eq_ok hn
    obtain ⟨_, _, he, h₂⟩ := bind_eq_ok.1 h₁
    obtain ⟨equal, rfl, rfl⟩ := expect_eq_ok he
    obtain ⟨_, _, hv, h₃⟩ := bind_eq_ok.1 h₂
    obtain ⟨value, rfl, rfl⟩ := value_eq_ok.1 hv
    obtain ⟨_, _, hl, h₄⟩ := bind_eq_ok.1 h₃
    obtain ⟨lineEnd, rfl, rfl⟩ := expect_eq_ok hl
    obtain ⟨rfl, rfl⟩ := pure_eq_ok.1 h₄
    refine ⟨{ name, equal, value, lineEnd }, ?_, rfl⟩
    simp [AssignmentTree.tokens]
  · rintro ⟨tree, rfl, rfl⟩
    obtain ⟨name, equal, value, lineEnd⟩ := tree
    unfold assignment AssignmentTree.tokens
    simp only [List.cons_append, List.append_assoc, List.nil_append]
    rw [bind_of_ok (identifier_leaf _ name), bind_of_ok (expect_leaf (by decide) _ equal),
      bind_of_ok (value_eq_ok.2 ⟨value, rfl, rfl⟩), bind_of_ok (expect_leaf (by decide) _ lineEnd)]
    rfl

/-! ## Blocks -/

theorem afterNewlines_cons {t : Token} {ts : List Token} (ht : t.kind = .newline) :
    afterNewlines (t :: ts) = afterNewlines ts := List.dropWhile_cons_of_pos (decide_eq_true ht)

theorem afterNewlines_cons_of_ne {t : Token} {ts : List Token} (ht : t.kind ≠ .newline) :
    afterNewlines (t :: ts) = t :: ts := List.dropWhile_cons_of_neg (by simpa using ht)

/-- Line ends are skipped. -/
theorem afterNewlines_skip (ns : List (Leaf .newline)) (rest : List Token) :
    afterNewlines (Leaf.tokens ns ++ rest) = afterNewlines rest := by
  induction ns with
  | nil => rfl
  | cons n ns ih => exact (afterNewlines_cons n.kind_eq).trans ih

/-- Only line ends are skipped. -/
theorem afterNewlines_of_head? (h : ∀ t ∈ rest.head?, t.kind ≠ .newline) : afterNewlines rest = rest := by
  cases rest with
  | nil => rfl
  | cons t ts => exact afterNewlines_cons_of_ne (h t rfl)

theorem afterNewlines_append (ns : List (Leaf .newline)) (h : ∀ t ∈ rest.head?, t.kind ≠ .newline) :
    afterNewlines (Leaf.tokens ns ++ rest) = rest := (afterNewlines_skip ns rest).trans (afterNewlines_of_head? h)

theorem exists_newlines (tokens : List Token) :
    ∃ ns : List (Leaf .newline), tokens = Leaf.tokens ns ++ afterNewlines tokens := by
  induction tokens with
  | nil => exact ⟨[], rfl⟩
  | cons t ts ih =>
    by_cases ht : t.kind = .newline
    · obtain ⟨ns, hns⟩ := ih
      refine ⟨⟨t, ht⟩ :: ns, ?_⟩
      rw [afterNewlines_cons ht]
      exact congrArg (t :: ·) hns
    · exact ⟨[], (afterNewlines_cons_of_ne ht).symm⟩

theorem restOfBlock_cons {kind : String} {t : Token} {ts left : List Token} {a : Assignment}
    {as : List Assignment} (ht : t.kind = .identifier) (ha : assignment (t :: ts) = ⟨.ok a, left⟩)
    (hr : restOfBlock kind left = ⟨.ok as, rest⟩) : restOfBlock kind (t :: ts) = ⟨.ok (a :: as), rest⟩ := by
  rw [restOfBlock]
  simp only [ht]
  split
  · next problem left' hf => exact absurd (hf.symm.trans ha) (by simp)
  · next b left' hb =>
    injection hb.symm.trans ha with same hl
    obtain rfl := Except.ok.inj same
    obtain rfl := hl
    rw [hr]

/-- **The loop in a block**: it takes items up to the closing brace, and gives the assignments. -/
theorem restOfBlock_eq_ok {kind : String} {as : List Assignment} :
    restOfBlock kind tokens = ⟨.ok as, rest⟩ ↔
      ∃ (items : List ItemTree) (closing : Leaf .rightBrace),
        tokens = BlockTree.tail items closing ++ rest ∧ items.filterMap ItemTree.assignment? = as := by
  constructor
  · intro h
    -- every round of the loop takes one item; the rounds that fail give no assignments
    fun_induction restOfBlock kind tokens generalizing as with
    | case1 => exact absurd h (by simp)
    | case2 t ts ht ih =>
      obtain ⟨items, closing, rfl, rfl⟩ := ih h
      exact ⟨.lineEnd ⟨t, ht⟩ :: items, closing, rfl, rfl⟩
    | case3 t ts ht =>
      injection h with ha hr
      obtain rfl := Except.ok.inj ha
      obtain rfl := hr
      exact ⟨[], ⟨t, ht⟩, rfl, rfl⟩
    | case4 t ts ht problem left hf => exact absurd h (by simp)
    | case5 t ts ht a left ha problem left' hr ih => exact absurd h (by simp)
    | case6 t ts ht a left ha as' left' hr ih =>
      injection h with same hl
      obtain rfl := Except.ok.inj same
      obtain rfl := hl
      obtain ⟨tree, htree, rfl⟩ := assignment_eq_ok.1 ha
      obtain ⟨items, closing, rfl, rfl⟩ := ih hr
      refine ⟨.assignment tree :: items, closing, ?_, rfl⟩
      rw [htree]
      simp [BlockTree.tail, ItemTree.tokens]
    | case7 t ts ht => exact absurd h (by simp)
    | case8 t ts => exact absurd h (by simp)
  · rintro ⟨items, closing, rfl, rfl⟩
    induction items with
    | nil =>
      show restOfBlock kind (closing.token :: rest) = _
      rw [restOfBlock]
      simp only [closing.kind_eq]
      rfl
    | cons item items ih =>
      cases item with
      | lineEnd n =>
        show restOfBlock kind (n.token :: (BlockTree.tail items closing ++ rest)) = _
        rw [restOfBlock]
        simp only [n.kind_eq]
        exact ih
      | assignment a =>
        have shape : BlockTree.tail (.assignment a :: items) closing ++ rest =
            a.tokens ++ (BlockTree.tail items closing ++ rest) := by
          simp [BlockTree.tail, ItemTree.tokens]
        exact restOfBlock_cons a.name.kind_eq (assignment_eq_ok.2 ⟨a, shape, rfl⟩) ih

/-- **Blocks**: a block is read exactly where a tree of one stands. -/
theorem block_eq_ok {b : Block} :
    block tokens = ⟨.ok b, rest⟩ ↔ ∃ tree : BlockTree, tokens = tree.tokens ++ rest ∧ tree.block = b := by
  constructor
  · intro h
    obtain ⟨_, _, hk, h₁⟩ := bind_eq_ok.1 h
    obtain ⟨kind, rfl, rfl⟩ := expect_eq_ok hk
    obtain ⟨_, _, ho, h₂⟩ := bind_eq_ok.1 h₁
    obtain ⟨opening, rfl, rfl⟩ := expect_eq_ok ho
    obtain ⟨_, behind, hl, h₃⟩ := bind_eq_ok.1 h₂
    obtain ⟨lineEnd, rfl, rfl⟩ := expect_eq_ok hl
    obtain ⟨_, _, hs, h₄⟩ := bind_eq_ok.1 h₃
    obtain ⟨-, rfl⟩ : () = () ∧ afterNewlines behind = _ := by
      injection hs with _ hs
      exact ⟨rfl, hs⟩
    obtain ⟨lineEnds, hends⟩ := exists_newlines behind
    obtain ⟨_, _, hf, h₅⟩ := bind_eq_ok.1 h₄
    obtain ⟨first, hfirst, rfl⟩ := assignment_eq_ok.1 hf
    obtain ⟨_, _, hr, h₆⟩ := bind_eq_ok.1 h₅
    obtain ⟨items, closing, rfl, rfl⟩ := restOfBlock_eq_ok.1 hr
    obtain ⟨rfl, rfl⟩ := pure_eq_ok.1 h₆
    refine ⟨{ kind, opening, lineEnd, lineEnds, first, items, closing }, ?_, rfl⟩
    rw [hends, hfirst]
    simp [BlockTree.tokens]
  · rintro ⟨tree, rfl, rfl⟩
    obtain ⟨kind, opening, lineEnd, lineEnds, first, items, closing⟩ := tree
    have due : ∀ t ∈ (first.tokens ++ (BlockTree.tail items closing ++ rest)).head?, t.kind ≠ .newline := by
      intro t ht
      obtain rfl : first.name.token = t := Option.some.inj ht
      exact first.name.kind_ne (by decide)
    have skip : skipNewlines
        (Leaf.tokens lineEnds ++ (first.tokens ++ (BlockTree.tail items closing ++ rest))) =
        ⟨.ok (), first.tokens ++ (BlockTree.tail items closing ++ rest)⟩ := by
      unfold skipNewlines
      rw [afterNewlines_append lineEnds due]
    unfold block BlockTree.tokens
    simp only [List.cons_append, List.append_assoc]
    rw [bind_of_ok (identifier_leaf _ kind), bind_of_ok (expect_leaf (by decide) _ opening),
      bind_of_ok (expect_leaf (by decide) _ lineEnd), bind_of_ok skip,
      bind_of_ok (assignment_eq_ok.2 ⟨first, rfl, rfl⟩),
      bind_of_ok (restOfBlock_eq_ok.2 ⟨items, closing, rfl, rfl⟩)]
    rfl

end Reader

end LitSpheres
