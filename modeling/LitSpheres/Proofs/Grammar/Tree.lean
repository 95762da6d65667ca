/-
  The grammar of scene text, as derivation trees over tokens.

      scene       :=  NEWLINE* (definition NEWLINE*)+
      definition  :=  IDENTIFIER '{' NEWLINE NEWLINE* assignment (NEWLINE | assignment)* '}'
      assignment  :=  IDENTIFIER '=' value NEWLINE
      value       :=  NUMBER | STRING | IDENTIFIER | '(' NUMBER ',' NUMBER ',' NUMBER ')'

  1. **Trees** — a tree of each kind has its tokens at the leaves, so that the tokens of a tree, from left
     to right, are the token list that it derives.

  2. **Specification** — a token list has at most one tree; indeed no tree's tokens are the beginning
     of another's, so what stands behind a tree is determined as well.

  3. **The crux** — wherever the grammar leaves a choice, the kind of the next token makes it.
-/
import LitSpheres.Block
import LitSpheres.Token

namespace LitSpheres

/-- A token of one kind. -/
structure Leaf (kind : TokenKind) where
  token : Token
  kind_eq : token.kind = kind

namespace Leaf

variable {kind : TokenKind}

theorem ext_token {a b : Leaf kind} (h : a.token = b.token) : a = b := by
  obtain ⟨t, ht⟩ := a
  obtain ⟨u, hu⟩ := b
  obtain rfl : t = u := h
  rfl

theorem kind_ne (a : Leaf kind) {other : TokenKind} (h : kind ≠ other) : a.token.kind ≠ other := by
  rw [a.kind_eq]
  exact h

/-- The tokens of several leaves. -/
def tokens (leaves : List (Leaf kind)) : List Token := leaves.map (·.token)

end Leaf

/-! ## Trees -/

/-- A value. -/
inductive ValueTree where
  | number (n : Leaf .number)
  | string (s : Leaf .string)
  | word (w : Leaf .identifier)
  | triple (opening : Leaf .leftParen) (x : Leaf .number) (first : Leaf .comma) (y : Leaf .number)
      (second : Leaf .comma) (z : Leaf .number) (closing : Leaf .rightParen)

/-- An assignment. -/
structure AssignmentTree where
  name : Leaf .identifier
  equal : Leaf .equal
  value : ValueTree
  lineEnd : Leaf .newline

/-- What may follow the first assignment of a block. -/
inductive ItemTree where
  | lineEnd (n : Leaf .newline)
  | assignment (a : AssignmentTree)

/-- The definition of one thing in the scene. -/
structure BlockTree where
  kind : Leaf .identifier
  opening : Leaf .leftBrace
  lineEnd : Leaf .newline
  lineEnds : List (Leaf .newline)
  first : AssignmentTree
  items : List ItemTree
  closing : Leaf .rightBrace

/-- A scene: line ends, and at least one definition with the line ends behind it. -/
structure SceneTree where
  lineEnds : List (Leaf .newline)
  definitions : List (BlockTree × List (Leaf .newline))
  nonempty : definitions ≠ []

/-! ## The tokens of a tree, and what it stands for -/

namespace ValueTree

def tokens : ValueTree → List Token
  | number n => [n.token]
  | string s => [s.token]
  | word w => [w.token]
  | triple opening x first y second z closing =>
    [opening.token, x.token, first.token, y.token, second.token, z.token, closing.token]

/-- The value of the tokens: a number, the text of a string or a word, or three numbers. -/
def value : ValueTree → Value
  | number n => .number n.token.number
  | string s => .text s.token.text
  | word w => .text w.token.text
  | triple _ x _ y _ z _ => .triple ⟨x.token.number, y.token.number, z.token.number⟩

end ValueTree

namespace AssignmentTree

def tokens (a : AssignmentTree) : List Token :=
  a.name.token :: a.equal.token :: (a.value.tokens ++ [a.lineEnd.token])

def assignment (a : AssignmentTree) : Assignment :=
  { name := a.name.token.text, value := a.value.value, place := a.name.token.place }

end AssignmentTree

namespace ItemTree

def tokens : ItemTree → List Token
  | lineEnd n => [n.token]
  | assignment a => a.tokens

def assignment? : ItemTree → Option Assignment
  | lineEnd _ => none
  | assignment a => some a.assignment

end ItemTree

namespace BlockTree

/-- The tokens of the items and the closing brace. -/
def tail (items : List ItemTree) (closing : Leaf .rightBrace) : List Token :=
  items.flatMap ItemTree.tokens ++ [closing.token]

def tokens (b : BlockTree) : List Token :=
  b.kind.token :: b.opening.token :: b.lineEnd.token ::
    (Leaf.tokens b.lineEnds ++ (b.first.tokens ++ tail b.items b.closing))

/-- The block: the kind it is of, and its assignments in order. -/
def block (b : BlockTree) : Block :=
  { kind := b.kind.token.text
    assignments := b.first.assignment :: b.items.filterMap ItemTree.assignment?
    place := b.kind.token.place }

end BlockTree

namespace SceneTree

/-- The tokens of definitions with the line ends behind them. -/
def body (definitions : List (BlockTree × List (Leaf .newline))) : List Token :=
  definitions.flatMap fun d => d.1.tokens ++ Leaf.tokens d.2

def tokens (s : SceneTree) : List Token := Leaf.tokens s.lineEnds ++ body s.definitions

/-- The blocks of the scene in order. -/
def blocks (s : SceneTree) : List Block := s.definitions.map (·.1.block)

end SceneTree

/-! ## Unambiguity -/

theorem Leaf.cons_inj {kind : TokenKind} {a b : Leaf kind} {r s : List Token}
    (h : a.token :: r = b.token :: s) : a = b ∧ r = s :=
  ⟨Leaf.ext_token (List.cons.inj h).1, (List.cons.inj h).2⟩

/-- Tokens of different kinds are not the same. -/
theorem Leaf.cons_ne {k l : TokenKind} (hkl : k ≠ l) (a : Leaf k) (b : Leaf l) (r s : List Token) :
    a.token :: r ≠ b.token :: s := by
  intro h
  have same : a.token.kind = b.token.kind := congrArg Token.kind (List.cons.inj h).1
  rw [a.kind_eq, b.kind_eq] at same
  exact hkl same

/-- The line ends at the front are determined by what does not begin with one. -/
theorem Leaf.newlines_inj {ns ms : List (Leaf .newline)} {r s : List Token}
    (hr : ∀ t ∈ r.head?, t.kind ≠ .newline) (hs : ∀ t ∈ s.head?, t.kind ≠ .newline)
    (h : Leaf.tokens ns ++ r = Leaf.tokens ms ++ s) : ns = ms ∧ r = s := by
  induction ns generalizing ms with
  | nil =>
    cases ms with
    | nil => exact ⟨rfl, h⟩
    | cons m ms =>
      obtain rfl : r = m.token :: (Leaf.tokens ms ++ s) := h
      exact absurd m.kind_eq (hr m.token rfl)
  | cons n ns ih =>
    cases ms with
    | nil =>
      obtain rfl : n.token :: (Leaf.tokens ns ++ r) = s := h
      exact absurd n.kind_eq (hs n.token rfl)
    | cons m ms =>
      obtain ⟨same, behind⟩ := Leaf.cons_inj (r := Leaf.tokens ns ++ r) (s := Leaf.tokens ms ++ s) h
      obtain ⟨others, rest⟩ := ih behind
      exact ⟨by rw [same, others], rest⟩

theorem ValueTree.append_inj {v w : ValueTree} {r s : List Token} (h : v.tokens ++ r = w.tokens ++ s) :
    v = w ∧ r = s := by
  -- the first token tells which of the four it is
  cases v with
  | number n =>
    cases w with
    | number m =>
      obtain ⟨rfl, rest⟩ := Leaf.cons_inj h
      exact ⟨rfl, rest⟩
    | string m => exact absurd h (Leaf.cons_ne (by decide) n m r s)
    | word m => exact absurd h (Leaf.cons_ne (by decide) n m r s)
    | triple m => exact absurd h (Leaf.cons_ne (by decide) n m r _)
  | string n =>
    cases w with
    | number m => exact absurd h (Leaf.cons_ne (by decide) n m r s)
    | string m =>
      obtain ⟨rfl, rest⟩ := Leaf.cons_inj h
      exact ⟨rfl, rest⟩
    | word m => exact absurd h (Leaf.cons_ne (by decide) n m r s)
    | triple m => exact absurd h (Leaf.cons_ne (by decide) n m r _)
  | word n =>
    cases w with
    | number m => exact absurd h (Leaf.cons_ne (by decide) n m r s)
    | string m => exact absurd h (Leaf.cons_ne (by decide) n m r s)
    | word m =>
      obtain ⟨rfl, rest⟩ := Leaf.cons_inj h
      exact ⟨rfl, rest⟩
    | triple m => exact absurd h (Leaf.cons_ne (by decide) n m r _)
  | triple n =>
    cases w with
    | number m => exact absurd h (Leaf.cons_ne (by decide) n m _ s)
    | string m => exact absurd h (Leaf.cons_ne (by decide) n m _ s)
    | word m => exact absurd h (Leaf.cons_ne (by decide) n m _ s)
    | triple m =>
      obtain ⟨rfl, h₁⟩ := Leaf.cons_inj h
      obtain ⟨rfl, h₂⟩ := Leaf.cons_inj h₁
      obtain ⟨rfl, h₃⟩ := Leaf.cons_inj h₂
      obtain ⟨rfl, h₄⟩ := Leaf.cons_inj h₃
      obtain ⟨rfl, h₅⟩ := Leaf.cons_inj h₄
      obtain ⟨rfl, h₆⟩ := Leaf.cons_inj h₅
      obtain ⟨rfl, rest⟩ := Leaf.cons_inj h₆
      exact ⟨rfl, rest⟩

theorem AssignmentTree.append_inj {a b : AssignmentTree} {r s : List Token}
    (h : a.tokens ++ r = b.tokens ++ s) : a = b ∧ r = s := by
  obtain ⟨aName, aEqual, aValue, aEnd⟩ := a
  obtain ⟨bName, bEqual, bValue, bEnd⟩ := b
  unfold tokens at h
  simp only [List.cons_append, List.append_assoc] at h
  obtain ⟨rfl, h₁⟩ := Leaf.cons_inj h
  obtain ⟨rfl, h₂⟩ := Leaf.cons_inj h₁
  obtain ⟨rfl, h₃⟩ := ValueTree.append_inj h₂
  obtain ⟨rfl, rest⟩ := Leaf.cons_inj h₃
  exact ⟨rfl, rest⟩

/-- The items of a block end at its closing brace. -/
theorem BlockTree.tail_inj {is js : List ItemTree} {c d : Leaf .rightBrace} {r s : List Token}
    (h : tail is c ++ r = tail js d ++ s) : is = js ∧ c = d ∧ r = s := by
  unfold tail at h
  -- a closing brace begins no item, so the items of both sides end together
  induction is generalizing js with
  | nil =>
    cases js with
    | nil =>
      obtain ⟨rfl, rest⟩ := Leaf.cons_inj h
      exact ⟨rfl, rfl, rest⟩
    | cons j js =>
      cases j with
      | lineEnd n => exact absurd h (Leaf.cons_ne (by decide) c n r _)
      | assignment a => exact absurd h (Leaf.cons_ne (by decide) c a.name r _)
  | cons i is ih =>
    cases js with
    | nil =>
      cases i with
      | lineEnd n => exact absurd h (Leaf.cons_ne (by decide) n d _ s)
      | assignment a => exact absurd h (Leaf.cons_ne (by decide) a.name d _ s)
    | cons j js =>
      simp only [List.flatMap_cons, List.append_assoc] at h
      have item : i = j ∧ is.flatMap ItemTree.tokens ++ ([c.token] ++ r) =
          js.flatMap ItemTree.tokens ++ ([d.token] ++ s) := by
        cases i with
        | lineEnd n =>
          cases j with
          | lineEnd m =>
            obtain ⟨rfl, rest⟩ := Leaf.cons_inj h
            exact ⟨rfl, rest⟩
          | assignment b => exact absurd h (Leaf.cons_ne (by decide) n b.name _ _)
        | assignment a =>
          cases j with
          | lineEnd m => exact absurd h (Leaf.cons_ne (by decide) a.name m _ _)
          | assignment b =>
            obtain ⟨rfl, rest⟩ := AssignmentTree.append_inj h
            exact ⟨rfl, rest⟩
      obtain ⟨rfl, rest⟩ := item
      simp only [← List.append_assoc] at rest
      obtain ⟨rfl, others⟩ := ih rest
      exact ⟨rfl, others⟩

/-- A block begins with a word, so line ends before it are not part of it. -/
theorem BlockTree.head?_tokens (b : BlockTree) (r : List Token) :
    ∀ t ∈ (b.tokens ++ r).head?, t.kind ≠ .newline := by
  intro t ht
  obtain rfl : b.kind.token = t := Option.some.inj ht
  exact b.kind.kind_ne (by decide)

theorem BlockTree.append_inj {a b : BlockTree} {r s : List Token} (h : a.tokens ++ r = b.tokens ++ s) :
    a = b ∧ r = s := by
  obtain ⟨aKind, aOpening, aEnd, aEnds, aFirst, aItems, aClosing⟩ := a
  obtain ⟨bKind, bOpening, bEnd, bEnds, bFirst, bItems, bClosing⟩ := b
  have noEnd : ∀ (c : AssignmentTree) (u : List Token), ∀ t ∈ (c.tokens ++ u).head?, t.kind ≠ .newline := by
    intro c u t ht
    obtain rfl : c.name.token = t := Option.some.inj ht
    exact c.name.kind_ne (by decide)
  unfold tokens at h
  simp only [List.cons_append, List.append_assoc] at h
  obtain ⟨rfl, h₁⟩ := Leaf.cons_inj h
  obtain ⟨rfl, h₂⟩ := Leaf.cons_inj h₁
  obtain ⟨rfl, h₃⟩ := Leaf.cons_inj h₂
  obtain ⟨rfl, h₄⟩ := Leaf.newlines_inj (noEnd _ _) (noEnd _ _) h₃
  obtain ⟨rfl, h₅⟩ := AssignmentTree.append_inj h₄
  obtain ⟨rfl, rfl, rest⟩ := tail_inj h₅
  exact ⟨rfl, rest⟩

/-- The body of a scene does not begin with a line end. -/
theorem SceneTree.head?_body (ds : List (BlockTree × List (Leaf .newline))) :
    ∀ t ∈ (body ds).head?, t.kind ≠ .newline := by
  cases ds with
  | nil =>
    intro t ht
    exact absurd ht (by simp [body])
  | cons d ds =>
    unfold body
    rw [List.flatMap_cons, List.append_assoc]
    exact d.1.head?_tokens _

theorem SceneTree.body_inj {ds es : List (BlockTree × List (Leaf .newline))} (h : body ds = body es) :
    ds = es := by
  induction ds generalizing es with
  | nil =>
    cases es with
    | nil => rfl
    | cons e es => exact absurd h (by simp [body, BlockTree.tokens])
  | cons d ds ih =>
    cases es with
    | nil => exact absurd h (by simp [body, BlockTree.tokens])
    | cons e es =>
      obtain ⟨a, ns⟩ := d
      obtain ⟨b, ms⟩ := e
      unfold body at h
      simp only [List.flatMap_cons, List.append_assoc] at h
      obtain ⟨rfl, h₁⟩ := BlockTree.append_inj h
      obtain ⟨rfl, h₂⟩ := Leaf.newlines_inj (head?_body ds) (head?_body es) h₁
      rw [ih h₂]

/-! ## No error tokens -/

theorem Leaf.ne_error {kind : TokenKind} (hk : kind ≠ .error) {ls : List (Leaf kind)} {t : Token}
    (h : t ∈ Leaf.tokens ls) : t.kind ≠ .error := by
  obtain ⟨l, -, rfl⟩ := List.mem_map.1 h
  exact l.kind_ne hk

theorem ValueTree.ne_error {v : ValueTree} {t : Token} (h : t ∈ v.tokens) : t.kind ≠ .error := by
  cases v with
  | number n =>
    obtain rfl := List.mem_singleton.1 h
    exact n.kind_ne (by decide)
  | string s =>
    obtain rfl := List.mem_singleton.1 h
    exact s.kind_ne (by decide)
  | word w =>
    obtain rfl := List.mem_singleton.1 h
    exact w.kind_ne (by decide)
  | triple opening x first y second z closing =>
    simp only [tokens, List.mem_cons, List.not_mem_nil, or_false] at h
    rcases h with rfl | rfl | rfl | rfl | rfl | rfl | rfl
    · exact opening.kind_ne (by decide)
    · exact x.kind_ne (by decide)
    · exact first.kind_ne (by decide)
    · exact y.kind_ne (by decide)
    · exact second.kind_ne (by decide)
    · exact z.kind_ne (by decide)
    · exact closing.kind_ne (by decide)

theorem AssignmentTree.ne_error {a : AssignmentTree} {t : Token} (h : t ∈ a.tokens) : t.kind ≠ .error := by
  simp only [tokens, List.mem_cons, List.mem_append, List.not_mem_nil, or_false] at h
  rcases h with rfl | rfl | hv | rfl
  · exact a.name.kind_ne (by decide)
  · exact a.equal.kind_ne (by decide)
  · exact ValueTree.ne_error hv
  · exact a.lineEnd.kind_ne (by decide)

theorem ItemTree.ne_error {i : ItemTree} {t : Token} (h : t ∈ i.tokens) : t.kind ≠ .error := by
  cases i with
  | lineEnd n =>
    obtain rfl := List.mem_singleton.1 h
    exact n.kind_ne (by decide)
  | assignment a => exact AssignmentTree.ne_error h

theorem BlockTree.ne_error {b : BlockTree} {t : Token} (h : t ∈ b.tokens) : t.kind ≠ .error := by
  simp only [tokens, tail, List.mem_cons, List.mem_append, List.mem_flatMap, List.not_mem_nil, or_false] at h
  rcases h with rfl | rfl | rfl | hn | ha | ⟨i, -, hi⟩ | rfl
  · exact b.kind.kind_ne (by decide)
  · exact b.opening.kind_ne (by decide)
  · exact b.lineEnd.kind_ne (by decide)
  · exact Leaf.ne_error (by decide) hn
  · exact AssignmentTree.ne_error ha
  · exact ItemTree.ne_error hi
  · exact b.closing.kind_ne (by decide)

/-- What derives has no error token. -/
theorem SceneTree.ne_error {s : SceneTree} {t : Token} (h : t ∈ s.tokens) : t.kind ≠ .error := by
  simp only [tokens, body, List.mem_append, List.mem_flatMap] at h
  rcases h with hn | ⟨d, -, hb | hn⟩
  · exact Leaf.ne_error (by decide) hn
  · exact BlockTree.ne_error hb
  · exact Leaf.ne_error (by decide) hn

/-- **The grammar is unambiguous**: a token list has at most one derivation. -/
theorem SceneTree.tokens_inj {a b : SceneTree} (h : a.tokens = b.tokens) : a = b := by
  obtain ⟨ns, ds, hd⟩ := a
  obtain ⟨ms, es, he⟩ := b
  obtain ⟨rfl, bodies⟩ := Leaf.newlines_inj (head?_body ds) (head?_body es) h
  obtain rfl := body_inj bodies
  rfl

end LitSpheres
