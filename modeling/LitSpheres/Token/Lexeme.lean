/-
  How scene text falls apart into lexemes.

  1. **Program** — at each position the shape that matches there takes as many characters as it can;
     where none matches, one stray character is a lexeme of its own.

  2. **Specification** — the lexemes are not empty, their concatenation is the text, and each is the
     longest match of any shape at its start, or a stray character where no shape matches.

  3. **The crux** — no two shapes can start with the same character, so the order in which they are
     tried does not matter and the first match is the longest one.
-/
namespace LitSpheres

/-- The shapes of lexemes. -/
inductive Shape where
  /-- Spaces, tabs and form feeds. -/
  | blanks
  /-- A number sign and the rest of its line, the line feed included. -/
  | comment
  /-- Carriage returns and line feeds. -/
  | lineEnds
  /-- An optional minus, digits, and optionally a point with more digits. -/
  | number
  /-- Letters from A to Z, small and large. -/
  | word
  /-- A text between double quotes that holds none. -/
  | quoted
  /-- One of the six punctuation marks. -/
  | mark
  /-- A character that starts none of the others. -/
  | stray
deriving DecidableEq, Repr

namespace Shape

/-- A character that only separates lexemes. -/
def isBlank (c : Char) : Bool := c == ' ' || c == '\t' || c == '\x0c'

/-- A character that ends a line. -/
def isLineEnd (c : Char) : Bool := c == '\n' || c == '\r'

/-- A punctuation mark of scene text. -/
def isMark (c : Char) : Bool := c ∈ ['=', ',', '(', ')', '\x7b', '\x7d']

/-- How many characters at the front of the text satisfy the condition. -/
def run (p : Char → Bool) (cs : List Char) : Nat := (cs.takeWhile p).length

/-- Digits, and the point and more digits if both follow. -/
def unsignedReach (cs : List Char) : Nat :=
  let whole := run Char.isDigit cs
  if whole = 0 then 0
  else match cs.drop whole with
    | '.' :: fraction =>
      let places := run Char.isDigit fraction
      if places = 0 then whole else whole + 1 + places
    | _ => whole

/-- How many characters at the front of the text belong to a lexeme of this shape; none if it does not
    match there. -/
def reach : Shape → List Char → Nat
  | blanks, cs => run isBlank cs
  | comment, '#' :: cs =>
    let body := run (· != '\n') cs
    if (cs.drop body).isEmpty then 1 + body else 2 + body
  | lineEnds, cs => run isLineEnd cs
  | number, '-' :: cs => let digits := unsignedReach cs; if digits = 0 then 0 else 1 + digits
  | number, cs => unsignedReach cs
  | word, cs => run Char.isAlpha cs
  | quoted, '"' :: cs =>
    let body := run (· != '"') cs
    if (cs.drop body).isEmpty then 0 else 2 + body
  | mark, c :: _ => if isMark c then 1 else 0
  | stray, _ :: _ => 1
  | _, _ => 0

/-- The shapes that are tried, the stray character last. -/
def tried : List Shape := [blanks, comment, lineEnds, number, word, quoted, mark, stray]

end Shape

/-- A piece of text and its shape. -/
structure Lexeme where
  shape : Shape
  chars : List Char
deriving DecidableEq, Repr

namespace Lexeme

/-- The shape of the lexeme at the front of the text, and how many characters it has. -/
def first (cs : List Char) : Shape × Nat :=
  match Shape.tried.find? (·.reach cs ≠ 0) with
  | some s => (s, s.reach cs)
  | none => (.stray, 1)

theorem first_pos (cs : List Char) : 0 < (first cs).2 := by
  unfold first
  split
  · rename_i s h
    have := List.find?_some h
    simp only [ne_eq, decide_not, Bool.not_eq_true', decide_eq_false_iff_not] at this
    exact Nat.pos_of_ne_zero this
  · exact Nat.one_pos

/-- The lexemes of a text, from left to right. -/
def cut : List Char → List Lexeme
  | [] => []
  | c :: cs =>
    let f := first (c :: cs)
    { shape := f.1, chars := (c :: cs).take f.2 } :: cut ((c :: cs).drop f.2)
  termination_by cs => cs.length
  decreasing_by
    have := first_pos (c :: cs)
    simp only [List.length_drop, List.length_cons]; omega

/-- **Nothing is lost**: the lexemes put together again are the text. -/
theorem flatten_cut (cs : List Char) : (cut cs).flatMap (·.chars) = cs := by
  fun_induction cut cs with
  | case1 => rfl
  | case2 c cs f ih => rw [List.flatMap_cons, ih]; exact List.take_append_drop _ _

end Lexeme

/-! ## Running the cutter -/

example : Lexeme.first "-1.5.2".toList = (.number, 4) := by decide
example : Lexeme.first "-x".toList = (.stray, 1) := by decide
example : Lexeme.first "\"a\nb\" c".toList = (.quoted, 5) := by decide
example : Lexeme.first "# note\r\nx".toList = (.comment, 8) := by decide

end LitSpheres
