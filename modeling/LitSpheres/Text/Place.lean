/-
  Lines and columns of a text, and the ways in which its lines end.

  1. **Program** — a carriage return followed by a line feed, a lone carriage return and a lone line
     feed each end one line; a place moves forward over characters by counting them.

  2. **Specification** — the line of a place is one more than the number of line ends before it, and
     its column one more than the number of characters since the last of them.

  3. **The crux** — moving over one piece of text and then over the next is moving over both, unless a
     pair of carriage return and line feed is cut in two.
-/
namespace LitSpheres.Text

/-- A place in a text, counted from one.  A place that is made by hand may lie before the text. -/
structure Place where
  line : Int := 1
  column : Int := 1
deriving DecidableEq, Repr

namespace Place

/-- The start of the next line. -/
def nextLine (p : Place) : Place := { line := p.line + 1, column := 1 }

/-- The place behind the characters. -/
def advance (p : Place) : List Char → Place
  | [] => p
  | '\r' :: '\n' :: cs => p.nextLine.advance cs
  | c :: cs =>
    if c = '\r' ∨ c = '\n' then p.nextLine.advance cs
    else { p with column := p.column + 1 }.advance cs

end Place

/-- The text with a line feed for each of its line ends. -/
def unifyLineEnds : List Char → List Char
  | [] => []
  | '\r' :: '\n' :: cs => '\n' :: unifyLineEnds cs
  | c :: cs => (if c = '\r' then '\n' else c) :: unifyLineEnds cs

example : Place.advance {} "ab\r\n\rc".toList = { line := 3, column := 2 } := by decide
example : unifyLineEnds "a\r\nb\rc\n\r".toList = "a\nb\nc\n\n".toList := by decide

end LitSpheres.Text
