/-
  Text as it is shown between quotes in messages and displays.

  1. **Program** — a text stands in single quotes, or in double quotes when it holds a single quote
     and no double one; the quote in use, the backslash, the three named controls and everything
     that is not printable are escaped.

  2. **The crux** — an escape never depends on its neighbours, so a quoted text is the quote, one piece
     per character, and the quote again.
-/
import LitSpheres.Text.Printable

namespace LitSpheres.Text

/-- The last `places` hexadecimal digits of a number, in lower case, zeros filled in on the left. -/
def hexDigits (places n : Nat) : List Char :=
  let cs := Nat.toDigits 16 n
  List.replicate (places - cs.length) '0' ++ cs

/-- The number of a character behind a backslash, in the narrowest of three widths. -/
def numberEscape (c : Char) : List Char :=
  if c.toNat < 0x100 then '\\' :: 'x' :: hexDigits 2 c.toNat
  else if c.toNat < 0x10000 then '\\' :: 'u' :: hexDigits 4 c.toNat
  else '\\' :: 'U' :: hexDigits 8 c.toNat

/-- One character inside the given quotes. -/
def quotedChar (mark c : Char) : List Char :=
  if c = mark ∨ c = '\\' then ['\\', c]
  else if c = '\n' then ['\\', 'n']
  else if c = '\r' then ['\\', 'r']
  else if c = '\t' then ['\\', 't']
  else if isPrintable c then [c]
  else numberEscape c

/-- Single quotes, unless only double quotes need no escape. -/
def quoteMark (cs : List Char) : Char :=
  if '\'' ∈ cs ∧ '"' ∉ cs then '"' else '\''

/-- A text in its quotes. -/
def quoteChars (cs : List Char) : List Char :=
  let mark := quoteMark cs
  mark :: (cs.flatMap (quotedChar mark) ++ [mark])

/-- A string in its quotes. -/
def quote (s : String) : String := String.ofList (quoteChars s.toList)

example : quoteChars ['a', '\n'] = ['\'', 'a', '\\', 'n', '\''] := by decide
example : quoteMark "it's".toList = '"' := by decide
example : numberEscape '\x07' = "\\x07".toList := by decide

end LitSpheres.Text
