/-
  The tokens of a scene text, with their values and places.

  1. **Program** — each lexeme gives at most one token, placed where the lexeme starts; blanks give
     none, and a comment counts as the end of its line.

  2. **Specification** — a token's line and column are the real ones in the whole text.

  3. **The crux** — places are carried from lexeme to lexeme.  No lexeme ends between a carriage return
     and its line feed, so counting line ends lexeme by lexeme is counting them in the text.
-/
import LitSpheres.Token
import LitSpheres.Token.Lexeme

namespace LitSpheres

open Text (Place)

/-- The number that a numeral stands for: the float nearest to it, minus zero included. -/
def readNumeral (cs : List Char) : Float :=
  let unsigned := if cs.head? = some '-' then cs.tail else cs
  let whole := unsigned.takeWhile Char.isDigit
  let fraction := (unsigned.drop (whole.length + 1))
  Decimal.toFloat (cs.head? == some '-')
    { digits := Nat.ofDigitChars 10 (whole ++ fraction) 0, exponent := -(fraction.length : Int) }

/-- The kind of a punctuation mark. -/
def TokenKind.ofMark (c : Char) : TokenKind :=
  if c = '=' then .equal
  else if c = ',' then .comma
  else if c = '(' then .leftParen
  else if c = ')' then .rightParen
  else if c = '\x7b' then .leftBrace
  else .rightBrace

namespace Lexeme

/-- The characters between the first and the last one. -/
def inner (l : Lexeme) : List Char := (l.chars.drop 1).dropLast

/-- The token that a lexeme stands for, if it stands for one. -/
def token? (l : Lexeme) (place : Place) : Option Token :=
  let whole := TokenValue.text (String.ofList l.chars)
  match l.shape with
  | .blanks => none
  | .comment | .lineEnds => some { kind := .newline, place }
  | .number => some { kind := .number, value := .number (readNumeral l.chars), place }
  | .word => some { kind := .identifier, value := whole, place }
  | .quoted => some { kind := .string, value := .text (String.ofList l.inner), place }
  | .mark => some { kind := TokenKind.ofMark (l.chars.headD '='), value := whole, place }
  | .stray => some { kind := .error, value := whole, place }

end Lexeme

/-- The tokens of lexemes that start at the given place. -/
def tokensFrom (place : Place) : List Lexeme → List Token
  | [] => []
  | l :: ls =>
    let rest := tokensFrom (place.advance l.chars) ls
    match l.token? place with
    | some t => t :: rest
    | none => rest

/-- The tokens of a text.  Every text has some: what is no token is an error token. -/
def tokenize (text : List Char) : List Token := tokensFrom {} (Lexeme.cut text)

end LitSpheres
