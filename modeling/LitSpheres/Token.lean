/-
  The tokens of scene text.

  1. **Program** — a token has a kind, the value its characters stand for, and the place where they
     start; messages name it by kind, value and place.

  2. **Specification** — the text of a token is what a reader of the scene would point at: a string is
     shown between its own quotes, a line end is only named, everything else is named and shown.
-/
import LitSpheres.Decimal.Layout
import LitSpheres.Text.Place

namespace LitSpheres

open Text (Place)

/-- The kinds of tokens; `error` is a character that starts none of the others. -/
inductive TokenKind where
  | identifier
  | number
  | string
  | newline
  | equal
  | comma
  | leftParen
  | rightParen
  | leftBrace
  | rightBrace
  | error
deriving DecidableEq, Repr

namespace TokenKind

/-- The name of a kind in messages. -/
def name : TokenKind → String
  | identifier => "identifier"
  | number => "number"
  | string => "string"
  | newline => "newline"
  | equal => "equal"
  | comma => "comma"
  | leftParen => "lparen"
  | rightParen => "rparen"
  | leftBrace => "lbrace"
  | rightBrace => "rbrace"
  | error => "error"

/-- All kinds, in the order in which they are listed above. -/
def all : List TokenKind :=
  [identifier, number, string, newline, equal, comma, leftParen, rightParen, leftBrace, rightBrace, error]

theorem mem_all (k : TokenKind) : k ∈ all := by cases k <;> decide

end TokenKind

/-- What a token stands for: nothing, a text, or a number. -/
inductive TokenValue where
  | none
  | text (s : String)
  | number (x : Float)

/-- The value as messages show it. -/
def TokenValue.display : TokenValue → String
  | none => "None"
  | text s => s
  | number x => NumberLayout.message.write x

/-- A token and where it starts. -/
structure Token where
  kind : TokenKind
  value : TokenValue := .none
  place : Place := {}

namespace Token

/-- The text of a string, an identifier or an error character. -/
def text (t : Token) : String :=
  match t.value with
  | .text s => s
  | _ => ""

/-- The number of a number token. -/
def number (t : Token) : Float :=
  match t.value with
  | .number x => x
  | _ => 0

/-- What the token is, without its place. -/
def label (t : Token) : String :=
  match t.kind, t.value with
  | .newline, _ => "newline"
  | .string, v => "string \"" ++ v.display ++ "\""
  | k, .none => k.name
  | k, v => k.name ++ " '" ++ v.display ++ "'"

/-- What the token is and where, as error messages say it. -/
def describe (t : Token) : String :=
  t.label ++ s!" at line {t.place.line}, column {t.place.column}"

end Token

example : ({ kind := .comma, value := .text "," } : Token).label = "comma ','" := by decide
example : ({ kind := .string, value := .text "a" } : Token).label = "string \"a\"" := by decide

end LitSpheres
