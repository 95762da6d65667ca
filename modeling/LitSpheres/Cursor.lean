/-
  A cursor: reading a text piece by piece.

  1. **Program** — a cursor stands in front of one of the tokens of a text, or behind the last one.  It can
     be asked for any piece of the grammar; it answers and moves behind the tokens that the piece took.

  2. **Specification** — a request that fails moves the cursor as well, and the next request goes on from
     there.  Only looking at the next token moves nothing.

  3. **The crux** — a cursor keeps all tokens and a position, a reading step sees only the tokens that are
     left; the position moves by as many tokens as there are fewer left.
-/
import LitSpheres.Definition.Read

namespace LitSpheres

/-- The next token, which is not taken. -/
def Reader.peek : Reader (Option Token) := fun tokens => ⟨.ok tokens.head?, tokens⟩

/-- What a cursor can be asked for. -/
inductive Request where
  /-- A look at the next token. -/
  | peek
  /-- The next token. -/
  | next
  /-- All line ends up to the next other token. -/
  | skipNewlines
  /-- All definitions up to the end. -/
  | definitions
  /-- A block. -/
  | block
  /-- An assignment with the end of its line. -/
  | assignment
  /-- The right side of an assignment. -/
  | value
  /-- The numbers of a triple, behind its opening parenthesis. -/
  | triple
  /-- A token of this kind; the demand says what is amiss with another one. -/
  | token (kind : TokenKind) (demand : String)
  /-- The number of a number token. -/
  | number (demand : String)
  /-- An identifier. -/
  | identifier (demand : String)

/-- What a cursor answers. -/
inductive Reply where
  | nothing
  | atMostToken (t : Option Token)
  | token (t : Token)
  | number (x : Float)
  | value (v : Value)
  | assignment (a : Assignment)
  | block (b : Block)
  | definitions (ds : List Definition)

/-- The reading step behind a request. -/
def Request.reader : Request → Reader Reply
  | peek => do return .atMostToken (← Reader.peek)
  | next => do return .atMostToken (← Reader.next)
  | skipNewlines => do
    Reader.skipNewlines
    return .nothing
  | definitions => do return .definitions (← Reader.definitions)
  | block => do return .block (← Reader.block)
  | assignment => do return .assignment (← Reader.assignment)
  | value => do return .value (← Reader.value)
  | triple => do return .value (.triple (← Reader.triple))
  | token kind demand => do return .token (← Reader.expect kind demand)
  | number demand => do return .number (← Reader.number demand)
  | identifier demand => do return .token (← Reader.identifier demand)

/-- All tokens of a text, and how many of them have been taken. -/
structure Cursor where
  tokens : List Token
  position : Nat := 0

namespace Cursor

/-- The cursor in front of a text. -/
def ofText (text : List Char) : Cursor := { tokens := tokenize text }

/-- The tokens that have not been taken. -/
def left (c : Cursor) : List Token := c.tokens.drop c.position

/-- The outcome of a request. -/
def answer (c : Cursor) (r : Request) : Except TextProblem Reply := (r.reader c.left).result

/-- The cursor behind the tokens that a request takes, whether it fails or not. -/
def move (c : Cursor) (r : Request) : Cursor :=
  { c with position := c.position + (c.left.length - (r.reader c.left).rest.length) }

/-- The cursor after some requests, one after another. -/
def after (c : Cursor) (requests : List Request) : Cursor := requests.foldl move c

end Cursor
end LitSpheres
