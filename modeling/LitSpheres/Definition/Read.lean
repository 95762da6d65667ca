/-
  Reading a whole scene text.

  1. **Program** — blocks are read one after another, with line ends between them, and each is given its
     meaning as soon as it is closed.  Reading stops at the first problem.

  2. **Specification** — a text is a scene if its tokens are line ends and at least one block, and every
     block means a definition; the result is those definitions in order.

  3. **The crux** — the problem that is reported is the first one in the order of the text, whether it
     is one of characters, of grammar or of meaning; what follows it has no influence.
-/
import LitSpheres.Block.Read
import LitSpheres.Definition
import LitSpheres.Token.Scan

namespace LitSpheres

/-- How far the reading of a text came: the definitions that were found, the problem that stopped it,
    and the tokens that were not taken. -/
structure Reading where
  found : List Definition
  problem : Option TextProblem
  rest : List Token

namespace Reading

/-- The definitions, if the whole text was read and holds some. -/
def result (r : Reading) : Except TextProblem (List Definition) :=
  match r.problem with
  | some problem => .error problem
  | none => if r.found.isEmpty then .error (.grammar .noDefinition) else .ok r.found

/-- Reads all definitions, from the first token to the last. -/
def ofTokens (tokens : List Token) : Reading :=
  match _hn : Reader.afterNewlines tokens with
  | [] => { found := [], problem := none, rest := [] }
  | t :: ts =>
    match _hb : Reader.block (t :: ts) with
    | ⟨.error problem, rest⟩ => { found := [], problem := some problem, rest }
    | ⟨.ok b, rest⟩ =>
      match Definition.ofBlock b with
      | .error problem => { found := [], problem := some (.meaning problem), rest }
      | .ok d =>
        let others := ofTokens rest
        { others with found := d :: others.found }
  termination_by tokens.length
  decreasing_by
    have hs : (Reader.block (t :: ts)).rest <:+ ts := Reader.rest_block_suffix (t :: ts)
    have hd : t :: ts <:+ tokens := _hn ▸ Reader.afterNewlines_suffix tokens
    rw [_hb] at hs
    exact Nat.lt_of_lt_of_le (Nat.lt_succ_of_le hs.length_le) hd.length_le

end Reading

/-- The definitions that the tokens hold, as a reading step. -/
def Reader.definitions : Reader (List Definition) := fun tokens =>
  let r := Reading.ofTokens tokens
  ⟨r.result, r.rest⟩

/-- Reads a text, and keeps what was found before a problem. -/
def readText (text : List Char) : Reading := Reading.ofTokens (tokenize text)

/-- The definitions of a scene text, or the first problem in it. -/
def parse (text : List Char) : Except TextProblem (List Definition) := (readText text).result

end LitSpheres
