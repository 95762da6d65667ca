/-
  Blocks: the shape of a definition before anything is known about its meaning.

  1. **Program** — a block has a kind, such as `sphere`, and a list of assignments of a number, a text
     or a triple of numbers to names.  A name may be assigned more than once.

  2. **Specification** — a name's effective value is the one it was assigned last; what it was assigned
     before leaves no trace.
-/
import LitSpheres.Decimal.Layout
import LitSpheres.Text.Place
import LitSpheres.Vec3

namespace LitSpheres

open Text (Place)

/-- What can stand on the right of an assignment. -/
inductive Value where
  | number (x : Float)
  | text (s : String)
  | triple (v : Vec3 Float)

/-- The kinds of values. -/
inductive ValueKind where
  | number
  | text
  | triple
deriving DecidableEq, Repr

namespace ValueKind

/-- The name of a kind of value in messages. -/
def name : ValueKind → String
  | number => "number"
  | text => "string"
  | triple => "tuple"

end ValueKind

namespace Value

/-- The kind of a value. -/
def kind : Value → ValueKind
  | number _ => .number
  | text _ => .text
  | triple _ => .triple

/-- The value as messages show it, its kind first. -/
def display (v : Value) : String :=
  v.kind.name ++ " " ++ match v with
    | number x => NumberLayout.scene.write x
    | text s => "\"" ++ s ++ "\""
    | triple t => "(" ++ ", ".intercalate (t.toList.map NumberLayout.scene.write) ++ ")"

end Value

/-- One assignment, and where its name stands. -/
structure Assignment where
  name : String
  value : Value
  place : Place := {}

/-- A block, and where its kind stands. -/
structure Block where
  kind : String
  assignments : List Assignment
  place : Place := {}

namespace Block

/-- The effective value of a name, if the block assigns it. -/
def value? (b : Block) (name : String) : Option Value :=
  (b.assignments.reverse.find? (·.name == name)).map (·.value)

/-- Whether the block assigns the name. -/
def assigns (b : Block) (name : String) : Bool := (b.value? name).isSome

/-- The first assignment of a name that is not among the allowed ones. -/
def stranger? (b : Block) (allowed : List String) : Option Assignment :=
  b.assignments.find? (fun a => !allowed.contains a.name)

end Block
end LitSpheres
