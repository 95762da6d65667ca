/-
  Writing definitions as scene text.

  1. **Program** — each definition becomes one block with its assignments in a fixed order; what a window
     does not set is left out.

  2. **Specification** — reading the text gives the definitions back, every number bit for bit.  What has
     no such text is refused: numbers that are not finite, texts that hold a double quote, windows
     that set nothing, and definitions of no kind.

  3. **The crux** — numbers are written with their shortest digits in positional notation, which the
     lexemes of numbers cover exactly.
-/
import LitSpheres.Definition
import LitSpheres.Text.Quoted

namespace LitSpheres

/-- What cannot be written as scene text. -/
inductive WriteProblem where
  /-- An infinity or what is no number. -/
  | nonFinite (x : Float)
  /-- A text that holds a double quote. -/
  | doubleQuote (s : String)
  /-- A window that sets nothing; a block needs at least one assignment. -/
  | emptyWindow
  /-- A definition of no kind. -/
  | notAScene

namespace WriteProblem

def message : WriteProblem → String
  | nonFinite x => s!"Cannot write non-finite number {NumberLayout.message.write x}"
  | doubleQuote s => s!"Strings cannot contain double quotes: {Text.quote s}"
  | emptyWindow => "An empty window definition cannot be written"
  | notAScene => "Not a scene definition: Definition()"

end WriteProblem

/-! ## Values -/

/-- A finite number in scene text. -/
def writeNumber (x : Float) : Except WriteProblem String :=
  if Binary64.isFinite x then .ok (NumberLayout.scene.write x) else .error (.nonFinite x)

/-- A triple of finite numbers in scene text. -/
def writeTriple (v : Vec3 Float) : Except WriteProblem String := do
  let x ← writeNumber v.x
  let y ← writeNumber v.y
  let z ← writeNumber v.z
  .ok ("(" ++ x ++ ", " ++ y ++ ", " ++ z ++ ")")

/-- A text in scene text. -/
def writeText (s : String) : Except WriteProblem String :=
  if '"' ∈ s.toList then .error (.doubleQuote s) else .ok ("\"" ++ s ++ "\"")

/-! ## Definitions -/

/-- An assignment that stands in the block only if its value is set. -/
def writeIfSet {α : Type} (name : String) (write : α → Except WriteProblem String) (v : Option α) :
    Except WriteProblem (List (String × String)) :=
  match v with
  | none => .ok []
  | some a => (write a).map fun text => [(name, text)]

namespace Definition

/-- The kind of the definition's block and the assignments in it. -/
def lines : Definition → Except WriteProblem (String × List (String × String))
  | window w => do
    let title ← writeIfSet "title" writeText w.title
    let width ← writeIfSet "width" writeNumber w.width
    let height ← writeIfSet "height" writeNumber w.height
    let all := title ++ width ++ height
    if all.isEmpty then .error .emptyWindow else .ok ("window", all)
  | light (.ambient intensity) => do
    let i ← writeNumber intensity
    .ok ("light", [("type", "ambient"), ("intensity", i)])
  | light (.point intensity position) => do
    let i ← writeNumber intensity
    let p ← writeTriple position
    .ok ("light", [("type", "point"), ("intensity", i), ("position", p)])
  | light (.directional intensity direction) => do
    let i ← writeNumber intensity
    let d ← writeTriple direction
    .ok ("light", [("type", "directional"), ("intensity", i), ("direction", d)])
  | sphere s => do
    let color ← writeTriple s.color
    let center ← writeTriple s.center
    let radius ← writeNumber s.radius
    .ok ("sphere", [("color", color), ("center", center), ("radius", radius)])
  | bare => .error .notAScene

/-- The block of a definition. -/
def write (d : Definition) : Except WriteProblem String :=
  d.lines.map fun (kind, all) =>
    kind ++ " \x7b\n" ++ String.join (all.map fun (name, text) => name ++ " = " ++ text ++ "\n") ++ "\x7d\n"

end Definition

/-- The scene text of definitions, block after block. -/
def writeScene (definitions : List Definition) : Except WriteProblem String :=
  (definitions.mapM Definition.write).map String.join

end LitSpheres
