/-
  Definitions as the log shows them: a name and every field with its value.
-/
import LitSpheres.Definition
import LitSpheres.Text.Quoted

namespace LitSpheres

/-- A name and its fields in parentheses. -/
def displayRecord (name : String) (fields : List (String × String)) : String :=
  name ++ "(" ++ ", ".intercalate (fields.map fun (field, text) => field ++ "=" ++ text) ++ ")"

/-- What is set, or the word for nothing. -/
def displayOption {α : Type} (display : α → String) : Option α → String
  | none => "None"
  | some a => display a

/-- A number in messages and displays. -/
def displayNumber (x : Float) : String := NumberLayout.message.write x

/-- Numbers in parentheses, with a name before them if one is given. -/
def displayTriple (name : String) (v : Vec3 Float) : String :=
  name ++ "(" ++ ", ".intercalate (v.toList.map displayNumber) ++ ")"

namespace Definition

/-- The definition with all its fields. -/
def display : Definition → String
  | window w =>
    displayRecord "WindowDef" [("title", displayOption Text.quote w.title),
      ("width", displayOption displayNumber w.width), ("height", displayOption displayNumber w.height)]
  | light (.ambient i) => displayRecord "AmbientLightDef" [("intensity", displayNumber i)]
  | light (.point i position) =>
    displayRecord "PointLightDef" [("intensity", displayNumber i), ("position", displayTriple "" position)]
  | light (.directional i direction) =>
    displayRecord "DirectionLightDef"
      [("intensity", displayNumber i), ("direction", displayTriple "" direction)]
  | sphere s =>
    displayRecord "SphereDef" [("color", displayTriple "" s.color),
      ("center", displayTriple "" s.center), ("radius", displayNumber s.radius)]
  | bare => displayRecord "Definition" []

end Definition
end LitSpheres
