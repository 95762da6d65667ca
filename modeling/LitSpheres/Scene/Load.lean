/-
  From definitions to a scene.

  1. **Program** — definitions are gone through in order.  Each window setting replaces the one before it,
     spheres and lights are collected, and the defaults stand for whatever is not set.

  2. **Specification** — the first definition that cannot be used is the problem; if there is none, the
     last setting of each window field decides, and the canvas must have at least one pixel.

  3. **The crux** — windows, spheres and lights do not influence each other, so only the order within
     each of the three matters.
-/
import LitSpheres.Definition.Display
import LitSpheres.Definition.Read
import LitSpheres.Scene

namespace LitSpheres

/-- What stands for all that a scene does not set. -/
structure Defaults where
  width : Quantity := .whole 1000
  height : Quantity := .whole 700
  title : String := "Giraffics"
  background : Color := .white
  viewport : Viewport := .unit
  camera : Vec3 Float := .origin

/-- The light that a definition stands for. -/
def Light.ofDefinition : Definition → Except ValueProblem Light
  | .light light => .ok light
  | other => .error (.notALight other.display)

/-- A scene before its canvas is made. -/
structure Draft where
  width : Quantity
  height : Quantity
  title : String
  spheres : List Sphere := []
  lights : List Light := []

namespace Draft

/-- The draft with nothing but default settings. -/
def ofDefaults (d : Defaults) : Draft := { width := d.width, height := d.height, title := d.title }

/-- A window side in whole pixels, or what it was before if the window does not set it. -/
def side (before : Quantity) : Option Float → Except ValueProblem Quantity
  | none => .ok before
  | some x => (Quantity.wholePart x).map .whole

/-- One definition more: what is neither window nor sphere has to be a light. -/
def add (draft : Draft) (definition : Definition) : Except ValueProblem Draft :=
  match definition with
  | .window w => do
    let width ← side draft.width w.width
    let height ← side draft.height w.height
    .ok { draft with width, height, title := w.title.getD draft.title }
  | .sphere spec => do
    let sphere ← Sphere.ofSpec spec
    .ok { draft with spheres := draft.spheres ++ [sphere] }
  | .light _ | .bare => do
    let light ← Light.ofDefinition definition
    .ok { draft with lights := draft.lights ++ [light] }

/-- The scene of a draft. -/
def toScene (draft : Draft) (d : Defaults) : Except ValueProblem Scene := do
  let canvas ← Canvas.of draft.width draft.height
  .ok { canvas, spheres := draft.spheres, lights := draft.lights, viewport := d.viewport
        background := d.background, title := draft.title, camera := d.camera }

end Draft

/-- The scene that the definitions describe. -/
def Scene.load (definitions : List Definition) (d : Defaults) : Except ValueProblem Scene := do
  let draft ← definitions.foldlM Draft.add (Draft.ofDefaults d)
  draft.toScene d

/-- What can keep a text from being a scene. -/
inductive SceneProblem where
  | text (problem : TextProblem)
  | value (problem : ValueProblem)

def SceneProblem.message : SceneProblem → String
  | text p => p.message
  | value p => p.message

/-- The scene that a text describes. -/
def Scene.loadText (text : List Char) (d : Defaults) : Except SceneProblem Scene :=
  match parse text with
  | .error problem => .error (.text problem)
  | .ok definitions => (Scene.load definitions d).mapError .value

end LitSpheres
