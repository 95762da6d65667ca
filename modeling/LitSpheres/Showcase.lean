/-
  Scenes to begin with.

  Each is a list of definitions, so it can be written as scene text, loaded, and rendered like any other.
-/
import LitSpheres.Definition.Written
import LitSpheres.Picture
import LitSpheres.Scene.Load

namespace LitSpheres.Showcase

/-- A small sphere on a large one that serves as the ground. -/
def twoSpheres : List Definition :=
  [.window { title := some "Two spheres", width := some 320, height := some 240 },
    .sphere { color := ⟨180, 180, 100⟩, center := ⟨0, 0, 4⟩, radius := 1 },
    .sphere { color := ⟨50, 50, 50⟩, center := ⟨0, -41, 4⟩, radius := 40 },
    .light (.point 0.8 ⟨2, 3, 0⟩),
    .light (.ambient 0.2)]

/-- Three spheres under three kinds of light. -/
def threeSpheres : List Definition :=
  [.window { title := some "Three spheres", width := some 320, height := some 240 },
    .sphere { color := ⟨255, 0, 0⟩, center := ⟨0, -1, 3⟩, radius := 1 },
    .sphere { color := ⟨0, 0, 255⟩, center := ⟨2, 0, 4⟩, radius := 1 },
    .sphere { color := ⟨0, 255, 0⟩, center := ⟨-2, 0, 4⟩, radius := 1 },
    .light (.ambient 0.2),
    .light (.point 0.6 ⟨2, 1, 0⟩),
    .light (.directional 0.2 ⟨1, 4, 4⟩)]

/-- One small sphere straight ahead, under flat light. -/
def oneSphere (radius : Float) : List Definition :=
  [.sphere { color := ⟨128, 128, 128⟩, center := ⟨0, 0, 2⟩, radius },
    .light (.ambient 0.5)]

/-- Renders definitions with default settings, at another size if one is given. -/
def render (definitions : List Definition) (size : Option (Quantity × Quantity)) (workers : Option Int) :
    Except ValueProblem Picture := do
  let scene ← Scene.load definitions {}
  let scene ← match size with
    | none => .ok scene
    | some (width, height) => scene.resized width height
  scene.keptPicture workers

end LitSpheres.Showcase
