/-
  The definitions of a scene: what its blocks mean.

  1. **Program** — a block of one of three kinds becomes a window, a light or a sphere.  The names it may
     assign depend on the kind, the values they need on the name, and every number must be finite.

  2. **Specification** — the effective value of each name decides, so an earlier assignment of the same
     name is not even looked at; a block is accepted exactly if it has the names its kind needs, no
     other names, and values in range.

  3. **The crux** — checks are made in a fixed order, and the first that fails names the problem.
-/
import LitSpheres.Light
import LitSpheres.TextProblem

namespace LitSpheres

/-- The window that a scene is shown in; what is not set is left to the defaults. -/
structure Window where
  title : Option String := none
  width : Option Float := none
  height : Option Float := none

/-- A sphere as it is written: its color is still three numbers. -/
structure SphereSpec where
  color : Vec3 Float
  center : Vec3 Float
  radius : Float

/-- One definition of a scene. -/
inductive Definition where
  | window (w : Window)
  | light (l : Light)
  | sphere (s : SphereSpec)
  /-- A definition of no kind; no block means it. -/
  | bare

/-! ## Values of the wanted kind -/

namespace Value

/-- A finite number. -/
def toNumber (v : Value) (name : String) : Except MeaningProblem Float :=
  match v with
  | .number x => if Binary64.isFinite x then .ok x else .error (.notFinite name)
  | v => .error (.wrongKind .number name v)

/-- A text. -/
def toText (v : Value) (name : String) : Except MeaningProblem String :=
  match v with
  | .text s => .ok s
  | v => .error (.wrongKind .text name v)

/-- A triple of finite numbers. -/
def toTriple (v : Value) (name : String) : Except MeaningProblem (Vec3 Float) :=
  match v with
  | .triple t => if t.toList.all Binary64.isFinite then .ok t else .error (.notFinite name)
  | v => .error (.wrongKind .triple name v)

end Value

/-! ## Blocks of the three kinds -/

namespace Block

/-- Refuses a block that assigns a name it does not have. -/
def checkNames (b : Block) (allowed : List String) : Except MeaningProblem Unit :=
  match b.stranger? allowed with
  | some a => .error (.unknownProperty allowed a.name a.place.line)
  | none => .ok ()

/-- A side of the window, if it is set: at least one pixel. -/
def windowSide (b : Block) (name : String) : Except MeaningProblem (Option Float) :=
  match b.value? name with
  | none => .ok none
  | some v => do
    let size ← v.toNumber name
    if size < 1 then .error (.windowSide name size) else .ok (some size)

/-- The window that a block means. -/
def toWindow (b : Block) : Except MeaningProblem Window := do
  b.checkNames ["width", "height", "title"]
  let title ← match b.value? "title" with
    | none => .ok none
    | some v => (v.toText "title").map some
  let width ← b.windowSide "width"
  let height ← b.windowSide "height"
  .ok { title, width, height }

/-- The vector that places a light of the given type: it must be there, and the one that places
    lights of the other type must not. -/
def placement (b : Block) (type needed refused : String) : Except MeaningProblem (Vec3 Float) :=
  match b.value? needed with
  | none => .error (.lightLacks type needed)
  | some v =>
    if b.assigns refused then .error (.lightRefuses type refused) else v.toTriple needed

/-- The light that a block means. -/
def toLight (b : Block) : Except MeaningProblem Light := do
  b.checkNames ["type", "intensity", "position", "direction"]
  match b.value? "type", b.value? "intensity" with
  | some typeValue, some intensityValue =>
    let type ← typeValue.toText "type"
    let intensity ← intensityValue.toNumber "intensity"
    if intensity < 0 then .error (.negativeIntensity intensity)
    else if type = "ambient" then
      if b.assigns "position" || b.assigns "direction" then .error .ambientPlaced
      else .ok (.ambient intensity)
    else if type = "point" then
      (b.placement "point" "position" "direction").map (Light.point intensity)
    else if type = "directional" then
      (b.placement "directional" "direction" "position").map (Light.directional intensity)
    else .error (.unknownLight type)
  | _, _ => .error (.lightIncomplete b.place.line)

/-- The sphere that a block means. -/
def toSphere (b : Block) : Except MeaningProblem SphereSpec := do
  let needed := ["color", "center", "radius"]
  b.checkNames needed
  match b.value? "color", b.value? "center", b.value? "radius" with
  | some colorValue, some centerValue, some radiusValue =>
    let radius ← radiusValue.toNumber "radius"
    if radius ≤ 0 then .error (.flatSphere radius)
    else
      let color ← colorValue.toTriple "color"
      let center ← centerValue.toTriple "center"
      .ok { color, center, radius }
  | _, _, _ => .error (.sphereLacks (needed.filter (fun name => !b.assigns name)))

end Block

/-- The definition that a block means. -/
def Definition.ofBlock (b : Block) : Except MeaningProblem Definition :=
  if b.kind = "window" then b.toWindow.map .window
  else if b.kind = "light" then b.toLight.map .light
  else if b.kind = "sphere" then b.toSphere.map .sphere
  else .error (.unknownKind b.kind b.place.line)

end LitSpheres
