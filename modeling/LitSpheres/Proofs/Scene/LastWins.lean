/-
  What each definition does to a scene.

  1. **Program** — definitions are added to a draft one after another, whatever numbers they hold, and the draft
     becomes a scene when its canvas is made.

  2. **Specification** — the first definition that cannot be used is the problem.  If all can be used, each
     setting of the window is the last one that is made, or that of the defaults, the spheres and the
     lights are those of the list in its order, and there is a scene exactly if both sides are finite
     and at least one.

  3. **The crux** — one definition more has an effect that does not depend on the draft, on one of three parts
     of it.  So a run of them is computed from the windows, the spheres and the lights alone, and how the
     three are mixed does not matter.
-/
import LitSpheres.Proofs.Scene.Loaded

namespace LitSpheres

/-! ## What may be a problem -/

/-- A result, unless there is a problem. -/
def okUnless {ε α : Type} (problem? : Option ε) (a : α) : Except ε α :=
  match problem? with
  | some problem => .error problem
  | none => .ok a

theorem okUnless_map {ε α β : Type} (problem? : Option ε) (a : α) (f : α → β) :
    (okUnless problem? a).map f = okUnless problem? (f a) := by
  cases problem? with
  | none => rfl
  | some problem => rfl

/-- What keeps a float from having a whole part. -/
def Quantity.wholeProblem? (x : Float) : Option ValueProblem :=
  if Binary64.isFinite x then none
  else if Binary64.isNumber x then some .wholeOfInfinity
  else some .wholeOfNaN

/-- What is wrong with the sides of a window; the width is looked at first. -/
def Window.problem? (w : Window) : Option ValueProblem :=
  (w.width.bind Quantity.wholeProblem?).or (w.height.bind Quantity.wholeProblem?)

/-- What is wrong with a sphere: a radius that is not above zero, which no number is. -/
def SphereSpec.problem? (spec : SphereSpec) : Option ValueProblem :=
  if 0 < spec.radius then none else some (.sphereRadius spec.radius)

/-- The sphere of a definition, if it has a radius. -/
def SphereSpec.sphere? (spec : SphereSpec) : Option Sphere :=
  if h : 0 < spec.radius then
    some { center := spec.center, radius := spec.radius
           color := Color.ofRgb spec.color.x spec.color.y spec.color.z, radius_pos := h }
  else none

/-- A sphere with the numbers of a definition, and its color in bytes. -/
structure SphereSpec.Describes (spec : SphereSpec) (s : Sphere) : Prop where
  center : s.center = spec.center
  radius : s.radius = spec.radius
  color : s.color = Color.ofRgb spec.color.x spec.color.y spec.color.z

/-- Spheres with a radius are described one by one. -/
theorem SphereSpec.forall₂_describes {specs : List SphereSpec} (h : ∀ spec ∈ specs, spec.problem? = none) :
    List.Forall₂ Describes specs (specs.filterMap sphere?) := by
  induction specs with
  | nil => exact .nil
  | cons spec specs ih =>
    have positive : 0 < spec.radius := by
      by_contra flat
      have problem : spec.problem? = some _ := if_neg flat
      rw [h spec List.mem_cons_self] at problem
      cases problem
    have given : spec.sphere? = some _ := dif_pos positive
    rw [List.filterMap_cons_some given]
    exact .cons ⟨rfl, rfl, rfl⟩ (ih fun other ho => h other (List.mem_cons_of_mem spec ho))

namespace Definition

def window? : Definition → Option Window
  | window w => some w
  | _ => none

def sphere? : Definition → Option SphereSpec
  | sphere spec => some spec
  | _ => none

def light? : Definition → Option Light
  | light l => some l
  | _ => none

/-- What keeps a definition from every scene. -/
def problem? : Definition → Option ValueProblem
  | window w => w.problem?
  | sphere spec => spec.problem?
  | light _ => none
  | bare => some (.notALight "Definition()")

/-- The last setting of a field by one of the windows. -/
def lastSet? {α : Type} (field : Window → Option α) (definitions : List Definition) : Option α :=
  (definitions.filterMap window?).reverse.findSome? field

theorem lastSet?_append {α : Type} (field : Window → Option α) (first second : List Definition) :
    lastSet? field (first ++ second) = (lastSet? field second).or (lastSet? field first) := by
  unfold lastSet?
  rw [List.filterMap_append, List.reverse_append, List.findSome?_append]

theorem lastSet?_singleton {α : Type} (field : Window → Option α) (definition : Definition) :
    lastSet? field [definition] = definition.window?.bind field := by
  unfold lastSet?
  rw [List.filterMap_cons]
  cases definition.window? with
  | none => rfl
  | some w =>
    show (match field w with | some a => some a | none => none) = field w
    cases field w <;> rfl

end Definition

open Definition (lastSet?)

/-! ## Drafts -/

namespace Draft

variable {draft : Draft} {definition : Definition} {definitions : List Definition}

/-- The whole part of a float as a side, or the side that was there before. -/
def sideOr (before : Quantity) (x? : Option Float) : Quantity :=
  x?.elim before fun x => .whole (Binary64.truncate x)

/-- A draft with the settings, spheres and lights of some definitions. -/
def after (draft : Draft) (definitions : List Definition) : Draft where
  width := sideOr draft.width (lastSet? Window.width definitions)
  height := sideOr draft.height (lastSet? Window.height definitions)
  title := (lastSet? Window.title definitions).getD draft.title
  spheres := draft.spheres ++ (definitions.filterMap Definition.sphere?).filterMap SphereSpec.sphere?
  lights := draft.lights ++ definitions.filterMap Definition.light?

theorem after_nil (draft : Draft) : draft.after [] = draft := by
  unfold after
  rw [List.filterMap_nil, List.filterMap_nil, List.filterMap_nil, List.append_nil, List.append_nil]
  rfl

theorem sideOr_or (before : Quantity) (x? y? : Option Float) :
    sideOr before (y?.or x?) = sideOr (sideOr before x?) y? := by
  cases y? with
  | none => rfl
  | some y => rfl

/-- Definitions that follow others act on what these have made of the draft. -/
theorem after_append (draft : Draft) (first second : List Definition) :
    draft.after (first ++ second) = (draft.after first).after second := by
  unfold after
  simp only [Definition.lastSet?_append, sideOr_or, Option.getD_or, List.filterMap_append, List.append_assoc]

theorem wholePart_eq (x : Float) :
    Quantity.wholePart x = okUnless (Quantity.wholeProblem? x) (Binary64.truncate x) := by
  unfold Quantity.wholePart Quantity.wholeProblem?
  by_cases finite : Binary64.isFinite x = true
  · rw [if_pos finite, if_pos finite]
    rfl
  · rw [if_neg finite, if_neg finite]
    have high : Binary64.infinityRank ≤ Binary64.rank x := by simpa [Binary64.isFinite] using finite
    by_cases infinite : Binary64.rank x = Binary64.infinityRank
    · have number : Binary64.isNumber x = true := Binary64.isNumber_of_infinite infinite
      rw [if_pos infinite, if_pos number]
      rfl
    · have noNumber : ¬ Binary64.isNumber x = true :=
        Binary64.not_isNumber_iff.2 (Nat.lt_of_le_of_ne high (Ne.symm infinite))
      rw [if_neg infinite, if_neg noNumber]
      rfl

theorem side_eq (before : Quantity) (x? : Option Float) :
    side before x? = okUnless (x?.bind Quantity.wholeProblem?) (sideOr before x?) := by
  cases x? with
  | none => rfl
  | some x =>
    show (Quantity.wholePart x).map Quantity.whole = _
    rw [wholePart_eq, okUnless_map]
    rfl

/-- What a single definition sets. -/
theorem after_singleton (draft : Draft) (definition : Definition) :
    draft.after [definition] =
      { width := sideOr draft.width (definition.window?.bind Window.width)
        height := sideOr draft.height (definition.window?.bind Window.height)
        title := (definition.window?.bind Window.title).getD draft.title
        spheres := draft.spheres ++ (definition.sphere?.bind SphereSpec.sphere?).toList
        lights := draft.lights ++ definition.light?.toList } := by
  unfold after
  rw [Definition.lastSet?_singleton, Definition.lastSet?_singleton, Definition.lastSet?_singleton]
  cases definition with
  | sphere spec => congr 2
  | window w => rfl
  | light l => rfl
  | bare => rfl

/-- **One definition more**: whether it can be added does not depend on the draft, and neither does what it
    sets. -/
theorem add_eq (draft : Draft) (definition : Definition) :
    draft.add definition = okUnless definition.problem? (draft.after [definition]) := by
  rw [after_singleton]
  cases definition with
  | window w =>
    unfold add
    dsimp only
    rw [side_eq, side_eq]
    show _ = okUnless ((w.width.bind Quantity.wholeProblem?).or (w.height.bind Quantity.wholeProblem?)) _
    cases w.width.bind Quantity.wholeProblem? with
    | some problem => rfl
    | none =>
      cases w.height.bind Quantity.wholeProblem? with
      | some problem => rfl
      | none =>
        show Except.ok _ = Except.ok _
        simp [Definition.window?, Definition.sphere?, Definition.light?]
  | light l =>
    show Except.ok _ = Except.ok _
    simp [Definition.window?, Definition.sphere?, Definition.light?, sideOr]
  | sphere spec =>
    unfold add
    dsimp only
    show _ = okUnless spec.problem? _
    by_cases h : 0 < spec.radius
    · obtain ⟨s, made, known⟩ : ∃ s, Sphere.ofSpec spec = .ok s ∧ spec.sphere? = some s :=
        ⟨_, dif_pos h, dif_pos h⟩
      have fine : spec.problem? = none := if_pos h
      rw [made, fine]
      show Except.ok _ = Except.ok _
      simp [Definition.window?, Definition.sphere?, Definition.light?, sideOr, known]
    · have refused : Sphere.ofSpec spec = .error (.sphereRadius spec.radius) := dif_neg h
      have problem : spec.problem? = some (.sphereRadius spec.radius) := if_neg h
      rw [refused, problem]
      rfl
  | bare => rfl

/-- **A run of definitions**: the first one that cannot be added is the problem. -/
theorem addAll_eq (draft : Draft) (definitions : List Definition) :
    definitions.foldlM add draft =
      okUnless (definitions.findSome? Definition.problem?) (draft.after definitions) := by
  induction definitions generalizing draft with
  | nil =>
    rw [after_nil]
    rfl
  | cons first others ih =>
    rw [List.foldlM_cons, add_eq, List.findSome?_cons]
    cases first.problem? with
    | some problem => rfl
    | none =>
      show others.foldlM add (draft.after [first]) = _
      rw [ih, ← after_append]
      rfl

end Draft

/-! ## Definitions apart by kind -/

namespace Definition

variable {definitions others : List Definition}

/-- The same windows, the same spheres and the same lights, each in the same order, mixed in any way. -/
structure SameParts (definitions others : List Definition) : Prop where
  windows : others.filterMap window? = definitions.filterMap window?
  spheres : others.filterMap sphere? = definitions.filterMap sphere?
  lights : others.filterMap light? = definitions.filterMap light?

theorem SameParts.lastSet?_eq {α : Type} (same : SameParts definitions others) (field : Window → Option α) :
    lastSet? field others = lastSet? field definitions := by
  unfold lastSet?
  rw [same.windows]

/-- Whether all can be used is a question to each kind alone. -/
theorem problem?_eq_none_iff :
    definitions.findSome? problem? = none ↔
      (∀ w ∈ definitions.filterMap window?, w.problem? = none) ∧
        (∀ spec ∈ definitions.filterMap sphere?, spec.problem? = none) ∧ bare ∉ definitions := by
  rw [List.findSome?_eq_none_iff]
  constructor
  · intro all
    refine ⟨fun w hw => ?_, fun spec hs => ?_, fun hb => absurd (all bare hb) nofun⟩
    · obtain ⟨definition, hd, given⟩ := List.mem_filterMap.1 hw
      cases definition with
      | window v =>
        obtain rfl := Option.some.inj given
        exact all _ hd
      | sphere | light | bare => exact absurd given nofun
    · obtain ⟨definition, hd, given⟩ := List.mem_filterMap.1 hs
      cases definition with
      | sphere other =>
        obtain rfl := Option.some.inj given
        exact all _ hd
      | window | light | bare => exact absurd given nofun
  · rintro ⟨windows, spheres, kinds⟩ definition hd
    cases definition with
    | window w => exact windows w (List.mem_filterMap.2 ⟨_, hd, rfl⟩)
    | sphere spec => exact spheres spec (List.mem_filterMap.2 ⟨_, hd, rfl⟩)
    | light l => rfl
    | bare => exact absurd hd kinds

theorem SameParts.problem?_eq_none_iff (same : SameParts definitions others)
    (kinds : bare ∈ others ↔ bare ∈ definitions) :
    others.findSome? problem? = none ↔ definitions.findSome? problem? = none := by
  rw [Definition.problem?_eq_none_iff, Definition.problem?_eq_none_iff, same.windows, same.spheres, kinds]

/-- Definitions that differ in how their kinds are mixed set the same. -/
theorem SameParts.after_eq (same : SameParts definitions others) (draft : Draft) :
    draft.after others = draft.after definitions := by
  unfold Draft.after
  rw [same.lastSet?_eq, same.lastSet?_eq, same.lastSet?_eq, same.spheres, same.lights]

end Definition

/-! ## Scenes -/

namespace Scene

variable {definitions others : List Definition} {d : Defaults}

theorem load_of_problem {problem : ValueProblem}
    (h : definitions.findSome? Definition.problem? = some problem) (d : Defaults) :
    load definitions d = .error problem := by
  unfold load
  rw [Draft.addAll_eq, h]
  rfl

/-- Definitions that can all be used are those of a scene as soon as the last sides are those of a canvas. -/
theorem load_of_usable (h : definitions.findSome? Definition.problem? = none) (d : Defaults) :
    load definitions d = ((Draft.ofDefaults d).after definitions).toScene d := by
  unfold load
  rw [Draft.addAll_eq, h]
  rfl

theorem toScene_eq_ok_iff {draft : Draft} {s : Scene} :
    draft.toScene d = .ok s ↔ ∃ canvas, Canvas.of draft.width draft.height = .ok canvas ∧
      s = { canvas, spheres := draft.spheres, lights := draft.lights, viewport := d.viewport
            background := d.background, title := draft.title, camera := d.camera } := by
  unfold Draft.toScene
  rw [bind_eq_ok_iff]
  exact exists_congr fun canvas => and_congr_right fun _ => ⟨fun h => (Except.ok.inj h).symm, fun h => h ▸ rfl⟩

/-- A draft is that of a scene exactly if its sides are those of a canvas. -/
theorem exists_toScene_iff {draft : Draft} :
    (∃ s, draft.toScene d = .ok s) ↔ draft.width.AtLeastOne ∧ draft.height.AtLeastOne := by
  rw [Quantity.atLeastOne_iff, Quantity.atLeastOne_iff]
  constructor
  · rintro ⟨s, made⟩
    obtain ⟨canvas, made, -⟩ := toScene_eq_ok_iff.1 made
    obtain ⟨width, height⟩ := Canvas.of_eq_ok_iff.1 made
    exact ⟨⟨_, width, Int.natCast_pos.2 canvas.width_pos⟩, ⟨_, height, Int.natCast_pos.2 canvas.height_pos⟩⟩
  · rintro ⟨⟨w, width, wide⟩, ⟨h, height, high⟩⟩
    obtain ⟨canvas, made, -, -⟩ := Canvas.exists_of width height wide high
    exact ⟨_, toScene_eq_ok_iff.2 ⟨canvas, made, rfl⟩⟩

theorem toScene_eq_error {draft : Draft} {problem : ValueProblem} (h : draft.toScene d = .error problem) :
    Canvas.of draft.width draft.height = .error problem := by
  unfold Draft.toScene at h
  cases made : Canvas.of draft.width draft.height with
  | error other =>
    rw [made] at h
    exact congrArg Except.error (Except.error.inj h)
  | ok canvas =>
    rw [made] at h
    cases h

/-- **The last setting wins, and the first bad definition is the problem.**  Of any definitions, the first one
    that is a window with a side that is no number or infinite, a sphere with a radius that is not above zero,
    or of no kind, is the problem.  If there is none, each side is that of the last window that sets it, cut
    toward zero, or the default; there is a scene exactly if both are finite and at least one; and the scene
    has the canvas of these sides, the last title that is set, and the spheres and lights in their order.
    So it does not matter how windows, spheres and lights are mixed: the scene is the same, and if no
    definition is bad by itself, so is the problem. -/
theorem load_last_wins (definitions : List Definition) (d : Defaults) :
    (∀ problem, definitions.findSome? Definition.problem? = some problem →
      load definitions d = .error problem) ∧
    (definitions.findSome? Definition.problem? = none →
      let width := Draft.sideOr d.width (lastSet? Window.width definitions)
      let height := Draft.sideOr d.height (lastSet? Window.height definitions)
      ((∃ s, load definitions d = .ok s) ↔ width.AtLeastOne ∧ height.AtLeastOne) ∧
      (∀ problem, load definitions d = .error problem →
        (problem = .wholeOfNaN ∨ problem = .wholeOfInfinity) ∨
          ∃ w h, width.truncate = .ok w ∧ height.truncate = .ok h ∧ (w < 1 ∨ h < 1) ∧
            problem = .canvasSize w h) ∧
      ∀ s, load definitions d = .ok s →
        width.truncate = .ok (s.canvas.width : Int) ∧ height.truncate = .ok (s.canvas.height : Int) ∧
        s.title = (lastSet? Window.title definitions).getD d.title ∧
        List.Forall₂ SphereSpec.Describes (definitions.filterMap Definition.sphere?) s.spheres ∧
        s.lights = definitions.filterMap Definition.light? ∧
        s.viewport = d.viewport ∧ s.background = d.background ∧ s.camera = d.camera) ∧
    ∀ others, Definition.SameParts definitions others → (.bare ∈ others ↔ .bare ∈ definitions) →
      (load others d).toOption = (load definitions d).toOption ∧
        (definitions.findSome? Definition.problem? = none → load others d = load definitions d) := by
  refine ⟨fun problem h => load_of_problem h d, fun usable => ?_, fun others same kinds => ?_⟩
  · have loaded := load_of_usable usable d
    refine ⟨?_, fun problem failed => ?_, fun s made => ?_⟩
    · rw [loaded]
      exact exists_toScene_iff
    · exact Canvas.of_eq_error (toScene_eq_error (loaded.symm.trans failed))
    · obtain ⟨canvas, sides, rfl⟩ := toScene_eq_ok_iff.1 (loaded.symm.trans made)
      obtain ⟨width, height⟩ := Canvas.of_eq_ok_iff.1 sides
      obtain ⟨-, spheres, -⟩ := Definition.problem?_eq_none_iff.1 usable
      exact ⟨width, height, rfl, SphereSpec.forall₂_describes spheres, rfl, rfl, rfl, rfl⟩
  · have both := same.problem?_eq_none_iff kinds
    cases found : definitions.findSome? Definition.problem? with
    | none =>
      have equal : load others d = load definitions d := by
        rw [load_of_usable found, load_of_usable (both.2 found), same.after_eq]
      exact ⟨congrArg Except.toOption equal, fun _ => equal⟩
    | some problem =>
      refine ⟨?_, nofun⟩
      cases foundToo : others.findSome? Definition.problem? with
      | none => exact absurd (both.1 foundToo) (by rw [found]; exact nofun)
      | some other =>
        rw [load_of_problem found, load_of_problem foundToo]
        rfl

/-- A ball between two windows and two lights.  The first window is narrower than a pixel, and neither sets the
    height. -/
def settledLate : List Definition :=
  [.window { title := some "early", width := some 0.5 }, .light (.ambient 0.25),
    .sphere { color := ⟨255, 0, 300⟩, center := ⟨0, 0, 3⟩, radius := 1 }, .window { width := some 2.9 },
    .light (.point (0 / 0) ⟨1, 2, 3⟩)]

/-- The same definitions in another order, the windows still in theirs, and so the lights. -/
def settledEarly : List Definition :=
  [.light (.ambient 0.25), .light (.point (0 / 0) ⟨1, 2, 3⟩), .window { title := some "early", width := some 0.5 },
    .window { width := some 2.9 }, .sphere { color := ⟨255, 0, 300⟩, center := ⟨0, 0, 3⟩, radius := 1 }]

/-- The width is cut from the last window and the height from defaults that are no whole number; and a sphere
    whose radius is no number is a problem before a definition of no kind. -/
theorem load_last_wins_late :
    let flat : SphereSpec := { color := ⟨0, 0, 0⟩, center := ⟨0, 0, 0⟩, radius := 0 / 0 }
    (∃ s, load settledLate { height := .real 3.7 } = .ok s ∧ s.canvas.width = 2 ∧ s.canvas.height = 3 ∧
      s.title = "early" ∧ s.spheres.length = 1 ∧ s.lights.length = 2) ∧
    load (settledLate ++ [.sphere flat, .bare]) {} = .error (.sphereRadius (0 / 0)) ∧
    load settledEarly {} = load settledLate {} := by
  intro flat
  have usable : settledLate.findSome? Definition.problem? = none := by decide +kernel
  refine ⟨?_, (load_last_wins _ {}).1 _ ?_, ?_⟩
  · obtain ⟨exists_iff, -, made⟩ := (load_last_wins settledLate { height := .real 3.7 }).2.1 usable
    have wide : (1 : Int) ≤ Binary64.truncate 2.9 := by decide +kernel
    have high : Binary64.isFinite 3.7 ∧ (1 : Float) ≤ 3.7 := by decide +kernel
    obtain ⟨s, loaded⟩ := exists_iff.2 ⟨wide, high⟩
    obtain ⟨width, height, title, spheres, lights, -⟩ := made s loaded
    have two : Binary64.truncate 2.9 = 2 := by decide +kernel
    have three : Binary64.truncate 3.7 = 3 := by decide +kernel
    have cutHeight := height.symm.trans (Quantity.wholePart_of_finite high.1)
    refine ⟨s, loaded, ?_, ?_, title, spheres.length_eq.symm, congrArg List.length lights⟩
    · exact Int.ofNat_inj.1 ((Except.ok.inj width).symm.trans two)
    · exact Int.ofNat_inj.1 ((Except.ok.inj cutHeight).trans three)
  · have problem : (Definition.sphere flat).problem? = some (.sphereRadius (0 / 0)) := by
      unfold Definition.problem? SphereSpec.problem?
      exact if_neg (by decide +kernel)
    rw [List.findSome?_append, usable, List.findSome?_cons, problem]
    rfl
  · have same : Definition.SameParts settledLate settledEarly := ⟨rfl, rfl, rfl⟩
    have kinds : .bare ∈ settledEarly ↔ .bare ∈ settledLate := by simp [settledEarly, settledLate]
    exact ((load_last_wins settledLate {}).2.2 settledEarly same kinds).2 usable

end Scene
end LitSpheres
