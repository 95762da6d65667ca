/-
  How the rendering of a loaded scene can fail.

  1. **Program** — rows are tasks that end at their first pixel that cannot be shaded; one worker stops
     after the first row that fails, several workers finish all rows.

  2. **Specification** — the failure of a rendering is that of the first failing pixel in the order of the
     canvas, for any number of workers.  A loaded scene fails with nothing but a division by zero, exactly if
     at some pixel the surface faces a light while the product of the two lengths is zero.

  3. **The crux** — the first failure survives both ways of running the rows, so it is a search through all
     pixels; and a short direction is enough for a length that is rounded to zero.
-/
import LitSpheres.Proofs.Render.Serial
import LitSpheres.Proofs.Scene.Shading

namespace LitSpheres

/-! ## The first failure -/

theorem findSome?_flatMap {α β γ : Type} (f : β → Option γ) (g : α → List β) (as : List α) :
    (as.flatMap g).findSome? f = as.findSome? fun a => (g a).findSome? f := by
  induction as with
  | nil => rfl
  | cons a as ih =>
    rw [List.flatMap_cons, List.findSome?_append, ih, List.findSome?_cons]
    cases (g a).findSome? f <;> rfl

namespace Scene

variable {s : Scene} {p : CanvasPoint} {f : Frame}

/-- The problem with which a pixel cannot be shaded. -/
def problemAt? (s : Scene) (p : CanvasPoint) : Option ValueProblem :=
  match s.shade p with
  | .error problem => some problem
  | .ok _ => none

theorem problemAt?_eq_some_iff {problem : ValueProblem} :
    s.problemAt? p = some problem ↔ s.shade p = .error problem := by
  unfold problemAt?
  cases s.shade p with
  | error other => exact ⟨fun h => congrArg _ (Option.some.inj h), fun h => congrArg _ (Except.error.inj h)⟩
  | ok color => exact ⟨nofun, nofun⟩

theorem problemAt?_eq_none_iff : s.problemAt? p = none ↔ ∃ color, s.shade p = .ok color := by
  unfold problemAt?
  cases s.shade p with
  | error problem => exact ⟨nofun, fun ⟨color, h⟩ => absurd h nofun⟩
  | ok color => exact ⟨fun _ => ⟨color, rfl⟩, fun _ => rfl⟩

/-- A task ends with the problem of its first failing point. -/
theorem failure_ofPoints (ps : List CanvasPoint) :
    (Task.ofPoints s.shade ps).failure = ps.findSome? s.problemAt? := by
  induction ps with
  | nil => rfl
  | cons p ps ih =>
    rw [List.findSome?_cons]
    cases h : s.shade p with
    | error problem => rw [Task.ofPoints_cons_error h, problemAt?_eq_some_iff.2 h]
    | ok color => rw [Task.ofPoints_cons_ok h, problemAt?_eq_none_iff.2 ⟨color, h⟩, ih]

/-- **The first failure survives**, whether the rows behind it are still run or not. -/
theorem failure_foldl_addRow (serial : Bool) (ys : List Int) (r : Rendering Frame) :
    (ys.foldl (Rendering.addRow s serial) r).failure =
      r.failure.or (ys.findSome? fun y => (s.task y).failure) := by
  induction ys generalizing r with
  | nil => simp
  | cons y ys ih =>
    rw [List.foldl_cons, ih, List.findSome?_cons]
    unfold Rendering.addRow
    cases hr : r.failure with
    | some problem => cases serial <;> simp [hr]
    | none => cases h : (s.task y).failure <;> simp [h]

/-- **The failure of a rendering** is that of the first failing pixel in the order of the canvas. -/
theorem failure_render (fits : f.size = s.canvas.frameSize) (workers : Option Int) :
    (s.render f workers).failure = s.canvas.points.findSome? s.problemAt? := by
  rw [render_of_fits (b := f) fits, Canvas.points, failure_foldl_addRow, findSome?_flatMap, Option.none_or]
  congr 1
  exact funext fun y => failure_ofPoints _

/-- Nothing fails exactly if every pixel can be shaded. -/
theorem failure_render_eq_none_iff (fits : f.size = s.canvas.frameSize) (workers : Option Int) :
    (s.render f workers).failure = none ↔ s.Shades := by
  rw [failure_render fits, List.findSome?_eq_none_iff]
  exact forall₂_congr fun p _ => problemAt?_eq_none_iff

/-! ## Loaded scenes -/

/-- A scene whose rays are all found can be shaded exactly where no light vanishes. -/
theorem shades_iff (found : ∀ p ∈ s.canvas.points, ∃ direction, s.direction p = .ok direction) :
    s.Shades ↔ ∀ p ∈ s.canvas.points, ¬ s.VanishesAt p := by
  refine forall₂_congr fun p hp => ?_
  rw [← problemAt?_eq_none_iff, Option.eq_none_iff_forall_ne_some]
  constructor
  · intro none vanishes
    have failed := (shade_eq_error_iff (found p hp)).2 ⟨rfl, vanishes⟩
    exact none _ (problemAt?_eq_some_iff.2 failed)
  · intro lit problem some
    have failed := problemAt?_eq_some_iff.1 some
    exact lit ((shade_eq_error_iff (found p hp)).1 failed).2

theorem failure_eq_divisionByZero (found : ∀ p ∈ s.canvas.points, ∃ direction, s.direction p = .ok direction)
    (fits : f.size = s.canvas.frameSize) (workers : Option Int) (dark : ¬ s.Shades) :
    (s.render f workers).failure = some .divisionByZero := by
  cases failed : (s.render f workers).failure with
  | none => exact absurd ((failure_render_eq_none_iff fits workers).1 failed) dark
  | some problem =>
    rw [failure_render fits] at failed
    obtain ⟨p, hp, first⟩ := List.exists_of_findSome?_eq_some failed
    obtain ⟨rfl, -⟩ := (shade_eq_error_iff (found p hp)).1 (problemAt?_eq_some_iff.1 first)
    rfl

/-- **When a loaded scene is rendered without failure.**  Of a scene that a text describes, with the defaults,
    every ray is found.  A rendering into a frame of its canvas, by any number of workers, does not fail
    and shades every pixel, if no light vanishes at a pixel: that is, if wherever a ray hits a surface that
    does not face away from a point light or a directional light, the product of the lengths of the normal
    and of the vector towards the light is not zero.  Otherwise it fails with a division by zero. -/
theorem loadText_render (text : List Char) (s : Scene) (loaded : loadText text {} = .ok s) (f : Frame)
    (fits : f.size = s.canvas.frameSize) (workers : Option Int) :
    (∀ p ∈ s.canvas.points, ∃ direction, s.direction p = .ok direction) ∧
    ((s.render f workers).failure = none ↔ ∀ p ∈ s.canvas.points, ¬ s.VanishesAt p) ∧
    ((∀ p ∈ s.canvas.points, ¬ s.VanishesAt p) → ∀ p ∈ s.canvas.points, ∃ color, s.shade p = .ok color) ∧
    ((∃ p ∈ s.canvas.points, s.VanishesAt p) → (s.render f workers).failure = some .divisionByZero) := by
  have found := found_of_loadText loaded
  refine ⟨found, (failure_render_eq_none_iff fits workers).trans (shades_iff found), (shades_iff found).2, ?_⟩
  rintro ⟨p, hp, vanishes⟩
  exact failure_eq_divisionByZero found fits workers fun shades => (shades_iff found).1 shades p hp vanishes

/-! ## A long and a short direction -/

/-- A red ball on one pixel, lit from the camera by light whose direction is the given number along the
    axis. -/
def ballLitAlong (z : List Char) : List Char :=
  "window \x7b\nwidth = 1\nheight = 1\n\x7d\n".toList ++
    "sphere \x7b\nradius = 1\ncenter = (0, 0, 5)\ncolor = (255, 0, 0)\n\x7d\n".toList ++
    "light \x7b\ntype = directional\nintensity = 1\ndirection = (0, 0, ".toList ++ z ++ ")\n\x7d\n".toList

/-- A negative number so short that its square is rounded to zero. -/
def short : List Char := '-' :: '0' :: '.' :: List.replicate 169 '0' ++ ['1']

theorem exists_of_any {ε α : Type} {x : Except ε α} {q : α → Bool} (h : x.toOption.any q = true) :
    ∃ a, x = .ok a ∧ q a = true := by
  cases x with
  | error problem => exact absurd h nofun
  | ok a => exact ⟨a, rfl, h⟩

theorem size_ofCanvas (c : Canvas) : (Frame.ofCanvas c).size = c.frameSize := by
  simp [Frame.ofCanvas, Frame.filled, Frame.size]

theorem loadText_render_long : ∃ s, loadText (ballLitAlong ['-', '1']) {} = .ok s ∧
    (Frame.ofCanvas s.canvas).size = s.canvas.frameSize ∧
    (s.render (Frame.ofCanvas s.canvas) (some 1)).failure = none := by
  have shaded : ((loadText (ballLitAlong ['-', '1']) {}).toOption.any fun s => decide s.Shades) = true := by
    unfold ballLitAlong
    repeat rw [String.toList_ofList]
    decide +kernel
  obtain ⟨s, loaded, shades⟩ := exists_of_any shaded
  obtain ⟨found, ends, -⟩ := loadText_render _ s loaded _ (size_ofCanvas s.canvas) (some 1)
  exact ⟨s, loaded, size_ofCanvas s.canvas, ends.2 ((shades_iff found).1 (of_decide_eq_true shades))⟩

/-- Lit by a short direction, the pixel cannot be shaded, and the rendering fails. -/
theorem not_shades_short : ∃ s, loadText (ballLitAlong short) {} = .ok s ∧ ¬ s.Shades ∧
    (Frame.ofCanvas s.canvas).size = s.canvas.frameSize ∧
    (s.render (Frame.ofCanvas s.canvas) (some 1)).failure = some .divisionByZero := by
  have unlit : ((loadText (ballLitAlong short) {}).toOption.any fun s => decide (¬ s.Shades)) = true := by
    unfold ballLitAlong
    repeat rw [String.toList_ofList]
    decide +kernel
  obtain ⟨s, loaded, dark⟩ := exists_of_any unlit
  have notAll : ¬ s.Shades := of_decide_eq_true dark
  have fits := size_ofCanvas s.canvas
  exact ⟨s, loaded, notAll, fits, failure_eq_divisionByZero (found_of_loadText loaded) fits (some 1) notAll⟩

end Scene
end LitSpheres
