/-
  A scene in another size.

  1. **Program** — a scene that was loaded can be asked for in another size; a window block at the end of
     its definitions sets both sides as well.

  2. **Specification** — the two ways are one: they give the same scene, or the same problem, whatever
     numbers the sides are.  Of several sizes that are asked for in turn only the last one matters.

  3. **The crux** — the window cuts its sides before a canvas is made of them, resizing makes a canvas of
     the sides as they are, and a canvas does not see the difference.
-/
import LitSpheres.Proofs.Canvas.Size
import LitSpheres.Proofs.Definition.Writable
import LitSpheres.Scene.Load

namespace LitSpheres

/-- Sides that are cut to whole pixels beforehand give the canvas that the sides themselves give. -/
theorem Canvas.of_wholeParts (w h : Float) : (do
    let width ← Quantity.wholePart w
    let height ← Quantity.wholePart h
    of (.whole width) (.whole height)) = of (.real w) (.real h) := by
  rw [of_eq (.real w)]
  show _ = (do
    let width ← Quantity.wholePart w
    let height ← Quantity.wholePart h
    ofInts width height)
  cases Quantity.wholePart w with
  | error problem => rfl
  | ok width =>
    cases Quantity.wholePart h with
    | error problem => rfl
    | ok height => exact of_eq (.whole width) (.whole height)

namespace Draft

variable {draft : Draft} {d : Defaults} {s : Scene}

/-- The scene of a draft is a canvas of the sides of the draft, with all else put around it. -/
theorem toScene_eq (draft : Draft) (d : Defaults) :
    draft.toScene d = (Canvas.of draft.width draft.height).map fun canvas =>
      { canvas, spheres := draft.spheres, lights := draft.lights, viewport := d.viewport
        background := d.background, title := draft.title, camera := d.camera } := rfl

/-- **One window more**: setting both sides of a draft before it becomes a scene is resizing the scene. -/
theorem toScene_add_sides (made : draft.toScene d = .ok s) (w h : Float) :
    (draft.add (.window { width := some w, height := some h }) >>= fun next => next.toScene d) =
      s.resized (.real w) (.real h) := by
  rw [toScene_eq] at made
  obtain ⟨canvas, -, rfl⟩ := exists_of_map_ok made
  unfold Scene.resized
  rw [← Canvas.of_wholeParts]
  show (((Quantity.wholePart w).map Quantity.whole >>= fun width =>
    (Quantity.wholePart h).map Quantity.whole >>= fun height =>
      Except.ok { draft with width, height }) >>= fun next : Draft => next.toScene d) = _
  cases Quantity.wholePart w with
  | error problem => rfl
  | ok width =>
    cases Quantity.wholePart h with
    | error problem => rfl
    | ok height => rfl

end Draft

namespace Scene

variable {definitions : List Definition} {d : Defaults} {s t : Scene}

theorem load_append (definitions others : List Definition) (d : Defaults) :
    load (definitions ++ others) d =
      (definitions.foldlM Draft.add (Draft.ofDefaults d) >>= fun draft =>
        others.foldlM Draft.add draft >>= fun next => next.toScene d) := by
  unfold load
  rw [List.foldlM_append, bind_assoc]

/-- A window block that sets both sides, at the end of the definitions, resizes their scene. -/
theorem load_append_sides (loaded : load definitions d = .ok s) (w h : Float) :
    load (definitions ++ [.window { width := some w, height := some h }]) d =
      s.resized (.real w) (.real h) := by
  obtain ⟨draft, drafted, made⟩ := exists_of_bind_ok loaded
  rw [load_append, drafted, ← Draft.toScene_add_sides made]
  show ((draft.add (.window { width := some w, height := some h }) >>= pure) >>= fun next => next.toScene d) = _
  rw [bind_pure]

/-- Sides of at least one pixel are those of the scene on another canvas. -/
theorem exists_resized (s : Scene) {w h : Int} (wide : 1 ≤ w) (high : 1 ≤ h) :
    ∃ t, s.resized (.whole w) (.whole h) = .ok t ∧ (t.canvas.width : Int) = w ∧ (t.canvas.height : Int) = h := by
  have whole (n : Int) : (Quantity.whole n).truncate = .ok n := rfl
  obtain ⟨canvas, made, width, height⟩ := Canvas.exists_of (whole w) (whole h) wide high
  exact ⟨{ s with canvas }, congrArg (Except.map _) made, width, height⟩

/-- A scene in its own size is the scene. -/
theorem resized_self (s : Scene) : s.resized (.whole s.canvas.width) (.whole s.canvas.height) = .ok s := by
  have own : Canvas.of (.whole s.canvas.width) (.whole s.canvas.height) = .ok s.canvas := by
    rw [Canvas.of_eq]
    exact dif_pos ⟨Int.natCast_pos.2 s.canvas.width_pos, Int.natCast_pos.2 s.canvas.height_pos⟩
  unfold resized
  rw [own]
  rfl

/-- Nothing of a size is left after the next one. -/
theorem resized_of_resized {a b : Quantity} (resized : s.resized a b = .ok t) (w h : Quantity) :
    t.resized w h = s.resized w h := by
  obtain ⟨canvas, -, rfl⟩ := exists_of_map_ok resized
  rfl

/-- **A size is a window block at the end.**  Of definitions that are a scene, the same definitions with
    one more window block that sets both sides are the scene in this size, or have the problem that the
    scene has with this size; here the sides are any floats.  And a scene that was resized has, in any
    other size, the outcome that it had before. -/
theorem resized_is_window :
    (∀ definitions d s, load definitions d = .ok s → ∀ w h : Float,
      load (definitions ++ [.window { width := some w, height := some h }]) d =
        s.resized (.real w) (.real h)) ∧
    ∀ s t : Scene, ∀ a b, s.resized a b = .ok t → ∀ w h, t.resized w h = s.resized w h :=
  ⟨fun _ _ _ loaded => load_append_sides loaded, fun _ _ _ _ resized => resized_of_resized resized⟩

/-- A red ball in a window of two and a half pixels by the default height. -/
def lopsided : List Definition :=
  [.window { title := some "ball", width := some 2.5 },
    .sphere { color := ⟨255, 0, 0⟩, center := ⟨0, 0, 3⟩, radius := 1 }]

/-- It is asked for in a size that is no number by half a pixel, and half a pixel after another size. -/
theorem resized_is_window_lopsided :
    ∃ s t, load lopsided {} = .ok s ∧ s.resized (.whole 4) (.real 1.5) = .ok t ∧
      load (lopsided ++ [.window { width := some (0 / 0), height := some 0.5 }]) {} =
        s.resized (.real (0 / 0)) (.real 0.5) ∧
      t.resized (.real 0.5) (.whole 2) = s.resized (.real 0.5) (.whole 2) := by
  obtain ⟨s, loaded⟩ : ∃ s, load lopsided {} = .ok s := exists_of_isOk (by decide +kernel)
  obtain ⟨canvas, made⟩ : ∃ c, Canvas.of (.whole 4) (.real 1.5) = .ok c :=
    exists_of_isOk (by decide +kernel)
  have resized : s.resized (.whole 4) (.real 1.5) = .ok { s with canvas } := congrArg (Except.map _) made
  exact ⟨s, { s with canvas }, loaded, resized, resized_is_window.1 lopsided {} s loaded (0 / 0) 0.5,
    resized_is_window.2 s { s with canvas } (.whole 4) (.real 1.5) resized (.real 0.5) (.whole 2)⟩

end Scene
end LitSpheres
