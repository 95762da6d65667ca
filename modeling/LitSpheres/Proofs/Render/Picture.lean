/-
  Pictures and the scenes that they show.

  1. **Program** — a scene is rendered into a frame of its own, which is then seen as rows of pixels.

  2. **Specification** — there is a picture exactly if every pixel can be shaded.  It has the size of the
     canvas, and each of its pixels holds the color that the scene has there; how many workers rendered it
     cannot be told, neither from the picture nor from the problem if there is none.

  3. **The crux** — a picture is its sides and its frame, and the frame of a rendering that does not fail is
     known; a rendering that fails does so at the first failing pixel, for any number of workers.
-/
import LitSpheres.Proofs.Render.Failure

namespace LitSpheres

/-! ## Pictures of a scene -/

/-- The picture has the size of the scene's canvas, and each of its pixels, counted from the top left, is the
    color of the scene there, counted from the middle. -/
structure Picture.Shows (p : Picture) (s : Scene) : Prop where
  width : p.width = s.canvas.width
  height : p.height = s.canvas.height
  pixels : ∀ sx sy : Nat, sx < s.canvas.width → sy < s.canvas.height →
    ∃ color,
      s.shade { x := (sx : Int) - (s.canvas.width : Int) / 2
                y := (s.canvas.height : Int) / 2 - (sy : Int) } = .ok color ∧
      p.pixelAt? sx sy = some [color.red, color.green, color.blue, color.alpha]

theorem Picture.eq_of_frame {p q : Picture} (width : p.width = q.width) (height : p.height = q.height)
    (frame : p.frame = q.frame) : p = q := by
  cases p
  cases q
  obtain rfl : _ = _ := width
  obtain rfl : _ = _ := height
  obtain rfl : _ = _ := frame
  rfl

namespace Scene

variable {s : Scene} {workers : Option Int} {picture : Picture} {problem : ValueProblem}

theorem picture_of_failure (failed : (s.render (Frame.ofCanvas s.canvas) workers).failure = some problem) :
    s.picture workers = .error problem := by
  unfold Scene.picture
  dsimp only
  split
  · next other found =>
    obtain rfl := Option.some.inj (found.symm.trans failed)
    rfl
  · next none => exact absurd (none.symm.trans failed) nofun

/-- There is a picture exactly if every pixel can be shaded. -/
theorem exists_picture_iff : (∃ picture, s.picture workers = .ok picture) ↔ s.Shades := by
  constructor
  · rintro ⟨picture, rendered⟩
    rw [← failure_render_eq_none_iff (size_ofCanvas s.canvas) workers]
    cases failed : (s.render (Frame.ofCanvas s.canvas) workers).failure with
    | none => rfl
    | some problem => exact absurd (rendered.symm.trans (picture_of_failure failed)) nofun
  · intro shades
    obtain ⟨picture, rendered, -⟩ := shades.picture_eq workers
    exact ⟨picture, rendered⟩

/-- **The number of workers does not show** in a picture, nor in what keeps it from being made. -/
theorem picture_workers (s : Scene) (m n : Option Int) : s.picture m = s.picture n := by
  by_cases shades : s.Shades
  · obtain ⟨p, rendered, width, height, frame⟩ := shades.picture_eq m
    obtain ⟨q, again, width', height', frame'⟩ := shades.picture_eq n
    rw [rendered, again, Picture.eq_of_frame (width.trans width'.symm) (height.trans height'.symm)
      (frame.trans frame'.symm)]
  · have fits := size_ofCanvas s.canvas
    cases failed : (s.render (Frame.ofCanvas s.canvas) m).failure with
    | none => exact absurd ((failure_render_eq_none_iff fits m).1 failed) shades
    | some problem =>
      have also : (s.render (Frame.ofCanvas s.canvas) n).failure = some problem := by
        rw [failure_render fits, ← failed, failure_render fits]
      rw [picture_of_failure failed, picture_of_failure also]

/-- **A picture shows its scene.** -/
theorem shows_of_picture (rendered : s.picture workers = .ok picture) : picture.Shows s := by
  have shades : s.Shades := exists_picture_iff.1 ⟨picture, rendered⟩
  obtain ⟨p, same, width, height, frame⟩ := shades.picture_eq workers
  obtain rfl := Except.ok.inj (rendered.symm.trans same)
  refine ⟨width, height, fun sx sy hx hy => ?_⟩
  obtain ⟨color, shaded, slot⟩ :=
    shades.slot_paint_strokes (size_ofCanvas s.canvas) (Canvas.slot?_pointAt s.canvas hx hy)
  refine ⟨color, shaded, ?_⟩
  rw [picture.pixelAt?_eq_slot (width ▸ hx) (height ▸ hy), width, frame]
  exact congrArg some slot

/-- What a kept picture takes: room for the frame, and the picture. -/
theorem keptPicture_eq_ok_iff : s.keptPicture workers = .ok picture ↔
    Frame.sizeProblem? .array s.canvas.frameSize = none ∧ s.picture workers = .ok picture := by
  unfold keptPicture
  cases Frame.sizeProblem? .array s.canvas.frameSize with
  | some problem => exact ⟨nofun, fun h => absurd h.1 nofun⟩
  | none => exact ⟨fun h => ⟨rfl, h⟩, fun h => h.2⟩

/-- A scene that can be shaded has a picture, if there is room for its frame. -/
theorem Shades.exists_keptPicture (h : s.Shades)
    (room : Frame.sizeProblem? .array s.canvas.frameSize = none) (workers : Option Int) :
    ∃ picture, s.keptPicture workers = .ok picture := by
  obtain ⟨picture, rendered⟩ := exists_picture_iff.2 h
  exact ⟨picture, keptPicture_eq_ok_iff.2 ⟨room, rendered⟩⟩

end Scene
end LitSpheres
