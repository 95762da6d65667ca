/-
  The alpha of a rendered frame.

  1. **Program** — the sphere of a definition gets an opaque color, light scales the color of what is hit, and
     what hits nothing shows the background; each of these colors goes to the frame with its alpha.

  2. **Specification** — with an opaque background, every fourth byte of a frame that was rendered without
     failure is 255: for any definitions that are a scene, in any size, whatever the lights are and whatever
     the frame held before.

  3. **The crux** — a scene is opaque if its background and its spheres are.  Loading makes it so, resizing
     keeps it so, and scaling converts alpha to itself, so no light matters.
-/
import LitSpheres.Proofs.Color
import LitSpheres.Proofs.Render.Failure
import LitSpheres.Proofs.Scene.LastWins
import LitSpheres.Proofs.Scene.Nearest

namespace LitSpheres

/-- The sphere of a definition is opaque. -/
theorem SphereSpec.alpha_of_sphere? {spec : SphereSpec} {sphere : Sphere} (h : spec.sphere? = some sphere) :
    sphere.color.alpha = 255 := by
  rw [sphere?] at h
  split at h
  · obtain rfl := Option.some.inj h
    exact Color.alpha_ofRgb _ _ _
  · cases h

namespace Scene

variable {s t : Scene} {definitions : List Definition} {d : Defaults} {p : CanvasPoint} {color : Color}
  {f : Frame}

/-- Nothing of the scene can be seen through. -/
structure Opaque (s : Scene) : Prop where
  background : s.background.alpha = 255
  spheres : ∀ sphere ∈ s.spheres, sphere.color.alpha = 255

/-- **Loading** makes only opaque spheres. -/
theorem opaque_of_load (loaded : load definitions d = .ok s) (background : d.background.alpha = 255) :
    s.Opaque := by
  have usable : definitions.findSome? Definition.problem? = none := by
    cases found : definitions.findSome? Definition.problem? with
    | none => rfl
    | some problem => exact absurd ((load_of_problem found d).symm.trans loaded) nofun
  obtain ⟨canvas, -, rfl⟩ := toScene_eq_ok_iff.1 ((load_of_usable usable d).symm.trans loaded)
  refine ⟨background, fun sphere hs => ?_⟩
  -- a draft begins without spheres, so each one comes from a definition
  rcases List.mem_append.1 hs with early | made
  · exact absurd early List.not_mem_nil
  · obtain ⟨spec, -, h⟩ := List.mem_filterMap.1 made
    exact SphereSpec.alpha_of_sphere? h

/-! ## Sizes -/

/-- The scene after it was resized to each of the sizes in turn. -/
def resizedAll (s : Scene) (sizes : List (Quantity × Quantity)) : Except ValueProblem Scene :=
  sizes.foldlM (fun s size => s.resized size.1 size.2) s

/-- **One size** more keeps the scene as opaque as it was. -/
theorem Opaque.resized (h : s.Opaque) {width height : Quantity} (sized : s.resized width height = .ok t) :
    t.Opaque := by
  obtain ⟨canvas, -, rfl⟩ := exists_of_map_ok sized
  exact ⟨h.background, h.spheres⟩

/-- And so do all of them. -/
theorem Opaque.resizedAll (h : s.Opaque) {sizes : List (Quantity × Quantity)}
    (sized : s.resizedAll sizes = .ok t) : t.Opaque := by
  induction sizes generalizing s with
  | nil =>
    obtain rfl := Except.ok.inj sized
    exact h
  | cons size rest ih =>
    rw [Scene.resizedAll, List.foldlM_cons] at sized
    obtain ⟨next, first, others⟩ := exists_of_bind_ok sized
    exact ih (h.resized first) others

/-! ## Pixels -/

/-- What a ray hits is a sphere of the scene. -/
theorem mem_spheres_of_intersect {direction : Vec3 Float} {span : Span} {hit : Hit}
    (h : s.intersect direction span = some hit) : hit.sphere ∈ s.spheres := by
  obtain ⟨c, ⟨before, after, listed, -⟩, rfl⟩ := earliestOf_of_intersect h
  have member : c ∈ s.candidates direction span := by
    rw [listed]
    exact List.mem_append_right before List.mem_cons_self
  exact List.mem_of_getElem? (getElem?_of_mem_candidates member)

/-- **Every color that is seen is opaque**, on a hit and on a miss. -/
theorem Opaque.alpha_trace (h : s.Opaque) {direction : Vec3 Float} {span : Span}
    (seen : s.trace direction span = .ok color) : color.alpha = 255 := by
  rw [trace] at seen
  cases found : s.intersect direction span with
  | none =>
    rw [found] at seen
    obtain rfl := Except.ok.inj seen
    exact h.background
  | some hit =>
    rw [found] at seen
    obtain ⟨light, -, rfl⟩ := exists_of_map_ok seen
    exact (Color.alpha_scale _ light).trans (h.spheres _ (mem_spheres_of_intersect found))

theorem Opaque.alpha_shade (h : s.Opaque) (shaded : s.shade p = .ok color) : color.alpha = 255 := by
  obtain ⟨direction, -, traced⟩ := exists_of_bind_ok shaded
  exact h.alpha_trace traced

/-! ## Frames -/

/-- **Every fourth byte of an opaque scene's frame is 255.** -/
theorem Opaque.alpha_render (h : s.Opaque) (fits : f.size = s.canvas.frameSize) {workers : Option Int}
    (done : (s.render f workers).failure = none) {k : Nat} (hk : k < s.canvas.pixelCount) :
    (s.render f workers).frame.bytes[4 * k + 3]? = some 255 := by
  have shades : s.Shades := (failure_render_eq_none_iff fits workers).1 done
  obtain ⟨color, shaded, slot⟩ := shades.slot_paint_strokes fits (Canvas.slot?_pixel s.canvas hk)
  -- alpha is the last of the four bytes of a slot
  have last : ((f.paint s.canvas s.strokes).slot k)[3]? = some color.alpha := by
    rw [slot]
    rfl
  rw [Frame.getElem?_slot, if_pos (by decide)] at last
  rw [shades.render_eq fits workers, last, h.alpha_shade shaded]

/-- **Frames come out fully opaque.**  Of any definitions that are a scene with an opaque background, whatever
    numbers they hold, take the scene in any size that it can be given, and any frame of the bytes that this
    size needs.  If rendering does not fail, by any number of workers, the alpha of each pixel is 255
    afterwards. -/
theorem render_alpha (definitions : List Definition) (d : Defaults) (background : d.background.alpha = 255)
    (s : Scene) (loaded : load definitions d = .ok s) (sizes : List (Quantity × Quantity)) (t : Scene)
    (sized : s.resizedAll sizes = .ok t) (f : Frame) (fits : f.size = t.canvas.frameSize)
    (workers : Option Int) (done : (t.render f workers).failure = none) :
    ∀ k < t.canvas.width * t.canvas.height, (t.render f workers).frame.bytes[4 * k + 3]? = some 255 :=
  fun _ hk => ((opaque_of_load loaded background).resizedAll sized).alpha_render fits done hk

/-- A ball of a color out of range, lit by lights that are infinite and no number. -/
def glaring : List Definition :=
  [.sphere { color := ⟨300, -5, 12.5⟩, center := ⟨0, 0, 3⟩, radius := 1 },
    .light (.point (1 / 0) ⟨0, 0, 0⟩), .light (.ambient (0 / 0))]

/-- It is resized twice and rendered over a frame of other bytes; the alpha of the last of the six pixels is
    255 then. -/
theorem render_alpha_glaring : ∃ s t, load glaring {} = .ok s ∧
    s.resizedAll [(.whole 5, .real 1.5), (.real 3.5, .whole 2)] = .ok t ∧
    (Frame.filled 24 7).size = t.canvas.frameSize ∧ (t.render (Frame.filled 24 7) (some 4)).failure = none ∧
    (t.render (Frame.filled 24 7) (some 4)).frame.bytes[23]? = some 255 := by
  have rendered : ((load glaring {} >>= fun s => s.resizedAll [(.whole 5, .real 1.5), (.real 3.5, .whole 2)]
      ).toOption.any fun t => decide (t.canvas.width = 3 ∧ t.canvas.height = 2 ∧ t.Shades)) = true := by
    decide +kernel
  obtain ⟨t, made, facts⟩ := exists_of_any rendered
  obtain ⟨width, height, shades⟩ := of_decide_eq_true facts
  obtain ⟨s, loaded, sized⟩ := exists_of_bind_ok made
  have fits : (Frame.filled 24 7).size = t.canvas.frameSize := by
    rw [Canvas.frameSize, width, height]
    decide
  have done := (failure_render_eq_none_iff fits (some 4)).2 shades
  have white : ({} : Defaults).background.alpha = 255 := rfl
  refine ⟨s, t, loaded, sized, fits, done, ?_⟩
  exact render_alpha glaring {} white s loaded _ t sized _ fits (some 4) done 5 (by rw [width, height]; decide)

end Scene
end LitSpheres
