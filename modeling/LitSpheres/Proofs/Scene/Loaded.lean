/-
  What is known of a scene that was loaded from a text.

  1. **Program** — the definitions of the text are added to a draft one after another, beginning with the
     defaults, and the draft becomes a scene when its canvas is made.

  2. **Specification** — with defaults that are a canvas, a text is a scene or has a problem of its own;
     nothing that is computed on the way fails.  The scene has at least one pixel, spheres and lights
     with finite numbers in range, opaque colors, and what no text sets from the defaults.

  3. **The crux** — definitions that were read are finite and in range, so each can be added, and adding
     keeps the draft sound; a side is what the defaults say or the whole part of what a window says.
-/
import LitSpheres.Proofs.Canvas.Size
import LitSpheres.Proofs.Color
import LitSpheres.Proofs.Definition.Refused
import LitSpheres.Proofs.Definition.RoundTrip
import LitSpheres.Proofs.Grammar.FirstProblem
import LitSpheres.Scene.Load

namespace LitSpheres

/-! ## Sides of a canvas -/

namespace Quantity

/-- A finite number of at least one. -/
def AtLeastOne : Quantity → Prop
  | whole n => 1 ≤ n
  | real x => Binary64.isFinite x ∧ 1 ≤ x

variable {q : Quantity}

/-- It is cut to a whole number of at least one. -/
theorem AtLeastOne.exists_truncate (h : q.AtLeastOne) : ∃ n, q.truncate = .ok n ∧ 1 ≤ n := by
  cases q with
  | whole n => exact ⟨n, rfl, h⟩
  | real x => exact ⟨_, wholePart_of_finite h.1, Binary64.one_le_truncate h.2⟩

theorem atLeastOne_iff : q.AtLeastOne ↔ ∃ n, q.truncate = .ok n ∧ 1 ≤ n := by
  refine ⟨AtLeastOne.exists_truncate, ?_⟩
  rintro ⟨n, cut, one⟩
  cases q with
  | whole m =>
    obtain rfl : m = n := Except.ok.inj cut
    exact one
  | real x =>
    obtain ⟨finite, rfl⟩ := wholePart_eq_ok cut
    refine ⟨finite, Binary64.le_of_not_lt (Binary64.isNumber_of_isFinite finite) (by decide +kernel) ?_⟩
    exact fun below => one.not_gt (Binary64.truncate_lt_one below)

/-- What a side has become: it is as before, or the whole part of a finite number of at least one. -/
def SetFrom (before after : Quantity) : Prop :=
  after = before ∨ ∃ x, Binary64.isFinite x ∧ 1 ≤ x ∧ after = whole (Binary64.truncate x)

theorem SetFrom.atLeastOne {before : Quantity} (h : before.SetFrom q) (start : before.AtLeastOne) :
    q.AtLeastOne := by
  rcases h with rfl | ⟨x, -, one, rfl⟩
  · exact start
  · exact Binary64.one_le_truncate one

end Quantity

/-! ## Sound spheres and lights -/

/-- A sphere with finite numbers that is not flat and is opaque. -/
structure Sphere.Sound (s : Sphere) : Prop where
  radius_finite : Binary64.isFinite s.radius
  radius_pos : 0 < s.radius
  center_finite : s.center.Finite
  opaque_color : s.color.alpha = 255

/-- The vector that places a light, if it has one. -/
def Light.vector? : Light → Option (Vec3 Float)
  | ambient _ => none
  | point _ v | directional _ v => some v

/-- A light with finite numbers that takes no light away. -/
structure Light.Sound (l : Light) : Prop where
  intensity_finite : Binary64.isFinite l.intensity
  intensity_nonneg : 0 ≤ l.intensity
  vector_finite : ∀ v ∈ l.vector?, v.Finite

theorem Light.sound_of_numbers {l : Light} (finite : ∀ x ∈ (Definition.light l).numbers, Binary64.isFinite x)
    (range : 0 ≤ l.intensity) : l.Sound := by
  cases l with
  | ambient i => exact ⟨finite i List.mem_cons_self, range, nofun⟩
  | point i v | directional i v =>
    refine ⟨finite i List.mem_cons_self, range, ?_⟩
    rintro w ⟨⟩
    exact fun x hx => finite x (List.mem_cons_of_mem i hx)

theorem Sphere.exists_ofSpec {spec : SphereSpec}
    (finite : ∀ x ∈ (Definition.sphere spec).numbers, Binary64.isFinite x) (range : 0 < spec.radius) :
    ∃ s, ofSpec spec = .ok s ∧ s.Sound := by
  refine ⟨_, dif_pos range, finite _ ?_, range, fun x hx => finite x ?_, ?_⟩
  · exact List.mem_append_right _ (List.mem_singleton_self _)
  · exact List.mem_append_left _ (List.mem_append_right _ hx)
  · exact Color.alpha_ofRgb _ _ _

/-! ## Drafts -/

/-- A draft that was made of the defaults and of definitions that were read. -/
structure Draft.Sound (d : Defaults) (draft : Draft) : Prop where
  width : d.width.SetFrom draft.width
  height : d.height.SetFrom draft.height
  spheres : ∀ s ∈ draft.spheres, s.Sound
  lights : ∀ l ∈ draft.lights, l.Sound

namespace Draft

variable {d : Defaults} {draft : Draft} {definition : Definition} {definitions : List Definition}

theorem sound_ofDefaults (d : Defaults) : Sound d (ofDefaults d) where
  width := .inl rfl
  height := .inl rfl
  spheres := nofun
  lights := nofun

/-- A side that a window sets, or leaves as it is. -/
theorem exists_side {start before : Quantity} (h : start.SetFrom before) {o : Option Float}
    (good : ∀ x ∈ o, Binary64.isFinite x ∧ 1 ≤ x) :
    ∃ after, side before o = .ok after ∧ start.SetFrom after := by
  cases o with
  | none => exact ⟨before, rfl, h⟩
  | some x =>
    obtain ⟨finite, one⟩ := good x rfl
    refine ⟨.whole (Binary64.truncate x), ?_, .inr ⟨x, finite, one, rfl⟩⟩
    show (Quantity.wholePart x).map Quantity.whole = _
    rw [Quantity.wholePart_of_finite finite]
    rfl

/-- **One definition more** can be added and keeps the draft sound. -/
theorem Sound.add (h : draft.Sound d) (writable : definition.Writable) (range : definition.InRange) :
    ∃ after, draft.add definition = .ok after ∧ after.Sound d := by
  obtain ⟨finite, kind⟩ := writable
  cases definition with
  | window w =>
    have widthGood : ∀ x ∈ w.width, Binary64.isFinite x ∧ 1 ≤ x := fun x hx =>
      ⟨finite x (List.mem_append_left _ (Option.mem_toList.2 hx)), range.1 x hx⟩
    have heightGood : ∀ x ∈ w.height, Binary64.isFinite x ∧ 1 ≤ x := fun x hx =>
      ⟨finite x (List.mem_append_right _ (Option.mem_toList.2 hx)), range.2 x hx⟩
    obtain ⟨width, hw, widthSet⟩ := exists_side h.width widthGood
    obtain ⟨height, hh, heightSet⟩ := exists_side h.height heightGood
    refine ⟨{ draft with width, height, title := w.title.getD draft.title }, ?_, widthSet, heightSet,
      h.spheres, h.lights⟩
    unfold add
    dsimp only
    rw [hw, hh]
    rfl
  | light l =>
    have sound := Light.sound_of_numbers finite range
    exact ⟨{ draft with lights := draft.lights ++ [l] }, rfl, h.width, h.height, h.spheres,
      List.forall_mem_append.2 ⟨h.lights, List.forall_mem_singleton.2 sound⟩⟩
  | sphere spec =>
    obtain ⟨s, made, sound⟩ := Sphere.exists_ofSpec finite range
    refine ⟨{ draft with spheres := draft.spheres ++ [s] }, ?_, h.width, h.height,
      List.forall_mem_append.2 ⟨h.spheres, List.forall_mem_singleton.2 sound⟩, h.lights⟩
    unfold add
    dsimp only
    rw [made]
    rfl
  | bare => exact absurd kind id

/-- **All definitions** can be added one after another. -/
theorem Sound.addAll (h : draft.Sound d)
    (good : ∀ definition ∈ definitions, definition.Writable ∧ definition.InRange) :
    ∃ after, definitions.foldlM Draft.add draft = .ok after ∧ after.Sound d := by
  induction definitions generalizing draft with
  | nil => exact ⟨draft, rfl, h⟩
  | cons first others ih =>
    obtain ⟨writable, range⟩ := good first List.mem_cons_self
    obtain ⟨next, added, sound⟩ := h.add writable range
    obtain ⟨last, rest, final⟩ := ih sound fun definition hd =>
      good definition (List.mem_cons_of_mem first hd)
    refine ⟨last, ?_, final⟩
    rw [List.foldlM_cons, added]
    exact rest

end Draft

/-! ## Scenes -/

namespace Scene

/-- What a scene that was loaded with the defaults is made of. -/
structure Sound (d : Defaults) (s : Scene) : Prop where
  width : ∃ q, d.width.SetFrom q ∧ q.truncate = .ok (s.canvas.width : Int)
  height : ∃ q, d.height.SetFrom q ∧ q.truncate = .ok (s.canvas.height : Int)
  spheres : ∀ sphere ∈ s.spheres, sphere.Sound
  lights : ∀ light ∈ s.lights, light.Sound
  viewport : s.viewport = d.viewport
  camera : s.camera = d.camera
  background : s.background = d.background

variable {text : List Char} {definitions : List Definition} {d : Defaults}

/-- **Definitions that were read are those of a scene.** -/
theorem exists_load (good : ∀ definition ∈ definitions, definition.Writable ∧ definition.InRange)
    (width : d.width.AtLeastOne) (height : d.height.AtLeastOne) :
    ∃ s, load definitions d = .ok s ∧ s.Sound d := by
  obtain ⟨draft, drafted, sound⟩ := (Draft.sound_ofDefaults d).addAll good
  obtain ⟨w, hw, wide⟩ := (sound.width.atLeastOne width).exists_truncate
  obtain ⟨h, hh, high⟩ := (sound.height.atLeastOne height).exists_truncate
  obtain ⟨canvas, made, rfl, rfl⟩ := Canvas.exists_of hw hh wide high
  refine ⟨{ canvas, spheres := draft.spheres, lights := draft.lights, viewport := d.viewport
            background := d.background, title := draft.title, camera := d.camera }, ?_,
    ⟨draft.width, sound.width, hw⟩, ⟨draft.height, sound.height, hh⟩, sound.spheres, sound.lights, rfl, rfl,
    rfl⟩
  unfold load
  rw [drafted]
  show draft.toScene d = _
  unfold Draft.toScene
  rw [made]
  rfl

theorem loadText_of_load {s : Scene} (h : parse text = .ok definitions) (loaded : load definitions d = .ok s) :
    loadText text d = .ok s := by
  unfold loadText
  rw [h]
  dsimp only
  rw [loaded]
  rfl

/-- A text without a problem of its own is a scene. -/
theorem exists_load_of_parse (h : parse text = .ok definitions) (width : d.width.AtLeastOne)
    (height : d.height.AtLeastOne) : ∃ s, load definitions d = .ok s ∧ s.Sound d := by
  obtain ⟨-, good⟩ := writable_of_parse h
  exact exists_load good width height

theorem loadText_of_problem {problem : TextProblem} (h : parse text = .error problem) (d : Defaults) :
    loadText text d = .error (.text problem) := by
  unfold loadText
  rw [h]

/-- The scene of a text is that of the definitions in it. -/
theorem exists_load_of_loadText {s : Scene} (loaded : loadText text d = .ok s) :
    ∃ definitions, parse text = .ok definitions ∧ load definitions d = .ok s := by
  cases h : parse text with
  | error problem => exact absurd ((loadText_of_problem h d).symm.trans loaded) nofun
  | ok definitions =>
    rw [loadText, h] at loaded
    exact ⟨definitions, rfl, ok_of_mapError loaded⟩

end Scene

/-- What is said of a problem of meaning in a text can be written. -/
theorem sayable_of_parse {text : List Char} {m : MeaningProblem} (h : parse text = .error (.meaning m)) :
    m.Sayable := by
  obtain ⟨-, -, b, -, -, failed, -⟩ := stop_at_meaning (problem_of_inside h rfl)
  exact Definition.ofBlock_sayably b.block m failed

/-- **Loading a text ends in one of two ways.**  With defaults whose sides are finite and at least one, the
    text has a problem of its own, which can be told, or it is read as definitions, and these are a scene:
    its canvas has at least one pixel, its spheres have a finite center and a finite positive radius and are
    opaque, its lights have finite numbers and an intensity that is not negative, and viewport, camera and
    background are the defaults. -/
theorem Scene.loadText_total (text : List Char) (d : Defaults) (width : d.width.AtLeastOne)
    (height : d.height.AtLeastOne) :
    (∃ problem, parse text = .error problem ∧ Scene.loadText text d = .error (.text problem) ∧
      ∀ m, problem = .meaning m → m.Sayable) ∨
    ∃ definitions s, parse text = .ok definitions ∧ Scene.load definitions d = .ok s ∧
      Scene.loadText text d = .ok s ∧ 1 ≤ s.canvas.width ∧ 1 ≤ s.canvas.height ∧
      (∀ sphere ∈ s.spheres, Binary64.isFinite sphere.radius ∧ 0 < sphere.radius ∧ sphere.center.Finite ∧
        sphere.color.alpha = 255) ∧
      (∀ light ∈ s.lights, Binary64.isFinite light.intensity ∧ 0 ≤ light.intensity ∧
        ∀ v ∈ light.vector?, v.Finite) ∧
      s.viewport = d.viewport ∧ s.camera = d.camera ∧ s.background = d.background := by
  cases h : parse text with
  | error problem =>
    left
    refine ⟨problem, rfl, loadText_of_problem h d, ?_⟩
    rintro m rfl
    exact sayable_of_parse h
  | ok definitions =>
    right
    obtain ⟨s, loaded, sound⟩ := exists_load_of_parse h width height
    refine ⟨definitions, s, rfl, loaded, loadText_of_load h loaded, s.canvas.width_pos, s.canvas.height_pos,
      ?_, ?_, sound.viewport, sound.camera, sound.background⟩
    · intro sphere hs
      have good := sound.spheres sphere hs
      exact ⟨good.radius_finite, good.radius_pos, good.center_finite, good.opaque_color⟩
    · intro light hl
      have good := sound.lights light hl
      exact ⟨good.intensity_finite, good.intensity_nonneg, good.vector_finite⟩

/-! ## A text that sets one side -/

/-- A ball in flat light; the window is no whole number of pixels wide. -/
def ballText : List Char :=
  "window \x7b\nwidth = 2.9\n\x7d\nlight \x7b\ntype = ambient\nintensity = 0.5\n\x7d\n".toList ++
    "sphere \x7b\nradius = 1.5\ncenter = (0, 0, 3)\ncolor = (255, 0, 300)\n\x7d\n".toList

/-- Defaults whose height is no whole number either. -/
def ballDefaults : Defaults := { width := .whole 3, height := .real 2.5 }

theorem Scene.loadText_total_ball :
    ballDefaults.width.AtLeastOne ∧ ballDefaults.height.AtLeastOne ∧
      ∃ s, Scene.loadText ballText ballDefaults = .ok s ∧ 1 ≤ s.canvas.width ∧ 1 ≤ s.canvas.height ∧
        s.viewport = .unit := by
  have width : ballDefaults.width.AtLeastOne := by
    show (1 : Int) ≤ 3
    decide
  have height : ballDefaults.height.AtLeastOne := by
    show Binary64.isFinite 2.5 ∧ (1 : Float) ≤ 2.5
    decide +kernel
  have read : (Scene.loadText ballText ballDefaults).isOk = true := by
    unfold ballText
    rw [String.toList_ofList, String.toList_ofList]
    decide +kernel
  refine ⟨width, height, ?_⟩
  rcases Scene.loadText_total ballText ballDefaults width height with ⟨problem, -, failed, -⟩ | good
  · rw [failed] at read
    exact absurd read nofun
  · obtain ⟨-, s, -, -, loaded, wide, high, -, -, viewport, -⟩ := good
    exact ⟨s, loaded, wide, high, viewport⟩

end LitSpheres
