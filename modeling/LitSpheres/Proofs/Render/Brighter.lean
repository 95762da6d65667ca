/-
  A scene with one light more.

  1. **Program** — the light that arrives at a hit is added up over all lights in their order, and the color of
     the sphere is scaled by the sum; what is no number becomes the byte zero.

  2. **Specification** — a light that is appended makes no channel of a pixel darker and leaves alpha alone,
     unless what arrives of it is no number.  Then red, green and blue are zero.  That is so exactly if the
     surface does not face away and the cosine or the product of the lengths is no number, an intensity of
     zero meets an infinite cosine, or both sides of the quotient are infinite.

  3. **The crux** — what arrives of a light with an intensity from zero on is not below zero if it is a number,
     and neither is a sum of such; floats that are not below zero keep their order when they are added to,
     multiplied with a byte and converted to one.
-/
import LitSpheres.Proofs.Color
import LitSpheres.Proofs.Render.Failure
import LitSpheres.Proofs.Scene.LastWins

namespace LitSpheres

open Binary64

/-! ## What arrives of a light -/

namespace Light

variable {l : Light} {lights : List Light} {at_ normal v : Vec3 Float} {intensity x a : Float}

/-- The surface does not face away from the direction, but the cosine or the product of the lengths is no number,
    an intensity of zero meets an infinite cosine, or both sides of the quotient are infinite. -/
def SpoilsFrom (v normal : Vec3 Float) (intensity : Float) : Prop :=
  ¬ normal.dot v ≤ 0 ∧
    (¬ isNumber (normal.dot v) ∨ ¬ isNumber (normal.norm * v.norm) ∨
      rank intensity = 0 ∧ rank (normal.dot v) = infinityRank ∨
      rank (intensity * normal.dot v) = infinityRank ∧ rank (normal.norm * v.norm) = infinityRank)

/-- What arrives of the light is no number, for the direction that it comes from. -/
def Spoils (l : Light) (at_ normal : Vec3 Float) : Prop :=
  ∃ v, l.towards? at_ = some v ∧ SpoilsFrom v normal l.intensity

theorem neverBelow_norm (v : Vec3 Float) : NeverBelow v.norm := neverBelow_sqrt _

/-- What is computed of a light that comes from somewhere. -/
theorem diffuse_eq_ok (h : diffuse v normal intensity = .ok x) :
    normal.dot v ≤ 0 ∧ x = 0 ∨
      ¬ normal.dot v ≤ 0 ∧ rank (normal.norm * v.norm) ≠ 0 ∧
        x = intensity * normal.dot v / (normal.norm * v.norm) := by
  rw [diffuse] at h
  dsimp only at h
  split_ifs at h with away zero
  · exact .inl ⟨away, (Except.ok.inj h).symm⟩
  · exact .inr ⟨away, mt beq_zero_iff.2 zero, (Except.ok.inj h).symm⟩

theorem diffuse_number_iff (finite : isFinite intensity) (h : diffuse v normal intensity = .ok x) :
    ¬ isNumber x ↔ SpoilsFrom v normal intensity := by
  rcases diffuse_eq_ok h with ⟨away, rfl⟩ | ⟨faces, some, rfl⟩
  · have zero : isNumber 0 := by decide +kernel
    exact ⟨fun no => absurd zero no, fun spoiled => absurd away spoiled.1⟩
  · have number := isNumber_of_isFinite finite
    have below : rank intensity ≠ infinityRank := (of_decide_eq_true finite).ne
    rw [isNumber_div_iff, isNumber_mul_iff, SpoilsFrom]
    grind

theorem neverBelow_diffuse (range : 0 ≤ intensity) (h : diffuse v normal intensity = .ok x) :
    NeverBelow x := by
  rcases diffuse_eq_ok h with ⟨-, rfl⟩ | ⟨faces, some, rfl⟩
  · exact fun _ => by decide +kernel
  · have above : NeverBelow intensity := fun _ => range
    have lengths := (neverBelow_norm normal).mul (neverBelow_norm v)
    exact (above.mul (neverBelow_of_not_le faces)).div lengths some

/-- **When what arrives is no number.** -/
theorem illuminate_number_iff (sound : l.Sound) (h : l.illuminate at_ normal = .ok x) :
    ¬ isNumber x ↔ l.Spoils at_ normal := by
  have finite := sound.intensity_finite
  have from_ (v : Vec3 Float) (given : l.towards? at_ = some v) (h : diffuse v normal l.intensity = .ok x) :
      ¬ isNumber x ↔ l.Spoils at_ normal := by
    refine (diffuse_number_iff finite h).trans ⟨fun spoiled => ⟨v, given, spoiled⟩, ?_⟩
    rintro ⟨w, hw, spoiled⟩
    obtain rfl := Option.some.inj (given.symm.trans hw)
    exact spoiled
  cases l with
  | ambient i =>
    obtain rfl := Except.ok.inj h
    exact ⟨fun no => absurd (isNumber_of_isFinite finite) no, fun ⟨_, given, _⟩ => absurd given nofun⟩
  | point i position => exact from_ (position - at_) rfl h
  | directional i direction => exact from_ direction rfl h

/-- **What arrives takes no light away.** -/
theorem neverBelow_illuminate (sound : l.Sound) (h : l.illuminate at_ normal = .ok x) : NeverBelow x := by
  have range := sound.intensity_nonneg
  cases l with
  | ambient i =>
    obtain rfl := Except.ok.inj h
    exact fun _ => range
  | point i position => exact neverBelow_diffuse range h
  | directional i direction => exact neverBelow_diffuse range h

/-- Neither does the sum over any lights. -/
theorem neverBelow_total (sound : ∀ l ∈ lights, l.Sound) (h : total lights at_ normal = .ok a) :
    NeverBelow a := by
  have start : NeverBelow 0 := fun _ => by decide +kernel
  rw [total] at h
  -- the induction is over the lights, for any sum that they are added to
  generalize (0 : Float) = sum at h start
  induction lights generalizing sum with
  | nil =>
    obtain rfl := Except.ok.inj h
    exact start
  | cons first others ih =>
    rw [List.foldlM_cons] at h
    obtain ⟨next, added, rest⟩ := exists_of_bind_ok h
    obtain ⟨x, arrives, rfl⟩ := exists_of_map_ok added
    refine ih (fun l hl => sound l (List.mem_cons_of_mem first hl)) _ rest ?_
    exact start.add (neverBelow_illuminate (sound first List.mem_cons_self) arrives)

/-- One light more is one summand more. -/
theorem total_append (lights : List Light) (l : Light) (at_ normal : Vec3 Float) :
    total (lights ++ [l]) at_ normal =
      total lights at_ normal >>= fun sum => (l.illuminate at_ normal).map (sum + ·) := by
  rw [total, List.foldlM_append]
  refine congrArg (total lights at_ normal >>= ·) (funext fun sum => ?_)
  show ((l.illuminate at_ normal).map (sum + ·) >>= pure) = _
  rw [bind_pure]

end Light

/-! ## Colors scaled by more -/

namespace Color

variable {a x : Float}

/-- No channel is less than it was, and alpha is the same. -/
structure AtLeast (after before : Color) : Prop where
  red : before.red ≤ after.red
  green : before.green ≤ after.green
  blue : before.blue ≤ after.blue
  alpha : after.alpha = before.alpha

/-- No light at all: red, green and blue are zero, and alpha is the same. -/
structure Blackened (after before : Color) : Prop where
  red : after.red = 0
  green : after.green = 0
  blue : after.blue = 0
  alpha : after.alpha = before.alpha

theorem AtLeast.refl (c : Color) : c.AtLeast c := ⟨UInt8.le_refl _, UInt8.le_refl _, UInt8.le_refl _, rfl⟩

/-- A byte times a greater number is converted to no smaller byte. -/
theorem channel_scaled_mono (b : UInt8) (ha : NeverBelow a) (hx : 0 ≤ x) :
    channel (b.toFloat * a) ≤ channel (b.toFloat * (a + x)) := by
  obtain ⟨finite, -, above⟩ := byte_toFloat b
  -- zero times an infinite sum is no number, so a zero byte is not a case of the order of products
  rcases Nat.eq_zero_or_pos (rank b.toFloat) with none | some
  · rw [channel_eq_zero (rank_mul_zero (.inl none)), channel_eq_zero (rank_mul_zero (.inl none))]
    exact UInt8.le_refl 0
  · by_cases number : isNumber a = true
    · have order : a ≤ a + x := le_add (ha number) hx
      exact channel_mono (mul_mono some finite above (ha number) (nonneg_add (ha number) hx) order)
    · have no : ¬ isNumber (b.toFloat * a) := fun h => number (isNumber_mul_iff.1 h).2.1
      rw [channel_eq_zero fun h => absurd h no]
      exact UInt8.zero_le

theorem scale_atLeast (c : Color) (ha : NeverBelow a) (hx : 0 ≤ x) :
    (c.scale (a + x)).AtLeast (c.scale a) :=
  ⟨channel_scaled_mono c.red ha hx, channel_scaled_mono c.green ha hx, channel_scaled_mono c.blue ha hx,
    (alpha_scale c _).trans (alpha_scale c _).symm⟩

theorem scale_blackened (c : Color) (no : ¬ isNumber x) (a : Float) :
    (c.scale (a + x)).Blackened (c.scale a) := by
  have zero (b : UInt8) : channel (b.toFloat * (a + x)) = 0 := by
    have none : ¬ isNumber (b.toFloat * (a + x)) := fun h => no (isNumber_of_add (isNumber_mul_iff.1 h).2.1).2
    exact channel_eq_zero fun h => absurd h none
  exact ⟨zero c.red, zero c.green, zero c.blue, (alpha_scale c _).trans (alpha_scale c _).symm⟩

end Color

/-! ## Scenes -/

namespace Scene

variable {s : Scene} {l : Light} {p : CanvasPoint} {before after : Color} {text : List Char} {d : Defaults}

/-- The scene with one light more, behind the others. -/
def lit (s : Scene) (l : Light) : Scene := { s with lights := s.lights ++ [l] }

/-- The ray of a pixel hits a surface at which the light spoils the sum. -/
def SpoiledAt (s : Scene) (l : Light) (p : CanvasPoint) : Prop :=
  ∃ direction hit, s.direction p = .ok direction ∧ s.intersect direction {} = some hit ∧
    l.Spoils hit.point hit.normal

theorem lighting_lit (s : Scene) (l : Light) (point normal : Vec3 Float) : (s.lit l).lighting point normal =
    s.lighting point normal >>= fun sum => (l.illuminate point normal).map (sum + ·) :=
  Light.total_append s.lights l point normal

/-- **One pixel** without and with the light: it misses, or it is scaled by one summand more. -/
theorem shade_lit (shaded : s.shade p = .ok before) (shadedToo : (s.lit l).shade p = .ok after) :
    ∃ direction, s.direction p = .ok direction ∧
      (s.intersect direction {} = none ∧ after = before ∨
        ∃ hit a x, s.intersect direction {} = some hit ∧ s.lighting hit.point hit.normal = .ok a ∧
          l.illuminate hit.point hit.normal = .ok x ∧ before = hit.sphere.color.scale a ∧
          after = hit.sphere.color.scale (a + x)) := by
  obtain ⟨direction, found, traced⟩ := exists_of_bind_ok shaded
  obtain ⟨other, foundToo, tracedToo⟩ := exists_of_bind_ok shadedToo
  obtain rfl := Except.ok.inj (found.symm.trans foundToo)
  refine ⟨direction, found, ?_⟩
  -- what a ray hits does not depend on the lights
  have same : (s.lit l).intersect direction {} = s.intersect direction {} := rfl
  rw [trace] at traced tracedToo
  rw [same] at tracedToo
  cases hits : s.intersect direction {} with
  | none =>
    rw [hits] at traced tracedToo
    exact .inl ⟨rfl, (Except.ok.inj tracedToo).symm.trans (Except.ok.inj traced)⟩
  | some hit =>
    rw [hits] at traced tracedToo
    obtain ⟨a, sum, rfl⟩ := exists_of_map_ok traced
    obtain ⟨b, more, rfl⟩ := exists_of_map_ok tracedToo
    rw [lighting_lit, sum] at more
    obtain ⟨x, arrives, rfl⟩ := exists_of_map_ok more
    exact .inr ⟨hit, a, x, rfl, sum, arrives, rfl, rfl⟩

/-- The lights of a text are sound, whatever the defaults are. -/
theorem sound_lights_of_loadText (loaded : loadText text d = .ok s) : ∀ light ∈ s.lights, light.Sound := by
  obtain ⟨definitions, read, made⟩ := exists_load_of_loadText loaded
  obtain ⟨-, good⟩ := writable_of_parse read
  obtain ⟨draft, drafted, sound⟩ := (Draft.sound_ofDefaults d).addAll good
  obtain ⟨other, same, ends⟩ := exists_of_bind_ok made
  obtain rfl := Except.ok.inj (drafted.symm.trans same)
  obtain ⟨canvas, -, rfl⟩ := toScene_eq_ok_iff.1 ends
  exact sound.lights

/-- **A further light darkens a pixel only by spoiling it.**  Take any scene that a text describes, and any light
    with finite numbers and an intensity from zero on.  Where a pixel can be shaded without and with the light,
    no channel is less with it and alpha is the same, unless the light spoils the sum there: the ray hits a
    surface that does not face away, and the quotient of cosine and lengths is no number.  Then red, green and
    blue are zero. -/
theorem lit_never_darker (text : List Char) (d : Defaults) (s : Scene) (loaded : loadText text d = .ok s)
    (l : Light) (sound : l.Sound) (p : CanvasPoint) (before after : Color) (shaded : s.shade p = .ok before)
    (shadedToo : (s.lit l).shade p = .ok after) :
    (¬ s.SpoiledAt l p → after.AtLeast before) ∧ (s.SpoiledAt l p → after.Blackened before) := by
  obtain ⟨direction, found, ⟨misses, rfl⟩ | ⟨hit, a, x, hits, sum, arrives, rfl, rfl⟩⟩ := shade_lit shaded shadedToo
  · refine ⟨fun _ => .refl _, ?_⟩
    rintro ⟨other, hit, foundToo, hits, -⟩
    obtain rfl := Except.ok.inj (found.symm.trans foundToo)
    exact absurd (misses.symm.trans hits) nofun
  · have spoils_iff : s.SpoiledAt l p ↔ ¬ isNumber x := by
      rw [Light.illuminate_number_iff sound arrives]
      constructor
      · rintro ⟨other, hitToo, foundToo, hitsToo, spoils⟩
        obtain rfl := Except.ok.inj (found.symm.trans foundToo)
        obtain rfl := Option.some.inj (hits.symm.trans hitsToo)
        exact spoils
      · exact fun spoils => ⟨direction, hit, found, hits, spoils⟩
    rw [spoils_iff]
    refine ⟨fun number => ?_, fun no => Color.scale_blackened _ no a⟩
    have above : NeverBelow a := Light.neverBelow_total (sound_lights_of_loadText loaded) sum
    exact Color.scale_atLeast _ above (Light.neverBelow_illuminate sound arrives (by simpa using number))

/-! ## A ball and a speck -/

/-- A window of one pixel. -/
def onePixel : List Char := "window \x7b\nwidth = 1\nheight = 1\n\x7d\n".toList

/-- A white ball straight ahead, of the given radius. -/
def whiteBall (radius : List Char) : List Char :=
  "sphere \x7b\ncenter = (0, 0, 3)\ncolor = (255, 255, 255)\nradius = ".toList ++ radius ++ "\n\x7d\n".toList

/-- Flat light of the given intensity. -/
def flatLight (intensity : List Char) : List Char :=
  "light \x7b\ntype = ambient\nintensity = ".toList ++ intensity ++ "\n\x7d\n".toList

/-- A ball in weak light. -/
def dimBall : List Char := onePixel ++ whiteBall ['1'] ++ flatLight ['0', '.', '2', '5']

/-- A ball so small that no float on its surface is closer to it than its center. -/
def brightSpeck : List Char :=
  onePixel ++ whiteBall ['0', '.', '0', '0', '0', '0', '0', '0', '0', '0', '1'] ++ flatLight ['1']

/-- Light from the camera. -/
def torch : Light := .directional 0.5 ⟨0, 0, -1⟩

theorem sound_torch : torch.Sound := by
  refine Light.sound_of_numbers ?_ (by decide +kernel)
  decide +kernel

/-- The pixel of the text can be shaded without and with the torch, and becomes the two colors. -/
def Shows (text : List Char) (before after : Color) : Bool :=
  (loadText text {}).toOption.any fun s => decide (CanvasPoint.mk 0 0 ∈ s.canvas.points ∧
    (s.shade ⟨0, 0⟩).toOption = some before ∧ ((s.lit torch).shade ⟨0, 0⟩).toOption = some after)

theorem exists_of_shows (h : Shows text before after = true) : ∃ s, loadText text {} = .ok s ∧
    CanvasPoint.mk 0 0 ∈ s.canvas.points ∧ s.shade ⟨0, 0⟩ = .ok before ∧
      (s.lit torch).shade ⟨0, 0⟩ = .ok after := by
  have ok {x : Except ValueProblem Color} {c : Color} (h : x.toOption = some c) : x = .ok c := by
    cases x with
    | error problem => cases h
    | ok color => exact congrArg _ (Option.some.inj h)
  obtain ⟨s, loaded, facts⟩ := exists_of_any h
  obtain ⟨inside, shaded, shadedToo⟩ := of_decide_eq_true facts
  exact ⟨s, loaded, inside, ok shaded, ok shadedToo⟩

/-- A ball of radius one is brighter with the torch. -/
theorem lit_never_darker_ball : ∃ s before after, loadText dimBall {} = .ok s ∧
    torch.Sound ∧ s.shade ⟨0, 0⟩ = .ok before ∧ (s.lit torch).shade ⟨0, 0⟩ = .ok after ∧ before.red = 63 ∧
    after.red = 191 ∧ after.AtLeast before := by
  have shown : Shows dimBall ⟨63, 63, 63, 255⟩ ⟨191, 191, 191, 255⟩ = true := by
    unfold dimBall onePixel whiteBall flatLight
    repeat rw [String.toList_ofList]
    decide +kernel
  obtain ⟨s, loaded, -, shaded, shadedToo⟩ := exists_of_shows shown
  obtain ⟨brighter, black⟩ := lit_never_darker _ {} s loaded torch sound_torch ⟨0, 0⟩ _ _ shaded shadedToo
  refine ⟨s, _, _, loaded, sound_torch, shaded, shadedToo, rfl, rfl, brighter fun spoiled => ?_⟩
  exact absurd (black spoiled).red (by decide)

/-- A speck is hit at its center, for want of a closer float; its normal there is no number, and the torch turns
    the white pixel black. -/
theorem lit_darker_speck : ∃ s,
    loadText brightSpeck {} = .ok s ∧ torch.Sound ∧ CanvasPoint.mk 0 0 ∈ s.canvas.points ∧
    s.shade ⟨0, 0⟩ = .ok ⟨255, 255, 255, 255⟩ ∧ (s.lit torch).shade ⟨0, 0⟩ = .ok ⟨0, 0, 0, 255⟩ := by
  have shown : Shows brightSpeck ⟨255, 255, 255, 255⟩ ⟨0, 0, 0, 255⟩ = true := by
    unfold brightSpeck onePixel whiteBall flatLight
    repeat rw [String.toList_ofList]
    decide +kernel
  obtain ⟨s, loaded, inside, shaded, shadedToo⟩ := exists_of_shows shown
  exact ⟨s, loaded, sound_torch, inside, shaded, shadedToo⟩

end Scene
end LitSpheres
