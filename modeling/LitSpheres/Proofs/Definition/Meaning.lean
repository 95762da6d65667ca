/-
  Which blocks mean a definition.

  1. **Program** — a block is looked at name by name: which names it may assign, which it must, and whether the
     values are of the right kind and in range.  The first check that fails names the problem.

  2. **Specification** — `Block.Means` says for each kind of definition what a block of it assigns, where only
     the last assignment of a name counts.  A block is read as a definition exactly if it means it, and a
     block that means none is refused with a problem that can be told.

  3. **The crux** — no check is made in vain and none is left out: every step succeeds exactly under its own
     condition, so the conditions of the steps together are those of the kind.
-/
import LitSpheres.Proofs.Definition.Fields
import LitSpheres.Proofs.Definition.Refused

namespace LitSpheres

/-! ## What a block says -/

namespace Block

/-- The last assignment of the name is of this value. -/
def Gives (b : Block) (name : String) (v : Value) : Prop :=
  ∃ before a after, b.assignments = before ++ a :: after ∧ a.name = name ∧ a.value = v ∧
    ∀ later ∈ after, later.name ≠ name

/-- No assignment is of the name. -/
def Omits (b : Block) (name : String) : Prop := ∀ a ∈ b.assignments, a.name ≠ name

/-- The last assignment of the name is of the value, or there is none if there is no value. -/
def Sets (b : Block) (name : String) : Option Value → Prop
  | some v => b.Gives name v
  | none => b.Omits name

theorem Sets.isSome {b : Block} {name : String} {o : Option Value} (h : b.Sets name o) {a : Assignment}
    (assigned : a ∈ b.assignments) (same : a.name = name) : o.isSome := by
  cases o with
  | none => exact absurd same (h a assigned)
  | some v => rfl

/-- All assignments are of the allowed names. -/
def Within (b : Block) (allowed : List String) : Prop := ∀ a ∈ b.assignments, a.name ∈ allowed

instance (b : Block) (name : String) : Decidable (b.Omits name) :=
  inferInstanceAs (Decidable (∀ a ∈ b.assignments, a.name ≠ name))

instance (b : Block) (allowed : List String) : Decidable (b.Within allowed) :=
  inferInstanceAs (Decidable (∀ a ∈ b.assignments, a.name ∈ allowed))

/-- The block is a light of the type, with an intensity that takes no light away. -/
structure IsLight (b : Block) (type : String) (intensity : Float) : Prop where
  kind : b.kind = "light"
  names : b.Within ["type", "intensity", "position", "direction"]
  typed : b.Gives "type" (.text type)
  lit : b.Gives "intensity" (.number intensity)
  finite : Binary64.isFinite intensity
  nonneg : 0 ≤ intensity

/-- The block places something by the one vector and not by the other. -/
structure Places (b : Block) (needed refused : String) (v : Vec3 Float) : Prop where
  given : b.Gives needed (.triple v)
  finite : v.Finite
  omitted : b.Omits refused

/-- **What a block means**, kind by kind: the names that it may assign, those that it must, and the range of
    their effective values. -/
inductive Means (b : Block) : Definition → Prop
  | window (w : Window) (kind : b.kind = "window") (names : b.Within ["width", "height", "title"])
      (titled : b.Sets "title" (w.title.map .text)) (wide : b.Sets "width" (w.width.map .number))
      (high : b.Sets "height" (w.height.map .number))
      (width : ∀ x ∈ w.width, Binary64.isFinite x ∧ 1 ≤ x)
      (height : ∀ x ∈ w.height, Binary64.isFinite x ∧ 1 ≤ x) : Means b (.window w)
  | ambient (i : Float) (light : b.IsLight "ambient" i) (unplaced : b.Omits "position")
      (undirected : b.Omits "direction") : Means b (.light (.ambient i))
  | point (i : Float) (v : Vec3 Float) (light : b.IsLight "point" i)
      (placed : b.Places "position" "direction" v) : Means b (.light (.point i v))
  | directional (i : Float) (v : Vec3 Float) (light : b.IsLight "directional" i)
      (directed : b.Places "direction" "position" v) : Means b (.light (.directional i v))
  | sphere (s : SphereSpec) (kind : b.kind = "sphere") (names : b.Within ["color", "center", "radius"])
      (colored : b.Gives "color" (.triple s.color)) (centered : b.Gives "center" (.triple s.center))
      (round : b.Gives "radius" (.number s.radius)) (color : s.color.Finite) (center : s.center.Finite)
      (finite : Binary64.isFinite s.radius) (radius : 0 < s.radius) : Means b (.sphere s)

/-! ## Looking up names -/

variable {b : Block} {name : String} {v : Value}

/-- Looking up a name from the end finds its last assignment. -/
theorem value?_eq_some_iff : b.value? name = some v ↔ b.Gives name v := by
  unfold value? Gives
  rw [Option.map_eq_some_iff]
  constructor
  · rintro ⟨a, found, rfl⟩
    obtain ⟨same, after, before, split, others⟩ := List.find?_eq_some_iff_append.1 found
    refine ⟨before.reverse, a, after.reverse, ?_, eq_of_beq same, rfl, fun later h => ?_⟩
    · rw [← List.reverse_reverse b.assignments, split]
      simp
    · simpa using others later (List.mem_reverse.1 h)
  · rintro ⟨before, a, after, split, rfl, rfl, others⟩
    refine ⟨a, List.find?_eq_some_iff_append.2
      ⟨beq_self_eq_true _, after.reverse, before.reverse, ?_, fun later h => ?_⟩, rfl⟩
    · rw [split]
      simp
    · simpa using others later (List.mem_reverse.1 h)

theorem value?_eq_none_iff : b.value? name = none ↔ b.Omits name := by
  unfold value? Omits
  rw [Option.map_eq_none_iff, List.find?_eq_none]
  simp

theorem sets_iff {o : Option Value} : b.Sets name o ↔ b.value? name = o := by
  cases o with
  | none => exact value?_eq_none_iff.symm
  | some v => exact value?_eq_some_iff.symm

theorem assigns_eq_false_iff : b.assigns name = false ↔ b.Omits name := by
  unfold assigns
  rw [Option.isSome_eq_false_iff, Option.isNone_iff_eq_none, value?_eq_none_iff]

/-- A name is omitted if it has no effective value. -/
theorem omits_iff : b.Omits name ↔ ∀ v, ¬ b.Gives name v := by
  rw [← value?_eq_none_iff, Option.eq_none_iff_forall_ne_some]
  exact forall_congr' fun v => not_congr value?_eq_some_iff

/-- Which names are assigned can be told from the effective values. -/
theorem within_iff {allowed : List String} :
    b.Within allowed ↔ ∀ name v, b.Gives name v → name ∈ allowed := by
  constructor
  · rintro h name v ⟨before, a, after, split, rfl, -, -⟩
    exact h a (split ▸ List.mem_append_right _ List.mem_cons_self)
  · intro h a ha
    obtain ⟨v, hv⟩ := Option.isSome_iff_exists.1 (assigns_of_mem ha)
    exact h a.name v (value?_eq_some_iff.1 hv)

/-! ## Every check succeeds under its own condition -/

theorem checkNames_eq_ok_iff {allowed : List String} :
    b.checkNames allowed = .ok () ↔ b.Within allowed := by
  refine ⟨fun h a ha => name_mem_of_checkNames h ha, fun h => checkNames_of_pairs fun p hp => ?_⟩
  obtain ⟨a, ha, rfl⟩ := List.mem_map.1 hp
  exact h a ha

theorem windowTitle_eq_ok_iff {o : Option String} :
    b.windowTitle = .ok o ↔ b.Sets "title" (o.map .text) := by
  rw [sets_iff]
  unfold windowTitle
  cases b.value? "title" with
  | none => cases o <;> simp
  | some v =>
    dsimp only
    rw [map_eq_ok_iff]
    simp only [Value.toText_eq_ok_iff]
    cases o <;> simp

theorem windowSide_eq_ok_iff {o : Option Float} :
    b.windowSide name = .ok o ↔
      b.Sets name (o.map .number) ∧ ∀ x ∈ o, Binary64.isFinite x ∧ 1 ≤ x := by
  rw [sets_iff]
  unfold windowSide
  cases b.value? name with
  | none => cases o <;> simp
  | some v =>
    dsimp only
    rw [bind_eq_ok_iff]
    constructor
    · rintro ⟨x, read, checked⟩
      obtain ⟨rfl, finite⟩ := Value.toNumber_ok read
      obtain ⟨large, same⟩ := guard_eq_ok_iff.1 checked
      obtain rfl := Except.ok.inj same
      refine ⟨rfl, ?_⟩
      rintro y ⟨⟩
      exact ⟨finite, (Binary64.not_lt_iff finite isFinite_one).1 large⟩
    · rintro ⟨set, good⟩
      cases o with
      | none => exact absurd set nofun
      | some x =>
        obtain rfl := Option.some.inj set
        obtain ⟨finite, large⟩ := good x rfl
        exact ⟨x, Value.toNumber_number finite,
          guard_eq_ok_iff.2 ⟨(Binary64.not_lt_iff finite isFinite_one).2 large, rfl⟩⟩

theorem placement_eq_ok_iff {type needed refused : String} {t : Vec3 Float} :
    b.placement type needed refused = .ok t ↔ b.Places needed refused t := by
  have given : b.Places needed refused t ↔
      b.value? needed = some (.triple t) ∧ t.Finite ∧ b.assigns refused = false := by
    rw [value?_eq_some_iff, assigns_eq_false_iff]
    exact ⟨fun ⟨h₁, h₂, h₃⟩ => ⟨h₁, h₂, h₃⟩, fun ⟨h₁, h₂, h₃⟩ => ⟨h₁, h₂, h₃⟩⟩
  rw [given]
  unfold placement
  cases b.value? needed with
  | none => simp
  | some v =>
    dsimp only
    rw [guard_eq_ok_iff, Value.toTriple_eq_ok_iff, Option.some.injEq, Bool.not_eq_true]
    exact ⟨fun ⟨h₁, h₂, h₃⟩ => ⟨h₂, h₃, h₁⟩, fun ⟨h₂, h₃, h₁⟩ => ⟨h₁, h₂, h₃⟩⟩

/-! ## The three kinds -/

theorem toWindow_eq_ok_iff {w : Window} :
    b.toWindow = .ok w ↔ b.Within ["width", "height", "title"] ∧ b.Sets "title" (w.title.map .text) ∧
      (b.Sets "width" (w.width.map .number) ∧ ∀ x ∈ w.width, Binary64.isFinite x ∧ 1 ≤ x) ∧
      (b.Sets "height" (w.height.map .number) ∧ ∀ x ∈ w.height, Binary64.isFinite x ∧ 1 ≤ x) := by
  rw [toWindow_eq, ← checkNames_eq_ok_iff, ← windowTitle_eq_ok_iff, ← windowSide_eq_ok_iff,
    ← windowSide_eq_ok_iff]
  simp only [bind_eq_ok_iff]
  constructor
  · rintro ⟨_, names, title, readTitle, width, readWidth, height, readHeight, same⟩
    obtain rfl := Except.ok.inj same
    exact ⟨names, readTitle, readWidth, readHeight⟩
  · rintro ⟨names, readTitle, readWidth, readHeight⟩
    exact ⟨(), names, w.title, readTitle, w.width, readWidth, w.height, readHeight, rfl⟩

/-- The light of a type and an intensity that are known. -/
def lightOfType (b : Block) (type : String) (intensity : Float) : Except MeaningProblem Light :=
  if type = "ambient" then
    if b.assigns "position" || b.assigns "direction" then .error .ambientPlaced
    else .ok (.ambient intensity)
  else if type = "point" then
    (b.placement "point" "position" "direction").map (Light.point intensity)
  else if type = "directional" then
    (b.placement "directional" "direction" "position").map (Light.directional intensity)
  else .error (.unknownLight type)

theorem toLight_eq_ok_iff {l : Light} :
    b.toLight = .ok l ↔ b.Within ["type", "intensity", "position", "direction"] ∧
      ∃ type i, b.Gives "type" (.text type) ∧ b.Gives "intensity" (.number i) ∧ Binary64.isFinite i ∧
        0 ≤ i ∧ b.lightOfType type i = .ok l := by
  constructor
  · intro h
    obtain ⟨_, names, h⟩ := exists_of_bind_ok h
    cases ht : b.value? "type" with
    | none =>
      rw [ht] at h
      exact absurd h nofun
    | some typeValue =>
      cases hi : b.value? "intensity" with
      | none =>
        rw [ht, hi] at h
        exact absurd h nofun
      | some intensityValue =>
        rw [ht, hi] at h
        obtain ⟨type, readType, h⟩ := exists_of_bind_ok h
        obtain ⟨i, readIntensity, h⟩ := exists_of_bind_ok h
        obtain ⟨nonneg, placed⟩ := guard_eq_ok_iff.1 h
        obtain rfl := Value.toText_ok readType
        obtain ⟨rfl, finite⟩ := Value.toNumber_ok readIntensity
        exact ⟨checkNames_eq_ok_iff.1 names, type, i, value?_eq_some_iff.1 ht, value?_eq_some_iff.1 hi,
          finite, (Binary64.not_lt_iff finite isFinite_zero).1 nonneg, placed⟩
  · rintro ⟨names, type, i, typed, lit, finite, nonneg, placed⟩
    rw [toLight_of_values (checkNames_eq_ok_iff.2 names) (value?_eq_some_iff.2 typed)
      (value?_eq_some_iff.2 lit) finite]
    exact guard_eq_ok_iff.2 ⟨(Binary64.not_lt_iff finite isFinite_zero).2 nonneg, placed⟩

theorem lightOfType_eq_ok_iff {type : String} {i : Float} {l : Light} :
    b.lightOfType type i = .ok l ↔
      (type = "ambient" ∧ (b.Omits "position" ∧ b.Omits "direction") ∧ .ambient i = l) ∨
      (type = "point" ∧ ∃ v, b.Places "position" "direction" v ∧ .point i v = l) ∨
      (type = "directional" ∧ ∃ v, b.Places "direction" "position" v ∧ .directional i v = l) := by
  unfold lightOfType
  by_cases ambient : type = "ambient"
  · subst ambient
    rw [if_pos rfl, guard_eq_ok_iff, Bool.not_eq_true, Bool.or_eq_false_iff, assigns_eq_false_iff,
      assigns_eq_false_iff]
    simp
  rw [if_neg ambient]
  by_cases point : type = "point"
  · subst point
    rw [if_pos rfl, map_eq_ok_iff]
    simp [placement_eq_ok_iff]
  rw [if_neg point]
  by_cases directional : type = "directional"
  · subst directional
    rw [if_pos rfl, map_eq_ok_iff]
    simp [placement_eq_ok_iff]
  · rw [if_neg directional]
    simp [ambient, point, directional]

theorem toSphere_eq_ok_iff {s : SphereSpec} :
    b.toSphere = .ok s ↔ b.Within ["color", "center", "radius"] ∧ b.Gives "color" (.triple s.color) ∧
      b.Gives "center" (.triple s.center) ∧ b.Gives "radius" (.number s.radius) ∧ s.color.Finite ∧
      s.center.Finite ∧ Binary64.isFinite s.radius ∧ 0 < s.radius := by
  constructor
  · intro h
    obtain ⟨_, names, h⟩ := exists_of_bind_ok h
    cases hc : b.value? "color" with
    | none =>
      rw [hc] at h
      exact absurd h nofun
    | some colorValue =>
      cases hm : b.value? "center" with
      | none =>
        rw [hc, hm] at h
        exact absurd h nofun
      | some centerValue =>
        cases hr : b.value? "radius" with
        | none =>
          rw [hc, hm, hr] at h
          exact absurd h nofun
        | some radiusValue =>
          rw [hc, hm, hr] at h
          obtain ⟨radius, readRadius, h⟩ := exists_of_bind_ok h
          obtain ⟨round, h⟩ := guard_eq_ok_iff.1 h
          obtain ⟨color, readColor, h⟩ := exists_of_bind_ok h
          obtain ⟨center, readCenter, h⟩ := exists_of_bind_ok h
          obtain rfl := Except.ok.inj h
          obtain ⟨rfl, finite⟩ := Value.toNumber_ok readRadius
          obtain ⟨rfl, colorFinite⟩ := Value.toTriple_ok readColor
          obtain ⟨rfl, centerFinite⟩ := Value.toTriple_ok readCenter
          exact ⟨checkNames_eq_ok_iff.1 names, value?_eq_some_iff.1 hc, value?_eq_some_iff.1 hm,
            value?_eq_some_iff.1 hr, colorFinite, centerFinite, finite,
            (Binary64.not_le_iff finite isFinite_zero).1 round⟩
  · rintro ⟨names, color, center, radius, colorFinite, centerFinite, finite, round⟩
    unfold toSphere
    simp only [checkNames_eq_ok_iff.2 names, value?_eq_some_iff.2 color, value?_eq_some_iff.2 center,
      value?_eq_some_iff.2 radius, Value.toNumber_number finite, Value.toTriple_triple colorFinite,
      Value.toTriple_triple centerFinite, bind, Except.bind,
      if_neg ((Binary64.not_le_iff finite isFinite_zero).2 round)]

/-! ## Meanings of blocks -/

theorem means_window_iff {w : Window} : b.Means (.window w) ↔ b.kind = "window" ∧ b.toWindow = .ok w := by
  rw [toWindow_eq_ok_iff]
  constructor
  · rintro ⟨_, kind, names, titled, wide, high, width, height⟩
    exact ⟨kind, names, titled, ⟨wide, width⟩, high, height⟩
  · rintro ⟨kind, names, titled, ⟨wide, width⟩, high, height⟩
    exact .window w kind names titled wide high width height

theorem means_light_iff {l : Light} : b.Means (.light l) ↔ b.kind = "light" ∧ b.toLight = .ok l := by
  rw [toLight_eq_ok_iff]
  simp only [lightOfType_eq_ok_iff]
  constructor
  · rintro (_ | ⟨i, light, unplaced, undirected⟩ | ⟨i, v, light, placed⟩ | ⟨i, v, light, directed⟩)
    · exact ⟨light.kind, light.names, "ambient", i, light.typed, light.lit, light.finite, light.nonneg,
        .inl ⟨rfl, ⟨unplaced, undirected⟩, rfl⟩⟩
    · exact ⟨light.kind, light.names, "point", i, light.typed, light.lit, light.finite, light.nonneg,
        .inr (.inl ⟨rfl, v, placed, rfl⟩)⟩
    · exact ⟨light.kind, light.names, "directional", i, light.typed, light.lit, light.finite, light.nonneg,
        .inr (.inr ⟨rfl, v, directed, rfl⟩)⟩
  · rintro ⟨kind, names, type, i, typed, lit, finite, nonneg, shape⟩
    have light : b.IsLight type i := ⟨kind, names, typed, lit, finite, nonneg⟩
    rcases shape with ⟨rfl, ⟨unplaced, undirected⟩, rfl⟩ | ⟨rfl, v, placed, rfl⟩ | ⟨rfl, v, directed, rfl⟩
    · exact .ambient i light unplaced undirected
    · exact .point i v light placed
    · exact .directional i v light directed

theorem means_sphere_iff {s : SphereSpec} : b.Means (.sphere s) ↔ b.kind = "sphere" ∧ b.toSphere = .ok s := by
  rw [toSphere_eq_ok_iff]
  constructor
  · rintro (_ | _ | _ | _ | ⟨_, kind, names, colored, centered, round, color, center, finite, radius⟩)
    exact ⟨kind, names, colored, centered, round, color, center, finite, radius⟩
  · rintro ⟨kind, names, colored, centered, round, color, center, finite, radius⟩
    exact .sphere s kind names colored centered round color center finite radius

/-- A meaning is told by the kind and the effective values. -/
theorem Means.congr {c : Block} {d : Definition} (h : b.Means d) (kind : c.kind = b.kind)
    (gives : ∀ name v, c.Gives name v ↔ b.Gives name v) : c.Means d := by
  have omits (name : String) (h : b.Omits name) : c.Omits name :=
    omits_iff.2 fun v given => omits_iff.1 h v ((gives name v).1 given)
  have within (allowed : List String) (h : b.Within allowed) : c.Within allowed :=
    within_iff.2 fun name v given => within_iff.1 h name v ((gives name v).1 given)
  have sets (name : String) (o : Option Value) (h : b.Sets name o) : c.Sets name o := by
    cases o with
    | none => exact omits name h
    | some v => exact (gives name v).2 h
  have light {type : String} {i : Float} (h : b.IsLight type i) : c.IsLight type i :=
    ⟨kind.trans h.kind, within _ h.names, (gives _ _).2 h.typed, (gives _ _).2 h.lit, h.finite, h.nonneg⟩
  have places {needed refused : String} {t : Vec3 Float} (h : b.Places needed refused t) :
      c.Places needed refused t :=
    ⟨(gives _ _).2 h.given, h.finite, omits _ h.omitted⟩
  cases h with
  | window w own names titled wide high width height =>
    exact .window w (kind.trans own) (within _ names) (sets _ _ titled) (sets _ _ wide) (sets _ _ high)
      width height
  | ambient i lit unplaced undirected => exact .ambient i (light lit) (omits _ unplaced) (omits _ undirected)
  | point i v lit placed => exact .point i v (light lit) (places placed)
  | directional i v lit directed => exact .directional i v (light lit) (places directed)
  | sphere s own names colored centered round color center finite radius =>
    exact .sphere s (kind.trans own) (within _ names) ((gives _ _).2 colored) ((gives _ _).2 centered)
      ((gives _ _).2 round) color center finite radius

end Block

/-! ## What a block means can be written -/

namespace Block.Means

variable {b : Block} {d : Definition}

theorem numbers_finite (h : b.Means d) : ∀ x ∈ d.numbers, Binary64.isFinite x := by
  cases h with
  | window w _ _ _ _ _ width height =>
    exact List.forall_mem_append.2 ⟨fun x hx => (width x (Option.mem_toList.1 hx)).1,
      fun x hx => (height x (Option.mem_toList.1 hx)).1⟩
  | ambient i light => exact List.forall_mem_singleton.2 light.finite
  | point i v light placed => exact List.forall_mem_cons.2 ⟨light.finite, placed.finite⟩
  | directional i v light directed => exact List.forall_mem_cons.2 ⟨light.finite, directed.finite⟩
  | sphere s _ _ _ _ _ color center finite =>
    exact List.forall_mem_append.2 ⟨List.forall_mem_append.2 ⟨color, center⟩,
      List.forall_mem_singleton.2 finite⟩

theorem inRange (h : b.Means d) : d.InRange := by
  cases h with
  | window w _ _ _ _ _ width height => exact ⟨fun x hx => (width x hx).2, fun x hx => (height x hx).2⟩
  | ambient i light => exact light.nonneg
  | point i v light => exact light.nonneg
  | directional i v light => exact light.nonneg
  | sphere s _ _ _ _ _ _ _ _ radius => exact radius

theorem writable (h : b.Means d) (nonempty : b.assignments ≠ [])
    (plain : ∀ a ∈ b.assignments, ∀ s, a.value = .text s → '"' ∉ s.toList) : d.Writable := by
  refine ⟨h.numbers_finite, ?_⟩
  cases h with
  | window w _ names titled wide high =>
    refine ⟨fun s hs => ?_, ?_⟩
    · rw [Option.mem_def.1 hs] at titled
      obtain ⟨before, a, after, split, -, value, -⟩ := titled
      exact plain a (split ▸ List.mem_append_right _ List.mem_cons_self) s value
    · -- the first assignment has one of the three names, so what it names is set
      obtain ⟨a, others, split⟩ := List.exists_cons_of_ne_nil nonempty
      have first : a ∈ b.assignments := split ▸ List.mem_cons_self
      have known := names a first
      simp only [List.mem_cons, List.not_mem_nil, or_false] at known
      rcases known with name | name | name
      · exact .inr (.inl (Option.isSome_map.symm.trans (wide.isSome first name)))
      · exact .inr (.inr (Option.isSome_map.symm.trans (high.isSome first name)))
      · exact .inl (Option.isSome_map.symm.trans (titled.isSome first name))
  | ambient | point | directional | sphere => trivial

end Block.Means

namespace Definition

variable {b : Block} {d : Definition}

theorem ofBlock_eq_ok_iff : ofBlock b = .ok d ↔ b.Means d := by
  constructor
  · intro h
    by_cases window : b.kind = "window"
    · rw [ofBlock_window window] at h
      obtain ⟨w, read, rfl⟩ := exists_of_map_ok h
      exact Block.means_window_iff.2 ⟨window, read⟩
    by_cases light : b.kind = "light"
    · rw [ofBlock_light light] at h
      obtain ⟨l, read, rfl⟩ := exists_of_map_ok h
      exact Block.means_light_iff.2 ⟨light, read⟩
    by_cases sphere : b.kind = "sphere"
    · rw [ofBlock_sphere sphere] at h
      obtain ⟨s, read, rfl⟩ := exists_of_map_ok h
      exact Block.means_sphere_iff.2 ⟨sphere, read⟩
    · unfold ofBlock at h
      rw [if_neg window, if_neg light, if_neg sphere] at h
      exact absurd h nofun
  · intro h
    cases d with
    | window w =>
      obtain ⟨kind, read⟩ := Block.means_window_iff.1 h
      rw [ofBlock_window kind, read]
      rfl
    | light l =>
      obtain ⟨kind, read⟩ := Block.means_light_iff.1 h
      rw [ofBlock_light kind, read]
      rfl
    | sphere s =>
      obtain ⟨kind, read⟩ := Block.means_sphere_iff.1 h
      rw [ofBlock_sphere kind, read]
      rfl
    | bare => exact absurd h nofun

/-- **What a block is read as can be written, and is in range**, if the texts it assigns hold no double
    quotes. -/
theorem ofBlock_ok (h : ofBlock b = .ok d) (nonempty : b.assignments ≠ [])
    (plain : ∀ a ∈ b.assignments, ∀ s, a.value = .text s → '"' ∉ s.toList) : d.Writable ∧ d.InRange :=
  have means := ofBlock_eq_ok_iff.1 h
  ⟨means.writable nonempty plain, means.inRange⟩

theorem toOption_ofBlock_eq_some_iff : (ofBlock b).toOption = some d ↔ b.Means d := by
  rw [← ofBlock_eq_ok_iff]
  cases ofBlock b with
  | error problem => exact ⟨nofun, nofun⟩
  | ok e => exact ⟨fun h => congrArg _ (Option.some.inj h), fun h => congrArg _ (Except.ok.inj h)⟩

/-- **A block is accepted exactly if it means a definition**, which it is then read as.  A block that means none
    is refused with a problem whose message can be written.  So the outcome is told by the kind and by the
    last assignment of each name: blocks that agree on these are read as the same definition, or both
    refused. -/
theorem ofBlock_iff_means (b : Block) :
    (∀ d, ofBlock b = .ok d ↔ b.Means d) ∧
    ((∀ d, ¬ b.Means d) → ∃ problem, ofBlock b = .error problem ∧ problem.Sayable) ∧
    ∀ c : Block, c.kind = b.kind → (∀ name v, c.Gives name v ↔ b.Gives name v) →
      (ofBlock c).toOption = (ofBlock b).toOption := by
  refine ⟨fun d => ofBlock_eq_ok_iff, fun meaningless => ?_, fun c kind gives => Option.ext fun d => ?_⟩
  · cases h : ofBlock b with
    | error problem => exact ⟨problem, rfl, ofBlock_sayably b problem h⟩
    | ok d => exact absurd (ofBlock_eq_ok_iff.1 h) (meaningless d)
  · rw [toOption_ofBlock_eq_some_iff, toOption_ofBlock_eq_some_iff]
    exact ⟨fun h => h.congr kind.symm fun name v => (gives name v).symm, fun h => h.congr kind gives⟩

/-- A light whose first intensity is no number and whose first place is a text; both are assigned again. -/
def relit : Block :=
  { kind := "light"
    assignments := [⟨"intensity", .number (0 / 0), {}⟩, ⟨"position", .text "here", {}⟩,
      ⟨"type", .text "point", {}⟩, ⟨"position", .triple ⟨1, -2, 0.5⟩, {}⟩, ⟨"intensity", .number 0.25, {}⟩] }

theorem ofBlock_iff_means_relit :
    relit.Means (.light (.point 0.25 ⟨1, -2, 0.5⟩)) ∧
      ofBlock relit = .ok (.light (.point 0.25 ⟨1, -2, 0.5⟩)) := by
  have typed : relit.Gives "type" (.text "point") := Block.value?_eq_some_iff.1 rfl
  have lit : relit.Gives "intensity" (.number 0.25) := Block.value?_eq_some_iff.1 rfl
  have given : relit.Gives "position" (.triple ⟨1, -2, 0.5⟩) := Block.value?_eq_some_iff.1 rfl
  have light : relit.IsLight "point" 0.25 :=
    ⟨rfl, by decide, typed, lit, by decide +kernel, by decide +kernel⟩
  have placed : relit.Places "position" "direction" ⟨1, -2, 0.5⟩ :=
    ⟨given, Vec3.finite_iff.2 (by decide +kernel), by decide⟩
  have means : relit.Means (.light (.point 0.25 ⟨1, -2, 0.5⟩)) := .point _ _ light placed
  exact ⟨means, ((ofBlock_iff_means relit).1 _).2 means⟩

end Definition

end LitSpheres
