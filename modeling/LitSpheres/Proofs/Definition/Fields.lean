/-
  The block of a definition.

  1. **Program** — a block is given its meaning by looking up the effective values of names.

  2. **Specification** — a block that assigns to each name of a definition its value, once and in any place,
     means that definition if it is in range.  If it is not, the block means nothing.

  3. **The crux** — looking up names sees the pairs of names and values only, and in the block of a
     definition no name is assigned twice.
-/
import LitSpheres.Proofs.Definition.Writable

namespace LitSpheres

/-! ## Looking up names -/

namespace Block

variable {b : Block} {name : String}

/-- The names that a block assigns, with the values it assigns to them. -/
def pairs (b : Block) : List (String × Value) := b.assignments.map fun a => (a.name, a.value)

/-- The effective value of a name depends on the pairs only. -/
theorem value?_of_pairs {pairs : List (String × Value)} (h : b.pairs = pairs) (name : String) :
    b.value? name = (pairs.reverse.find? (·.1 == name)).map (·.2) := by
  subst h
  unfold value? Block.pairs
  rw [← List.map_reverse, List.find?_map, Option.map_map]
  rfl

/-- So does whether it has one. -/
theorem assigns_of_pairs {pairs : List (String × Value)} (h : b.pairs = pairs) (name : String) :
    b.assigns name = (pairs.reverse.find? (·.1 == name)).isSome := by
  unfold assigns
  rw [value?_of_pairs h, Option.isSome_map]

theorem checkNames_of_pairs {allowed : List String} (h : ∀ p ∈ b.pairs, p.1 ∈ allowed) :
    b.checkNames allowed = .ok () := by
  have known : b.stranger? allowed = none := by
    refine List.find?_eq_none.2 fun a ha => ?_
    have := h (a.name, a.value) (List.mem_map_of_mem ha)
    simpa using this
  unfold checkNames
  rw [known]

end Block

/-! ## The pairs of a definition -/

namespace Definition

/-- The kind of block that means definitions of this kind. -/
def kindName : Definition → String
  | window _ => "window"
  | light _ => "light"
  | sphere _ => "sphere"
  | bare => ""

/-- The names of a definition and their values, in the order in which they are written. -/
def fields : Definition → List (String × Value)
  | window w =>
    (w.title.map fun s => ("title", .text s)).toList ++ (w.width.map fun x => ("width", .number x)).toList ++
      (w.height.map fun x => ("height", .number x)).toList
  | light (.ambient i) => [("type", .text "ambient"), ("intensity", .number i)]
  | light (.point i v) => [("type", .text "point"), ("intensity", .number i), ("position", .triple v)]
  | light (.directional i v) =>
    [("type", .text "directional"), ("intensity", .number i), ("direction", .triple v)]
  | sphere s => [("color", .triple s.color), ("center", .triple s.center), ("radius", .number s.radius)]
  | bare => []

/-- A definition that can be written sets something. -/
theorem fields_ne_nil {d : Definition} (h : d.Writable) : d.fields ≠ [] := by
  obtain ⟨-, shape⟩ := h
  cases d with
  | window w =>
    obtain ⟨title, width, height⟩ := w
    obtain ⟨-, set⟩ := shape
    cases title <;> cases width <;> cases height <;> simp [fields] at set ⊢
  | light l => cases l <;> exact List.cons_ne_nil _ _
  | sphere s => exact List.cons_ne_nil _ _
  | bare => exact absurd shape id

end Definition

/-- The block has the kind and the pairs of the definition. -/
structure Block.Holds (b : Block) (d : Definition) : Prop where
  kind : b.kind = d.kindName
  pairs : b.pairs = d.fields

/-! ## What the block of a definition means -/

namespace Block

variable {b : Block}

/-- A side that is set is taken if it is at least one pixel. -/
theorem windowSide_eq {name : String} {o : Option Float} (h : b.value? name = o.map .number)
    (finite : ∀ x ∈ o, Binary64.isFinite x) :
    ((∀ x ∈ o, 1 ≤ x) → b.windowSide name = .ok o) ∧
      ((¬ ∀ x ∈ o, 1 ≤ x) → ∃ problem, b.windowSide name = .error problem) := by
  unfold windowSide
  rw [h]
  cases o with
  | none => exact ⟨fun _ => rfl, fun bad => absurd (by simp) bad⟩
  | some x =>
    have read : (Value.number x).toNumber name = .ok x := Value.toNumber_number (finite x rfl)
    have checked : (do let size ← (Value.number x).toNumber name
                       if size < 1 then .error (.windowSide name size) else .ok (some size)) =
        (if x < 1 then .error (.windowSide name x) else .ok (some x) :
          Except MeaningProblem (Option Float)) := by
      rw [read]
      rfl
    have small := Binary64.not_lt_iff (finite x rfl) isFinite_one
    constructor
    · intro range
      exact checked.trans (if_neg (small.2 (range x rfl)))
    · intro bad
      have low : x < 1 := by
        by_cases low : x < 1
        · exact low
        · refine absurd ?_ bad
          rintro y ⟨⟩
          exact small.1 low
      exact ⟨_, checked.trans (if_pos low)⟩

/-- In the block of a window the effective values are those that the window sets. -/
theorem values_of_window {w : Window} (h : b.pairs = (Definition.window w).fields) :
    b.checkNames ["width", "height", "title"] = .ok () ∧ b.value? "title" = w.title.map .text ∧
      b.value? "width" = w.width.map .number ∧ b.value? "height" = w.height.map .number := by
  obtain ⟨title, width, height⟩ := w
  refine ⟨checkNames_of_pairs fun p hp => ?_, ?_⟩
  · rw [h] at hp
    cases title <;> cases width <;> cases height <;> simp [Definition.fields] at hp ⊢ <;> grind
  · -- each of the three is found, or passed by, whatever of the others is set
    rw [value?_of_pairs h, value?_of_pairs h, value?_of_pairs h]
    cases title <;> cases width <;> cases height <;> simp [Definition.fields]

theorem toWindow_of_fields {w : Window} (h : b.pairs = (Definition.window w).fields)
    (finite : ∀ x ∈ (Definition.window w).numbers, Binary64.isFinite x) :
    ((Definition.window w).InRange → b.toWindow = .ok w) ∧
      (¬ (Definition.window w).InRange → ∃ problem, b.toWindow = .error problem) := by
  obtain ⟨names, titleValue, widthValue, heightValue⟩ := values_of_window h
  obtain ⟨title, width, height⟩ := w
  have titleRead : b.windowTitle = .ok title := by
    unfold windowTitle
    rw [titleValue]
    cases title <;> rfl
  obtain ⟨widthGood, widthBad⟩ := windowSide_eq widthValue fun x hx =>
    finite x (List.mem_append_left _ (Option.mem_toList.2 hx))
  obtain ⟨heightGood, heightBad⟩ := windowSide_eq heightValue fun x hx =>
    finite x (List.mem_append_right _ (Option.mem_toList.2 hx))
  rw [toWindow_eq, names, titleRead]
  constructor
  · rintro ⟨widthRange, heightRange⟩
    rw [widthGood widthRange, heightGood heightRange]
    rfl
  · intro bad
    by_cases widthRange : ∀ x ∈ width, 1 ≤ x
    · obtain ⟨problem, failed⟩ := heightBad fun heightRange => bad ⟨widthRange, heightRange⟩
      rw [widthGood widthRange, failed]
      exact ⟨problem, rfl⟩
    · obtain ⟨problem, failed⟩ := widthBad widthRange
      rw [failed]
      exact ⟨problem, rfl⟩

/-- No light has a name that a light cannot have. -/
theorem checkNames_of_light {l : Light} (h : b.pairs = (Definition.light l).fields) :
    b.checkNames ["type", "intensity", "position", "direction"] = .ok () := by
  refine checkNames_of_pairs ?_
  rw [h]
  cases l <;> simp [Definition.fields]

/-- Reading a light, once its type and its intensity are known to be there. -/
theorem toLight_of_values {type : String} {i : Float}
    (names : b.checkNames ["type", "intensity", "position", "direction"] = .ok ())
    (ht : b.value? "type" = some (.text type)) (hi : b.value? "intensity" = some (.number i))
    (finite : Binary64.isFinite i) :
    b.toLight =
      if i < 0 then .error (.negativeIntensity i)
      else if type = "ambient" then
        if b.assigns "position" || b.assigns "direction" then .error .ambientPlaced else .ok (.ambient i)
      else if type = "point" then (b.placement "point" "position" "direction").map (Light.point i)
      else if type = "directional" then
        (b.placement "directional" "direction" "position").map (Light.directional i)
      else .error (.unknownLight type) := by
  unfold toLight
  rw [names, ht, hi]
  simp only [Value.toText, Value.toNumber_number finite, bind, Except.bind]

theorem placement_of_values {type needed refused : String} {v : Vec3 Float}
    (h : b.value? needed = some (.triple v)) (other : b.assigns refused = false) (finite : v.Finite) :
    b.placement type needed refused = .ok v := by
  unfold placement
  rw [h, other]
  exact Value.toTriple_triple finite

theorem toLight_of_fields {l : Light} (h : b.pairs = (Definition.light l).fields)
    (finite : ∀ x ∈ (Definition.light l).numbers, Binary64.isFinite x) :
    b.toLight = if l.intensity < 0 then .error (.negativeIntensity l.intensity) else .ok l := by
  have names := checkNames_of_light h
  cases l with
  | ambient i =>
    rw [toLight_of_values names (value?_of_pairs h _) (value?_of_pairs h _) (finite i List.mem_cons_self),
      assigns_of_pairs h, assigns_of_pairs h]
    rfl
  | point i v =>
    have placed : b.placement "point" "position" "direction" = .ok v :=
      placement_of_values (value?_of_pairs h _) (assigns_of_pairs h _)
        fun x hx => finite x (List.mem_cons_of_mem _ hx)
    rw [toLight_of_values names (value?_of_pairs h _) (value?_of_pairs h _) (finite i List.mem_cons_self),
      placed]
    rfl
  | directional i v =>
    have placed : b.placement "directional" "direction" "position" = .ok v :=
      placement_of_values (value?_of_pairs h _) (assigns_of_pairs h _)
        fun x hx => finite x (List.mem_cons_of_mem _ hx)
    rw [toLight_of_values names (value?_of_pairs h _) (value?_of_pairs h _) (finite i List.mem_cons_self),
      placed]
    rfl

theorem toSphere_of_fields {s : SphereSpec} (h : b.pairs = (Definition.sphere s).fields)
    (finite : ∀ x ∈ (Definition.sphere s).numbers, Binary64.isFinite x) :
    b.toSphere = if s.radius ≤ 0 then .error (.flatSphere s.radius) else .ok s := by
  have names : ∀ p ∈ b.pairs, p.1 ∈ ["color", "center", "radius"] := by
    rw [h]
    simp [Definition.fields]
  have color : s.color.Finite := fun x hx => finite x (List.mem_append_left _ (List.mem_append_left _ hx))
  have center : s.center.Finite := fun x hx => finite x (List.mem_append_left _ (List.mem_append_right _ hx))
  have radius : Binary64.isFinite s.radius := finite _ (List.mem_append_right _ List.mem_cons_self)
  have colorValue : b.value? "color" = some (.triple s.color) := value?_of_pairs h _
  have centerValue : b.value? "center" = some (.triple s.center) := value?_of_pairs h _
  have radiusValue : b.value? "radius" = some (.number s.radius) := value?_of_pairs h _
  unfold toSphere
  simp only [checkNames_of_pairs names, colorValue, centerValue, radiusValue, Value.toNumber_number radius,
    Value.toTriple_triple color, Value.toTriple_triple center, bind, Except.bind]

end Block

namespace Definition

variable {b : Block}

theorem ofBlock_window (h : b.kind = "window") : ofBlock b = b.toWindow.map window := if_pos h

theorem ofBlock_light (h : b.kind = "light") : ofBlock b = b.toLight.map light := by
  unfold ofBlock
  rw [h]
  rfl

theorem ofBlock_sphere (h : b.kind = "sphere") : ofBlock b = b.toSphere.map sphere := by
  unfold ofBlock
  rw [h]
  rfl

/-- **The block of a definition** means it if it is in range, and nothing if it is not. -/
theorem ofBlock_of_holds {d : Definition} (h : b.Holds d) (writable : d.Writable) :
    (d.InRange → ofBlock b = .ok d) ∧ (¬ d.InRange → ∃ problem, ofBlock b = .error problem) := by
  obtain ⟨finite, shape⟩ := writable
  cases d with
  | window w =>
    rw [ofBlock_window h.kind]
    obtain ⟨good, bad⟩ := Block.toWindow_of_fields h.pairs finite
    constructor
    · intro range
      exact congrArg (Except.map window) (good range)
    · intro range
      obtain ⟨problem, failed⟩ := bad range
      exact ⟨problem, congrArg (Except.map window) failed⟩
  | light l =>
    have intensity : Binary64.isFinite l.intensity := finite _ (by cases l <;> exact List.mem_cons_self)
    have negative := Binary64.not_lt_iff intensity isFinite_zero
    rw [ofBlock_light h.kind, Block.toLight_of_fields h.pairs finite]
    constructor
    · intro range
      rw [if_neg (negative.2 range)]
      rfl
    · intro range
      rw [if_pos (Classical.not_not.1 (mt negative.1 range))]
      exact ⟨_, rfl⟩
  | sphere s =>
    have radius : Binary64.isFinite s.radius := finite _ (List.mem_append_right _ List.mem_cons_self)
    have flat := Binary64.not_le_iff radius isFinite_zero
    rw [ofBlock_sphere h.kind, Block.toSphere_of_fields h.pairs finite]
    constructor
    · intro range
      rw [if_neg (flat.2 range)]
      rfl
    · intro range
      rw [if_pos (Classical.not_not.1 (mt flat.1 range))]
      exact ⟨_, rfl⟩
  | bare => exact absurd shape id

end Definition

end LitSpheres
