/-
  Which definitions can be written, and the steps by which a block is read.

  1. **Program** — a block is read by looking up values, checking their kinds, and comparing numbers; each
     step may fail.  A definition is written if it is of one of the kinds and its numbers are finite.

  2. **Specification** — a step that succeeds leaves its condition behind: the value was of the wanted kind,
     its numbers are finite, and all names are known.

  3. **The crux** — what a text can be written for and what a text can be read as are conditions on the
     definition alone, so they can be stated, and decided, without the writer and the reader.
-/
import LitSpheres.Definition
import LitSpheres.Proofs.Binary64.Bits

namespace LitSpheres

/-! ## Steps that may fail -/

section

variable {ε α β : Type} {x : Except ε α} {f : α → Except ε β} {b : β}

theorem exists_of_bind_ok (h : (x >>= f) = .ok b) : ∃ a, x = .ok a ∧ f a = .ok b := by
  cases x with
  | error problem => exact absurd h (by simp [bind, Except.bind])
  | ok a => exact ⟨a, rfl, h⟩

theorem exists_of_map_ok {g : α → β} (h : x.map g = .ok b) : ∃ a, x = .ok a ∧ g a = b := by
  cases x with
  | error problem => exact absurd h (by simp [Except.map])
  | ok a => exact ⟨a, rfl, Except.ok.inj h⟩

theorem bind_eq_ok_iff {f : α → Except ε β} : (x >>= f) = .ok b ↔ ∃ a, x = .ok a ∧ f a = .ok b := by
  refine ⟨exists_of_bind_ok, ?_⟩
  rintro ⟨a, rfl, h⟩
  exact h

theorem map_eq_ok_iff {f : α → β} : x.map f = .ok b ↔ ∃ a, x = .ok a ∧ f a = b := by
  refine ⟨exists_of_map_ok, ?_⟩
  rintro ⟨a, rfl, rfl⟩
  rfl

/-- A guard is passed if there is no reason to refuse. -/
theorem guard_eq_ok_iff {c : Prop} [Decidable c] {problem : ε} {a : α} :
    (if c then .error problem else x) = .ok a ↔ ¬ c ∧ x = .ok a := by
  by_cases h : c
  · rw [if_pos h]
    exact ⟨nofun, fun ⟨passed, _⟩ => absurd h passed⟩
  · rw [if_neg h]
    exact ⟨fun ok => ⟨h, ok⟩, fun ⟨_, ok⟩ => ok⟩

theorem ok_of_mapError {κ : Type} {g : ε → κ} {a : α} (h : x.mapError g = .ok a) : x = .ok a := by
  cases x with
  | error problem => exact absurd h nofun
  | ok other => exact congrArg Except.ok (Except.ok.inj h)

theorem error_of_mapError {κ : Type} {g : ε → κ} {k : κ} (h : x.mapError g = .error k) :
    ∃ problem, x = .error problem ∧ g problem = k := by
  cases x with
  | error problem => exact ⟨problem, rfl, Except.error.inj h⟩
  | ok a => exact absurd h nofun

theorem exists_of_isOk (h : x.isOk = true) : ∃ a, x = .ok a := by
  cases x with
  | error problem => exact absurd h nofun
  | ok a => exact ⟨a, rfl⟩

end

/-! ## Conditions -/

/-- All components are finite. -/
def Vec3.Finite (v : Vec3 Float) : Prop := ∀ x ∈ v.toList, Binary64.isFinite x

theorem Vec3.finite_iff {v : Vec3 Float} :
    v.Finite ↔ Binary64.isFinite v.x ∧ Binary64.isFinite v.y ∧ Binary64.isFinite v.z := by
  simp [Finite, toList]

namespace Definition

/-- The numbers of a definition. -/
def numbers : Definition → List Float
  | window w => w.width.toList ++ w.height.toList
  | light (.ambient i) => [i]
  | light (.point i v) | light (.directional i v) => i :: v.toList
  | sphere s => s.color.toList ++ s.center.toList ++ [s.radius]
  | bare => []

/-- What a text can be written for: a definition of one of the kinds, with finite numbers only and no double
    quote in its title, that sets something. -/
def Writable (d : Definition) : Prop :=
  (∀ x ∈ d.numbers, Binary64.isFinite x) ∧
  match d with
  | window w => (∀ s ∈ w.title, '"' ∉ s.toList) ∧ (w.title.isSome ∨ w.width.isSome ∨ w.height.isSome)
  | light _ | sphere _ => True
  | bare => False

/-- What a text can be read as: the sides of a window are at least one pixel, lights take no light away, and
    spheres are not flat. -/
def InRange : Definition → Prop
  | window w => (∀ x ∈ w.width, 1 ≤ x) ∧ ∀ x ∈ w.height, 1 ≤ x
  | light l => 0 ≤ l.intensity
  | sphere s => 0 < s.radius
  | bare => True

instance (d : Definition) : Decidable d.Writable :=
  match d with
  | window w => inferInstanceAs (Decidable ((∀ x ∈ (window w).numbers, Binary64.isFinite x) ∧
      (∀ s ∈ w.title, '"' ∉ s.toList) ∧ (w.title.isSome ∨ w.width.isSome ∨ w.height.isSome)))
  | light l => inferInstanceAs (Decidable ((∀ x ∈ (light l).numbers, Binary64.isFinite x) ∧ True))
  | sphere s => inferInstanceAs (Decidable ((∀ x ∈ (sphere s).numbers, Binary64.isFinite x) ∧ True))
  | bare => inferInstanceAs (Decidable ((∀ x ∈ numbers bare, Binary64.isFinite x) ∧ False))

instance (d : Definition) : Decidable d.InRange :=
  match d with
  | window w => inferInstanceAs (Decidable ((∀ x ∈ w.width, 1 ≤ x) ∧ ∀ x ∈ w.height, 1 ≤ x))
  | light l => inferInstanceAs (Decidable (0 ≤ l.intensity))
  | sphere s => inferInstanceAs (Decidable (0 < s.radius))
  | bare => inferInstanceAs (Decidable True)

end Definition

theorem isFinite_one : Binary64.isFinite 1 := by decide +kernel

theorem isFinite_zero : Binary64.isFinite 0 := by decide +kernel

/-! ## Values of the wanted kind -/

namespace Value

variable {v : Value} {name : String}

theorem toNumber_number {x : Float} (h : Binary64.isFinite x) : (number x).toNumber name = .ok x := if_pos h

theorem toTriple_triple {t : Vec3 Float} (h : t.Finite) : (triple t).toTriple name = .ok t :=
  if_pos (List.all_eq_true.2 h)

theorem toNumber_ok {x : Float} (h : v.toNumber name = .ok x) : v = .number x ∧ Binary64.isFinite x := by
  cases v with
  | number y =>
    by_cases finite : Binary64.isFinite y
    · obtain rfl := Except.ok.inj ((toNumber_number finite).symm.trans h)
      exact ⟨rfl, finite⟩
    · have refused : (number y).toNumber name = .error (.notFinite name) := if_neg finite
      exact absurd (refused.symm.trans h) (by simp)
  | text s => exact absurd h (by simp [toNumber])
  | triple t => exact absurd h (by simp [toNumber])

theorem toText_ok {s : String} (h : v.toText name = .ok s) : v = .text s := by
  cases v with
  | number y => exact absurd h (by simp [toText])
  | text t =>
    obtain rfl := Except.ok.inj h
    rfl
  | triple t => exact absurd h (by simp [toText])

theorem toTriple_ok {t : Vec3 Float} (h : v.toTriple name = .ok t) : v = .triple t ∧ t.Finite := by
  cases v with
  | number y => exact absurd h (by simp [toTriple])
  | text s => exact absurd h (by simp [toTriple])
  | triple u =>
    by_cases finite : u.Finite
    · obtain rfl := Except.ok.inj ((toTriple_triple finite).symm.trans h)
      exact ⟨rfl, finite⟩
    · have refused : (triple u).toTriple name = .error (.notFinite name) :=
        if_neg fun all => finite (List.all_eq_true.1 all)
      exact absurd (refused.symm.trans h) (by simp)

theorem toText_eq_ok_iff {s : String} : v.toText name = .ok s ↔ v = .text s := by
  refine ⟨toText_ok, ?_⟩
  rintro rfl
  rfl

theorem toTriple_eq_ok_iff {t : Vec3 Float} : v.toTriple name = .ok t ↔ v = .triple t ∧ t.Finite := by
  refine ⟨toTriple_ok, ?_⟩
  rintro ⟨rfl, finite⟩
  exact toTriple_triple finite

end Value

/-! ## Names and titles -/

namespace Block

variable {b : Block}

theorem assigns_of_mem {a : Assignment} (h : a ∈ b.assignments) : b.assigns a.name := by
  unfold assigns value?
  rw [Option.isSome_map, List.find?_isSome]
  exact ⟨a, List.mem_reverse.2 h, beq_self_eq_true _⟩

theorem name_mem_of_checkNames {allowed : List String} (h : b.checkNames allowed = .ok ()) {a : Assignment}
    (ha : a ∈ b.assignments) : a.name ∈ allowed := by
  unfold checkNames at h
  cases hs : b.stranger? allowed with
  | some stranger =>
    rw [hs] at h
    exact absurd h (by simp)
  | none =>
    have known := List.find?_eq_none.1 hs a ha
    simpa using known

/-- The title of the window, if it is set. -/
def windowTitle (b : Block) : Except MeaningProblem (Option String) :=
  match b.value? "title" with
  | none => .ok none
  | some v => (v.toText "title").map some

/-- The steps of reading a window. -/
theorem toWindow_eq (b : Block) : b.toWindow = (do
    b.checkNames ["width", "height", "title"]
    let title ← b.windowTitle
    let width ← b.windowSide "width"
    let height ← b.windowSide "height"
    .ok { title, width, height }) := by
  unfold toWindow windowTitle
  cases b.value? "title" <;> rfl

end Block

end LitSpheres
