/-
  What is said of a block that means nothing.

  1. **Program** — the first check that fails names the problem, and the messages of some problems write a
     number as scene text has it.

  2. **Specification** — these messages can be written: no number in them is infinite or no number at all.

  3. **The crux** — a number is compared with its bound only after it was found to be finite.
-/
import LitSpheres.Definition.Written
import LitSpheres.Proofs.Definition.Writable

namespace LitSpheres

namespace MeaningProblem

/-- The numbers that the message writes as scene text. -/
def written : MeaningProblem → List Float
  | windowSide _ x | negativeIntensity x | flatSphere x => [x]
  | _ => []

/-- The message can be written: each of these numbers has a scene text, which the message shows. -/
def Sayable (problem : MeaningProblem) : Prop :=
  ∀ x ∈ problem.written, writeNumber x = .ok (NumberLayout.scene.write x)

variable {problem : MeaningProblem} {x : Float}

theorem sayable_of_nil (h : problem.written = []) : problem.Sayable := by
  intro x hx
  rw [h] at hx
  exact absurd hx List.not_mem_nil

theorem sayable_of_finite (h : problem.written = [x]) (finite : Binary64.isFinite x) : problem.Sayable := by
  intro y hy
  rw [h] at hy
  rw [List.mem_singleton.1 hy]
  exact if_pos finite

end MeaningProblem

/-- Whatever is said of a failure can be written. -/
def FailsSayably {α : Type} (x : Except MeaningProblem α) : Prop :=
  ∀ problem, x = .error problem → problem.Sayable

namespace FailsSayably

variable {α β : Type} {x : Except MeaningProblem α} {problem : MeaningProblem} {c : Prop} [Decidable c]

theorem ok (a : α) : FailsSayably (.ok a) := nofun

theorem error (h : problem.Sayable) : FailsSayably (α := α) (.error problem) := by
  rintro other ⟨⟩
  exact h

theorem bind {f : α → Except MeaningProblem β} (hx : FailsSayably x)
    (hf : ∀ a, x = .ok a → FailsSayably (f a)) :
    FailsSayably (x >>= f) := by
  cases x with
  | error problem =>
    rintro other ⟨⟩
    exact hx problem rfl
  | ok a => exact hf a rfl

theorem map {f : α → β} (hx : FailsSayably x) : FailsSayably (x.map f) := by
  cases x with
  | error problem =>
    rintro other ⟨⟩
    exact hx problem rfl
  | ok a => exact ok (f a)

theorem ite {y : Except MeaningProblem α} (hx : FailsSayably x) (hy : FailsSayably y) :
    FailsSayably (if c then x else y) := by
  split
  · exact hx
  · exact hy

end FailsSayably

open FailsSayably MeaningProblem

/-! ## Values -/

namespace Value

theorem toNumber_sayably (v : Value) (name : String) : FailsSayably (v.toNumber name) := by
  cases v with
  | number x => exact (ok x).ite (error (sayable_of_nil rfl))
  | text s => exact error (sayable_of_nil rfl)
  | triple t => exact error (sayable_of_nil rfl)

theorem toText_sayably (v : Value) (name : String) : FailsSayably (v.toText name) := by
  cases v with
  | number x => exact error (sayable_of_nil rfl)
  | text s => exact ok s
  | triple t => exact error (sayable_of_nil rfl)

theorem toTriple_sayably (v : Value) (name : String) : FailsSayably (v.toTriple name) := by
  cases v with
  | number x => exact error (sayable_of_nil rfl)
  | text s => exact error (sayable_of_nil rfl)
  | triple t => exact (ok t).ite (error (sayable_of_nil rfl))

end Value

/-! ## Blocks of the three kinds -/

namespace Block

variable (b : Block)

theorem checkNames_sayably (allowed : List String) : FailsSayably (b.checkNames allowed) := by
  unfold checkNames
  cases b.stranger? allowed with
  | some a => exact error (sayable_of_nil rfl)
  | none => exact ok ()

theorem windowTitle_sayably : FailsSayably b.windowTitle := by
  unfold windowTitle
  cases b.value? "title" with
  | none => exact ok none
  | some v => exact (v.toText_sayably "title").map

theorem windowSide_sayably (name : String) : FailsSayably (b.windowSide name) := by
  unfold windowSide
  cases b.value? name with
  | none => exact ok none
  | some v =>
    refine (v.toNumber_sayably name).bind fun size read => ?_
    exact (error (sayable_of_finite rfl (Value.toNumber_ok read).2)).ite (ok (some size))

theorem toWindow_sayably : FailsSayably b.toWindow := by
  rw [toWindow_eq]
  refine (b.checkNames_sayably _).bind fun _ _ => ?_
  refine b.windowTitle_sayably.bind fun title _ => ?_
  refine (b.windowSide_sayably "width").bind fun width _ => ?_
  exact (b.windowSide_sayably "height").bind fun height _ => ok _

theorem placement_sayably (type needed refused : String) :
    FailsSayably (b.placement type needed refused) := by
  unfold placement
  cases b.value? needed with
  | none => exact error (sayable_of_nil rfl)
  | some v => exact (error (sayable_of_nil rfl)).ite (v.toTriple_sayably needed)

theorem toLight_sayably : FailsSayably b.toLight := by
  refine (b.checkNames_sayably _).bind fun _ _ => ?_
  cases b.value? "type" with
  | none => exact error (sayable_of_nil rfl)
  | some typeValue =>
    cases b.value? "intensity" with
    | none => exact error (sayable_of_nil rfl)
    | some intensityValue =>
      refine (typeValue.toText_sayably "type").bind fun type _ => ?_
      refine (intensityValue.toNumber_sayably "intensity").bind fun intensity read => ?_
      refine (error (sayable_of_finite rfl (Value.toNumber_ok read).2)).ite ?_
      refine ((error (sayable_of_nil rfl)).ite (ok _)).ite ?_
      refine (b.placement_sayably _ _ _).map.ite ?_
      exact (b.placement_sayably _ _ _).map.ite (error (sayable_of_nil rfl))

theorem toSphere_sayably : FailsSayably b.toSphere := by
  refine (b.checkNames_sayably _).bind fun _ _ => ?_
  cases b.value? "color" with
  | none => exact error (sayable_of_nil rfl)
  | some colorValue =>
    cases b.value? "center" with
    | none => exact error (sayable_of_nil rfl)
    | some centerValue =>
      cases b.value? "radius" with
      | none => exact error (sayable_of_nil rfl)
      | some radiusValue =>
        refine (radiusValue.toNumber_sayably "radius").bind fun radius read => ?_
        refine (error (sayable_of_finite rfl (Value.toNumber_ok read).2)).ite ?_
        refine (colorValue.toTriple_sayably "color").bind fun color _ => ?_
        exact (centerValue.toTriple_sayably "center").bind fun center _ => ok _

end Block

/-- **What is said of a refused block can be written.** -/
theorem Definition.ofBlock_sayably (b : Block) : FailsSayably (ofBlock b) := by
  refine b.toWindow_sayably.map.ite ?_
  refine b.toLight_sayably.map.ite ?_
  exact b.toSphere_sayably.map.ite (error (sayable_of_nil rfl))

end LitSpheres
