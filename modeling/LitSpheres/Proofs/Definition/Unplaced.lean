/-
  The places in a block have no influence on what it means.

  1. **Program** — a block is given its meaning by looking up names; the problems of some checks tell the
     line of the block or of an assignment.

  2. **Specification** — two blocks of one kind that assign the same values to the same names in the same
     order mean the same definition, or both mean none.

  3. **The crux** — a place only ever enters a problem.  So every check that tells no place has the same
     outcome for both blocks, and the others succeed for both or for none.
-/
import LitSpheres.Proofs.Definition.Fields

namespace LitSpheres

/-! ## Outcomes without their problems -/

section

variable {ε α β : Type} (x : Except ε α)

theorem toOption_bind (f : α → Except ε β) : (x >>= f).toOption = x.toOption.bind fun a => (f a).toOption := by
  cases x <;> rfl

theorem toOption_map (f : α → β) : (x.map f).toOption = x.toOption.map f := by
  cases x <;> rfl

end

/-! ## Blocks with the same pairs -/

namespace Block

variable {b c : Block}

theorem value?_congr (h : b.pairs = c.pairs) (name : String) : b.value? name = c.value? name := by
  rw [value?_of_pairs h, value?_of_pairs rfl]

theorem assigns_congr (h : b.pairs = c.pairs) (name : String) : b.assigns name = c.assigns name := by
  rw [assigns_of_pairs h, assigns_of_pairs rfl]

theorem windowSide_congr (h : b.pairs = c.pairs) (name : String) : b.windowSide name = c.windowSide name := by
  unfold windowSide
  rw [value?_congr h]

theorem placement_congr (h : b.pairs = c.pairs) (type needed refused : String) :
    b.placement type needed refused = c.placement type needed refused := by
  unfold placement
  rw [value?_congr h, assigns_congr h]

/-- Whether the names are allowed depends on the pairs only; the place of the first stranger does not. -/
theorem toOption_checkNames (b : Block) (allowed : List String) :
    (b.checkNames allowed).toOption =
      if b.pairs.all (fun p => allowed.contains p.1) then some () else none := by
  have allowedNames : b.pairs.all (fun p => allowed.contains p.1) =
      b.assignments.all fun a => allowed.contains a.name := List.all_map
  rw [allowedNames]
  unfold checkNames
  cases hs : b.stranger? allowed with
  | none =>
    have all : b.assignments.all fun a => allowed.contains a.name := by
      apply List.all_eq_true.2
      intro a ha
      simpa using List.find?_eq_none.1 hs a ha
    rw [if_pos all]
    rfl
  | some a =>
    have stranger : ¬ b.assignments.all fun a => allowed.contains a.name := by
      intro all
      have known := List.all_eq_true.1 all a (List.mem_of_find?_eq_some hs)
      have unknown := List.find?_some hs
      rw [known] at unknown
      exact absurd unknown (by decide)
    rw [if_neg stranger]
    rfl

theorem toOption_checkNames_congr (h : b.pairs = c.pairs) (allowed : List String) :
    (b.checkNames allowed).toOption = (c.checkNames allowed).toOption := by
  rw [toOption_checkNames, toOption_checkNames, h]

theorem toOption_toWindow (h : b.pairs = c.pairs) : b.toWindow.toOption = c.toWindow.toOption := by
  unfold toWindow
  rw [toOption_bind, toOption_bind, toOption_checkNames_congr h, value?_congr h, windowSide_congr h,
    windowSide_congr h]

theorem toOption_toLight (h : b.pairs = c.pairs) : b.toLight.toOption = c.toLight.toOption := by
  unfold toLight
  rw [toOption_bind, toOption_bind, toOption_checkNames_congr h, value?_congr h, value?_congr h]
  -- the place is in the problem of a light without type or intensity only
  cases c.value? "type" with
  | none => rfl
  | some type =>
    cases c.value? "intensity" with
    | none => rfl
    | some intensity => simp only [assigns_congr h, placement_congr h]

theorem toOption_toSphere (h : b.pairs = c.pairs) : b.toSphere.toOption = c.toSphere.toOption := by
  unfold toSphere
  rw [toOption_bind, toOption_bind, toOption_checkNames_congr h]
  simp only [value?_congr h, assigns_congr h]

end Block

/-- **The meaning of a block** depends on its kind, its names and their values. -/
theorem Definition.toOption_ofBlock {b c : Block} (kind : b.kind = c.kind) (pairs : b.pairs = c.pairs) :
    (Definition.ofBlock b).toOption = (Definition.ofBlock c).toOption := by
  unfold Definition.ofBlock
  rw [kind]
  split
  · rw [toOption_map, toOption_map, Block.toOption_toWindow pairs]
  · split
    · rw [toOption_map, toOption_map, Block.toOption_toLight pairs]
    · split
      · rw [toOption_map, toOption_map, Block.toOption_toSphere pairs]
      · rfl

end LitSpheres
