/-
  Which items of a list repeat an earlier one.

  Equality is given, and need not be reflexive: what equals nothing, not even itself, repeats nothing.
-/
namespace LitSpheres

/-- For each item, whether it equals one of the items seen before it, the first of all included. -/
def repeatsAfter {α : Type} (same : α → α → Bool) (seen : List α) : List α → List Bool
  | [] => []
  | a :: as => seen.any (same a) :: repeatsAfter same (a :: seen) as

/-- For each item of a list, whether it equals an earlier one. -/
def repeats {α : Type} (same : α → α → Bool) (items : List α) : List Bool := repeatsAfter same [] items

/-- The number of items that equal no earlier one. -/
def distinctCount {α : Type} (same : α → α → Bool) (items : List α) : Nat :=
  ((repeats same items).filter (!·)).length

example : repeats (· == ·) [1, 2, 1, 1] = [false, false, true, true] := by decide
example : distinctCount (fun _ _ => false) [1, 1] = 2 := by decide

end LitSpheres
