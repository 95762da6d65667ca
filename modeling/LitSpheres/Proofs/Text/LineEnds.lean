/-
  A text and the same text with unified line ends.

  1. **Program** — a carriage return with its line feed becomes a line feed, and so does a lone carriage
     return; all other characters stay as they are.

  2. **Specification** — two pieces of text can be unified one after the other, if no break is cut in two
     between them.  The places behind both texts are the same, no carriage return is left, and a text
     without one is kept.

  3. **The crux** — a place counts a pair of carriage return and line feed, a lone one of either kind, and
     nothing else as the end of a line, which is just what is replaced.
-/
import LitSpheres.Proofs.Token.Place

namespace LitSpheres.Text

variable {c : Char} {cs front back : List Char}

theorem unifyLineEnds_cons (alone : ∀ ds, c = '\r' → cs = '\n' :: ds → False) :
    unifyLineEnds (c :: cs) = (if c = '\r' then '\n' else c) :: unifyLineEnds cs := unifyLineEnds.eq_3 _ _ alone

/-- **Two texts in a row** are unified one after the other. -/
theorem unifyLineEnds_append (h : ¬ SplitsBreak front back) :
    unifyLineEnds (front ++ back) = unifyLineEnds front ++ unifyLineEnds back := by
  fun_induction unifyLineEnds front with
  | case1 => rfl
  | case2 cs ih => exact congrArg ('\n' :: ·) (ih fun split => h split.cons.cons)
  | case3 c cs alone ih =>
    rw [List.cons_append, unifyLineEnds_cons (unpaired_append alone h), ih fun split => h split.cons]
    rfl

/-- **Places do not change.** -/
theorem advance_unifyLineEnds (place : Place) (cs : List Char) :
    place.advance (unifyLineEnds cs) = place.advance cs := by
  fun_induction Place.advance place cs with
  | case1 => rfl
  | case2 place cs ih => exact ih
  | case3 place c cs alone lone ih =>
    rw [unifyLineEnds_cons alone]
    have feed : (if c = '\r' then '\n' else c) = '\n' := by
      rcases lone with rfl | rfl <;> rfl
    rw [feed]
    exact ih
  | case4 place c cs alone other ih =>
    have kept : (if c = '\r' then '\n' else c) = c := if_neg fun carriage => other (.inl carriage)
    rw [unifyLineEnds_cons alone, kept, Place.advance.eq_3 _ _ _ fun _ carriage _ => other (.inl carriage),
      if_neg other]
    exact ih

/-- No carriage return is left. -/
theorem not_mem_unifyLineEnds (cs : List Char) : '\r' ∉ unifyLineEnds cs := by
  fun_induction unifyLineEnds cs with
  | case1 => exact List.not_mem_nil
  | case2 cs ih =>
    intro inside
    exact ih (List.mem_of_ne_of_mem (by decide) inside)
  | case3 c cs alone ih =>
    intro inside
    refine ih (List.mem_of_ne_of_mem ?_ inside)
    split
    · decide
    · next other => exact Ne.symm other

theorem unifyLineEnds_of_not_mem (h : '\r' ∉ cs) : unifyLineEnds cs = cs := by
  induction cs with
  | nil => rfl
  | cons c cs ih =>
    have other : c ≠ '\r' := fun carriage => h (carriage ▸ List.mem_cons_self)
    have inside : '\r' ∉ cs := fun later => h (List.mem_cons_of_mem c later)
    rw [unifyLineEnds_cons fun _ carriage _ => other carriage, if_neg other, ih inside]

/-- What stands behind a text without a carriage return is unified by itself. -/
theorem unifyLineEnds_append_of_not_mem (h : '\r' ∉ front) (back : List Char) :
    unifyLineEnds (front ++ back) = front ++ unifyLineEnds back := by
  rw [unifyLineEnds_append (not_splitsBreak_of_not_mem h back), unifyLineEnds_of_not_mem h]

/-- What is neither of the two characters that end a line was there before. -/
theorem mem_of_mem_unifyLineEnds (h : c ∈ unifyLineEnds cs) (other : c ≠ '\n') : c ∈ cs := by
  fun_induction unifyLineEnds cs with
  | case1 => exact h
  | case2 cs ih =>
    exact List.mem_cons_of_mem _ (List.mem_cons_of_mem _ (ih (List.mem_of_ne_of_mem other h)))
  | case3 d cs alone ih =>
    rcases List.mem_cons.1 h with rfl | later
    · split
      · next carriage => exact absurd (if_pos carriage) other
      · exact List.mem_cons_self
    · exact List.mem_cons_of_mem _ (ih later)

/-- The first character is the first one before, or a line feed for a carriage return. -/
theorem head?_unifyLineEnds (cs : List Char) :
    (unifyLineEnds cs).head? = cs.head?.map fun c => if c = '\r' then '\n' else c := by
  fun_induction unifyLineEnds cs with
  | case1 => rfl
  | case2 => rfl
  | case3 => rfl

/-- A text that ends with a line feed still does. -/
theorem getLast?_unifyLineEnds (h : cs.getLast? = some '\n') : (unifyLineEnds cs).getLast? = some '\n' := by
  fun_induction unifyLineEnds cs with
  | case1 => exact h
  | case2 cs ih =>
    cases cs with
    | nil => rfl
    | cons d ds =>
      rw [List.getLast?_cons_cons, List.getLast?_cons_cons] at h
      rw [List.getLast?_cons, ih h]
      rfl
  | case3 c cs alone ih =>
    cases cs with
    | nil =>
      obtain rfl : c = '\n' := Option.some.inj h
      rfl
    | cons d ds =>
      rw [List.getLast?_cons_cons] at h
      rw [List.getLast?_cons, ih h]
      rfl

end LitSpheres.Text
