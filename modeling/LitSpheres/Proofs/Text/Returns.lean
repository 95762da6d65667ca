/-
  Text whose lines end with a carriage return and a line feed.

  1. **Program** — nothing makes such a text of another one; it comes from elsewhere, with both characters at
     each line end.

  2. **Specification** — putting a carriage return before each line feed goes piece by piece, keeps all other
     characters and their order, and moves no place.

  3. **The crux** — unifying line ends takes the carriage returns away again, and places do not change by
     that.
-/
import LitSpheres.Proofs.Text.LineEnds

namespace LitSpheres.Text

variable {c : Char} {cs front back : List Char}

/-- The text with a carriage return before each line feed. -/
def withReturns (cs : List Char) : List Char := cs.flatMap fun c => if c = '\n' then ['\r', '\n'] else [c]

/-- The text with a carriage return before each line feed, as a string. -/
def returnString (s : String) : String := String.ofList (withReturns s.toList)

@[simp] theorem withReturns_nil : withReturns [] = [] := rfl

@[simp] theorem withReturns_feed (cs : List Char) : withReturns ('\n' :: cs) = '\r' :: '\n' :: withReturns cs := rfl

theorem withReturns_cons (other : c ≠ '\n') (cs : List Char) : withReturns (c :: cs) = c :: withReturns cs := by
  rw [withReturns, List.flatMap_cons, if_neg other]
  rfl

@[simp] theorem withReturns_append (front back : List Char) :
    withReturns (front ++ back) = withReturns front ++ withReturns back := List.flatMap_append

/-- Between double quotes a text is changed by itself. -/
theorem withReturns_quoted (inner : List Char) :
    withReturns ('"' :: (inner ++ ['"'])) = '"' :: (withReturns inner ++ ['"']) := by
  rw [withReturns_cons (by decide), withReturns_append]
  rfl

/-- A text without a line feed stays as it is. -/
theorem withReturns_of_not_mem (h : '\n' ∉ cs) : withReturns cs = cs := by
  induction cs with
  | nil => rfl
  | cons c cs ih =>
    have other : c ≠ '\n' := fun feed => h (feed ▸ List.mem_cons_self)
    rw [withReturns_cons other, ih fun later => h (List.mem_cons_of_mem c later)]

/-- All characters but carriage returns are those that were there before. -/
theorem mem_withReturns (other : c ≠ '\r') : c ∈ withReturns cs ↔ c ∈ cs := by
  induction cs with
  | nil => rfl
  | cons d ds ih =>
    by_cases feed : d = '\n'
    · rw [feed, withReturns_feed, List.mem_cons, List.mem_cons, List.mem_cons, ih]
      exact or_iff_right other
    · rw [withReturns_cons feed, List.mem_cons, List.mem_cons, ih]

/-- What holds for all characters, and for a carriage return, still does. -/
theorem forall_mem_withReturns {p : Char → Prop} (carriage : p '\r') (h : ∀ c ∈ cs, p c) :
    ∀ c ∈ withReturns cs, p c := by
  intro c hc
  by_cases same : c = '\r'
  · rw [same]
    exact carriage
  · exact h c ((mem_withReturns same).1 hc)

theorem withReturns_eq_nil : withReturns cs = [] ↔ cs = [] := by
  cases cs with
  | nil => exact iff_of_true rfl rfl
  | cons c cs =>
    by_cases feed : c = '\n'
    · rw [feed, withReturns_feed]
      exact iff_of_false nofun nofun
    · rw [withReturns_cons feed]
      exact iff_of_false nofun nofun

/-- **Back again**: with unified line ends it is the text it was made of. -/
theorem unifyLineEnds_withReturns (plain : '\r' ∉ cs) : unifyLineEnds (withReturns cs) = cs := by
  induction cs with
  | nil => rfl
  | cons c cs ih =>
    have other : c ≠ '\r' := fun carriage => plain (carriage ▸ List.mem_cons_self)
    have later := ih fun inside => plain (List.mem_cons_of_mem c inside)
    by_cases feed : c = '\n'
    · rw [feed, withReturns_feed]
      exact congrArg ('\n' :: ·) later
    · rw [withReturns_cons feed, unifyLineEnds_cons fun _ carriage _ => other carriage, if_neg other, later]

/-- **Places do not change.** -/
theorem advance_withReturns (plain : '\r' ∉ cs) (place : Place) :
    place.advance (withReturns cs) = place.advance cs := by
  rw [← advance_unifyLineEnds, unifyLineEnds_withReturns plain]

/-- Exactly the words without a line feed are what they were. -/
theorem returnString_eq_iff {s word : String} (plain : '\n' ∉ word.toList) :
    returnString s = word ↔ s = word := by
  constructor
  · rintro rfl
    rw [returnString, String.toList_ofList, mem_withReturns (by decide)] at plain
    rw [returnString, withReturns_of_not_mem plain, String.ofList_toList]
  · rintro rfl
    rw [returnString, withReturns_of_not_mem plain, String.ofList_toList]

example : withReturns "a\n\nb".toList = "a\r\n\r\nb".toList := by decide

end LitSpheres.Text
