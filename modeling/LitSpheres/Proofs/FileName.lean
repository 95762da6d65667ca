/-
  File names cut apart.

  1. **Program** — the name of a file is taken from the back of its path, the ending from the back of its
     name, once the dots at the front of the name are set aside.

  2. **Specification** — a path is a folder, a stem and an ending, in one way only: no slash behind the
     folder, no dot behind the one that starts the ending, and something other than dots before it.  The
     default picture is named by the stem, and its ending is that of pictures, unless the stem is dots alone.

  3. **The crux** — what stands behind the last of certain characters is found from the back; each of the two
     cuts is this one lemma.
-/
import LitSpheres.FileName
import LitSpheres.Proofs.Decimal.Numeral
import Mathlib.Data.List.TakeWhile

namespace LitSpheres.FileName

/-! ## Behind the last of a character -/

variable {c : Char} {before after cs : List Char}

theorem behindLast_of_not_mem (h : c ∉ cs) : (cs.reverse.takeWhile (· ≠ c)).reverse = cs := by
  have all : ∀ d ∈ cs.reverse, decide (d ≠ c) = true := fun d hd =>
    decide_eq_true fun same => h (same ▸ List.mem_reverse.1 hd)
  rw [List.takeWhile_eq_self_iff.2 all, List.reverse_reverse]

theorem behindLast_append (h : c ∉ after) :
    ((before ++ c :: after).reverse.takeWhile (· ≠ c)).reverse = after := by
  have back : (before ++ c :: after).reverse = after.reverse ++ c :: before.reverse := by simp
  have free : ∀ d ∈ after.reverse, decide (d ≠ c) = true := fun d hd =>
    decide_eq_true fun same => h (same ▸ List.mem_reverse.1 hd)
  have stop : ∀ d ∈ (c :: before.reverse).head?, ¬decide (d ≠ c) = true := by
    rintro d ⟨⟩
    simp
  rw [back, takeWhile_append_of_boundary free stop, List.reverse_reverse]

theorem exists_last (h : c ∈ cs) : ∃ before after, cs = before ++ c :: after ∧ c ∉ after := by
  obtain ⟨front, back, reversed, free⟩ := List.eq_append_cons_of_mem (List.mem_reverse.2 h)
  refine ⟨back.reverse, front.reverse, ?_, fun mem => free (List.mem_reverse.1 mem)⟩
  rw [← List.reverse_reverse cs, reversed]
  simp

/-! ## Stems and endings -/

/-- A name is a stem and an ending.  The ending is empty if the name has dots at its start only; otherwise it
    starts at the last dot. -/
inductive Cut : (stem ending : List Char) → Prop
  | whole {hidden visible : List Char} (dots : ∀ c ∈ hidden, c = '.') (free : '.' ∉ visible) :
      Cut (hidden ++ visible) []
  | dotted {stem ending : List Char} (named : ∃ c ∈ stem, c ≠ '.') (free : '.' ∉ ending) :
      Cut stem ('.' :: ending)

variable {stem ending name hidden visible : List Char}

/-- Dots at the start, as far as they go. -/
theorem parts_of_dots (dots : ∀ c ∈ hidden, c = '.') (stop : ∀ c ∈ visible.head?, c ≠ '.') :
    (hidden ++ visible).takeWhile (· = '.') = hidden ∧ (hidden ++ visible).dropWhile (· = '.') = visible := by
  have front : (hidden ++ visible).takeWhile (· = '.') = hidden :=
    takeWhile_append_of_boundary (fun c hc => decide_eq_true (dots c hc)) fun c hc => by
      simpa using stop c hc
  have whole := List.takeWhile_append_dropWhile (p := (· = '.')) (l := hidden ++ visible)
  rw [front] at whole
  exact ⟨front, List.append_cancel_left whole⟩

theorem exists_dots (name : List Char) :
    ∃ hidden visible, name = hidden ++ visible ∧ (∀ c ∈ hidden, c = '.') ∧ ∀ c ∈ visible.head?, c ≠ '.' := by
  refine ⟨name.takeWhile (· = '.'), name.dropWhile (· = '.'), List.takeWhile_append_dropWhile.symm,
    fun c hc => ?_, fun c hc => ?_⟩
  · have dot := List.mem_takeWhile_imp hc
    exact of_decide_eq_true dot
  · have first := List.head?_dropWhile_not (· = '.') name
    rw [hc] at first
    exact of_decide_eq_false first

theorem split_of_dots (dots : ∀ c ∈ hidden, c = '.') (free : '.' ∉ visible) :
    split (hidden ++ visible) = (hidden ++ visible, []) := by
  obtain ⟨-, behind⟩ := parts_of_dots dots fun c hc same => free (same ▸ List.mem_of_mem_head? hc)
  unfold split
  dsimp only
  rw [behind, if_neg free]

theorem split_of_named (named : ∃ c ∈ stem, c ≠ '.') (free : '.' ∉ ending) :
    split (stem ++ '.' :: ending) = (stem, '.' :: ending) := by
  obtain ⟨hidden, visible, rfl, dots, stop⟩ := exists_dots stem
  have nonempty : visible ≠ [] := by
    rintro rfl
    obtain ⟨c, hc, other⟩ := named
    rw [List.append_nil] at hc
    exact other (dots c hc)
  have stopAll : ∀ c ∈ (visible ++ '.' :: ending).head?, c ≠ '.' := by
    rw [List.head?_append_of_ne_nil _ nonempty]
    exact stop
  obtain ⟨front, behind⟩ := parts_of_dots dots stopAll
  have some : '.' ∈ visible ++ '.' :: ending := List.mem_append_right _ List.mem_cons_self
  have kept : (visible ++ '.' :: ending).take
      ((visible ++ '.' :: ending).length - (ending.length + 1)) = visible := by
    rw [List.length_append, List.length_cons, Nat.add_sub_cancel, List.take_left]
  unfold split
  rw [List.append_assoc]
  dsimp only
  rw [front, behind, if_pos some, behindLast_append free, kept]

/-- **A name is cut where it should be.** -/
theorem Cut.split_eq (h : Cut stem ending) : split (stem ++ ending) = (stem, ending) := by
  cases h with
  | whole dots free =>
    rw [List.append_nil]
    exact split_of_dots dots free
  | dotted named free => exact split_of_named named free

/-- Every name can be cut. -/
theorem exists_cut (name : List Char) : ∃ stem ending, name = stem ++ ending ∧ Cut stem ending := by
  obtain ⟨hidden, visible, rfl, dots, stop⟩ := exists_dots name
  by_cases dotted : '.' ∈ visible
  · obtain ⟨before, after, rfl, free⟩ := exists_last dotted
    refine ⟨hidden ++ before, '.' :: after, (List.append_assoc _ _ _).symm, .dotted ?_ free⟩
    -- the dots at the start end before the last dot, so there is something between
    cases before with
    | nil => exact absurd rfl (stop '.' rfl)
    | cons c cs => exact ⟨c, List.mem_append_right _ List.mem_cons_self, stop c rfl⟩
  · exact ⟨hidden ++ visible, [], (List.append_nil _).symm, .whole dots dotted⟩

/-! ## Paths -/

/-- What names the file of a path, without the folder before it and the ending behind it. -/
def IsStem (path stem : List Char) : Prop :=
  ∃ folder ending, path = folder ++ (stem ++ ending) ∧ (folder = [] ∨ ∃ above, folder = above ++ ['/']) ∧
    '/' ∉ stem ++ ending ∧ Cut stem ending

variable {path folder : List Char}

theorem baseName_append (inside : folder = [] ∨ ∃ above, folder = above ++ ['/']) (free : '/' ∉ name) :
    baseName (folder ++ name) = name := by
  unfold baseName
  rcases inside with rfl | ⟨above, rfl⟩
  · exact behindLast_of_not_mem free
  · rw [List.append_assoc]
    exact behindLast_append free

theorem exists_folder (path : List Char) :
    ∃ folder name, path = folder ++ name ∧ (folder = [] ∨ ∃ above, folder = above ++ ['/']) ∧ '/' ∉ name := by
  by_cases slash : '/' ∈ path
  · obtain ⟨above, name, rfl, free⟩ := exists_last slash
    exact ⟨above ++ ['/'], name, (List.append_assoc above ['/'] name).symm, .inr ⟨above, rfl⟩, free⟩
  · exact ⟨[], path, rfl, .inl rfl, slash⟩

/-- **Each path has one stem**, the one that is cut off its name. -/
theorem isStem_iff : IsStem path stem ↔ (split (baseName path)).1 = stem := by
  constructor
  · rintro ⟨folder, ending, rfl, inside, free, cut⟩
    rw [baseName_append inside free, cut.split_eq]
  · rintro rfl
    obtain ⟨folder, name, rfl, inside, free⟩ := exists_folder path
    obtain ⟨stem, ending, rfl, cut⟩ := exists_cut name
    rw [baseName_append inside free, cut.split_eq]
    exact ⟨folder, ending, rfl, inside, free, cut⟩

theorem exists_isStem (path : List Char) : ∃ stem, IsStem path stem := ⟨_, isStem_iff.2 rfl⟩

/-! ## The default picture -/

/-- The default picture has the name of the stem. -/
theorem pictureFor_of_isStem {path : String} (h : IsStem path.toList stem) :
    pictureFor path = String.ofList (stem ++ ".png".toList) := by
  rw [pictureFor, isStem_iff.1 h]

/-- The default picture is in no folder. -/
theorem baseName_pictureFor {path : String} (h : IsStem path.toList stem) :
    baseName (pictureFor path).toList = stem ++ ".png".toList := by
  obtain ⟨_, _, -, -, free, -⟩ := id h
  have noSlash : '/' ∉ stem ++ ".png".toList := by
    intro mem
    rcases List.mem_append.1 mem with inStem | inEnding
    · exact free (List.mem_append_left _ inStem)
    · exact absurd inEnding (by decide)
  rw [pictureFor_of_isStem h, String.toList_ofList]
  exact baseName_append (.inl rfl) noSlash

/-- **The ending of the default picture** is that of pictures, if the stem is not of dots alone. -/
theorem ending_pictureFor {path : String} (h : IsStem path.toList stem) (named : ∃ c ∈ stem, c ≠ '.') :
    FileName.ending (pictureFor path) = ".png" := by
  have cut : Cut stem ".png".toList := .dotted named (by decide)
  rw [FileName.ending, baseName_pictureFor h, cut.split_eq]
  show Text.lower (String.ofList ".png".toList) = ".png"
  decide +kernel

/-- **Dots alone hide the ending**: they and the dot behind them are dots at the start of a name. -/
theorem ending_pictureFor_of_dots {path : String} (h : IsStem path.toList stem) (dots : ∀ c ∈ stem, c = '.') :
    FileName.ending (pictureFor path) = "" := by
  have front : ∀ c ∈ stem ++ ['.'], c = '.' := by
    intro c mem
    rcases List.mem_append.1 mem with inStem | last
    · exact dots c inStem
    · exact List.mem_singleton.1 last
  have name : stem ++ ".png".toList = (stem ++ ['.']) ++ "png".toList := (List.append_assoc stem ['.'] _).symm
  rw [FileName.ending, baseName_pictureFor h, name, split_of_dots front (by decide)]
  show Text.lower (String.ofList []) = ""
  decide +kernel

/-- What is not in a path is not in the path of its default picture, but for the new ending. -/
theorem not_mem_pictureFor {path : String} {c : Char} (h : c ∉ path.toList) (other : c ∉ ".png".toList) :
    c ∉ (pictureFor path).toList := by
  obtain ⟨stem, isStem⟩ := exists_isStem path.toList
  obtain ⟨folder, ending, parts, -⟩ := id isStem
  rw [pictureFor_of_isStem isStem, String.toList_ofList]
  intro mem
  rcases List.mem_append.1 mem with inStem | inEnding
  · rw [parts] at h
    exact h (List.mem_append_right _ (List.mem_append_left _ inStem))
  · exact other inEnding

end LitSpheres.FileName
