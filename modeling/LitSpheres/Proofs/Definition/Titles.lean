/-
  What becomes of written definitions when line ends are unified.

  1. **Program** — the titles of windows are written as they are, in double quotes; a file that holds the text
     gives it back with a line feed for each line end.

  2. **Specification** — the text with unified line ends is what is written for the definitions with unified
     titles, which can be written and are in range like the definitions themselves.

  3. **The crux** — what is written besides titles holds no carriage return, and a title ends with its quote,
     so line ends are unified piece by piece, wherever the pieces stand.
-/
import LitSpheres.Proofs.Definition.Written
import LitSpheres.Proofs.Text.LineEnds

namespace LitSpheres

/-! ## Pieces of text -/

/-- The text with a line feed for each of its line ends. -/
def Text.unifyString (s : String) : String := String.ofList (unifyLineEnds s.toList)

theorem Text.mem_of_mem_unifyString {s : String} {c : Char} (h : c ∈ (unifyString s).toList) (other : c ≠ '\n') :
    c ∈ s.toList := by
  unfold unifyString at h
  rw [String.toList_ofList] at h
  exact mem_of_mem_unifyLineEnds h other

theorem Text.unifyString_of_not_mem {s : String} (h : '\r' ∉ s.toList) : unifyString s = s := by
  unfold unifyString
  rw [unifyLineEnds_of_not_mem h, String.ofList_toList]

/-- Wherever the first text stands, unifying line ends makes the second one of it. -/
def Unifies (before after : String) : Prop :=
  ∀ rest, Text.unifyLineEnds (before.toList ++ rest) = after.toList ++ Text.unifyLineEnds rest

namespace Unifies

variable {s t s' t' : String}

theorem of_plain (h : '\r' ∉ s.toList) : Unifies s s := Text.unifyLineEnds_append_of_not_mem h

theorem append (h : Unifies s s') (h' : Unifies t t') : Unifies (s ++ t) (s' ++ t') := by
  intro rest
  rw [String.toList_append, String.toList_append, List.append_assoc, List.append_assoc, h, h']

theorem join {ss ts : List String} (h : List.Forall₂ Unifies ss ts) :
    Unifies (String.join ss) (String.join ts) := by
  intro rest
  rw [String.toList_join, String.toList_join]
  induction h with
  | nil => rfl
  | cons first others ih =>
    rw [List.flatMap_cons, List.flatMap_cons, List.append_assoc, List.append_assoc, first, ih]

/-- Between quotes a text is unified by itself. -/
theorem quoted (s : String) : Unifies ("\"" ++ s ++ "\"") ("\"" ++ Text.unifyString s ++ "\"") := by
  have inside : Unifies (s ++ "\"") (Text.unifyString s ++ "\"") := by
    intro rest
    -- a carriage return at the end of the title is followed by the quote and by no line feed
    have apart : ¬ Text.SplitsBreak s.toList ('"' :: rest) := fun split => absurd split.2 (by simp)
    have quote : Text.unifyLineEnds ('"' :: rest) = '"' :: Text.unifyLineEnds rest :=
      of_plain (s := "\"") (by decide) rest
    simp only [String.toList_append, List.append_assoc, Text.unifyString, String.toList_ofList]
    show Text.unifyLineEnds (s.toList ++ '"' :: rest) = _
    rw [Text.unifyLineEnds_append apart, quote]
    rfl
  rw [String.append_assoc, String.append_assoc]
  exact (of_plain (by decide)).append inside

theorem unifyLineEnds_eq (h : Unifies s t) : Text.unifyLineEnds s.toList = t.toList := by
  have alone := h []
  rw [List.append_nil] at alone
  exact alone.trans (List.append_nil _)

end Unifies

/-! ## Values -/

theorem plain_writeNumber {x : Float} {t : String} (h : writeNumber x = .ok t) : '\r' ∉ t.toList := by
  by_cases finite : Binary64.isFinite x
  · obtain rfl : NumberLayout.scene.write x = t := Except.ok.inj ((if_pos finite).symm.trans h)
    obtain ⟨n, written, -⟩ := NumberLayout.exists_numeral finite
    unfold NumberLayout.write
    rw [String.toList_ofList, written]
    intro inside
    rcases Shape.mem_signed inside with minus | point | digit
    · exact absurd minus (by decide)
    · exact absurd point (by decide)
    · exact absurd digit (by decide)
  · exact absurd ((if_neg finite).symm.trans h) nofun

theorem plain_writeTriple {v : Vec3 Float} {t : String} (h : writeTriple v = .ok t) : '\r' ∉ t.toList := by
  obtain ⟨x, hx, h⟩ := exists_of_bind_ok h
  obtain ⟨y, hy, h⟩ := exists_of_bind_ok h
  obtain ⟨z, hz, h⟩ := exists_of_bind_ok h
  obtain rfl := Except.ok.inj h
  have plainX := plain_writeNumber hx
  have plainY := plain_writeNumber hy
  have plainZ := plain_writeNumber hz
  simp [plainX, plainY, plainZ]

/-! ## Lines -/

/-- Two lines that assign to the same name, where the value of the one becomes that of the other. -/
structure UnifiesLine (line line' : String × String) : Prop where
  name : line'.1 = line.1
  plain : '\r' ∉ line.1.toList
  value : Unifies line.2 line'.2

theorem UnifiesLine.of_plain {name value : String} (hn : '\r' ∉ name.toList) (hv : '\r' ∉ value.toList) :
    UnifiesLine (name, value) (name, value) := ⟨rfl, hn, .of_plain hv⟩

theorem UnifiesLine.text {line line' : String × String} (h : UnifiesLine line line') :
    Unifies (lineText line) (lineText line') := by
  unfold lineText
  rw [h.name]
  exact (((Unifies.of_plain h.plain).append (.of_plain (by decide))).append h.value).append
    (.of_plain (by decide))

theorem unifies_blockText {kind : String} {lines lines' : List (String × String)} (plain : '\r' ∉ kind.toList)
    (h : List.Forall₂ UnifiesLine lines lines') : Unifies (blockText kind lines) (blockText kind lines') := by
  have inside : Unifies (String.join (lines.map lineText)) (String.join (lines'.map lineText)) :=
    .join (List.forall₂_map_left_iff.2 (List.forall₂_map_right_iff.2 (h.imp fun _ _ => UnifiesLine.text)))
  exact (((Unifies.of_plain plain).append (.of_plain (by decide))).append inside).append (.of_plain (by decide))

/-- An assignment that stands in the block only if its value is set. -/
theorem exists_writeIfSet {α : Type} {name : String} (plain : '\r' ∉ name.toList)
    {write : α → Except WriteProblem String} {unify : α → α} {o : Option α}
    (h : ∀ a ∈ o, ∃ t t', write a = .ok t ∧ write (unify a) = .ok t' ∧ Unifies t t') :
    ∃ lines lines', writeIfSet name write o = .ok lines ∧ writeIfSet name write (o.map unify) = .ok lines' ∧
      List.Forall₂ UnifiesLine lines lines' := by
  cases o with
  | none => exact ⟨[], [], rfl, rfl, .nil⟩
  | some a =>
    obtain ⟨t, t', written, writtenToo, unifies⟩ := h a rfl
    exact ⟨[(name, t)], [(name, t')], congrArg (Except.map fun text => [(name, text)]) written,
      congrArg (Except.map fun text => [(name, text)]) writtenToo, .cons ⟨rfl, plain, unifies⟩ .nil⟩

/-- A number that is set is written without a carriage return. -/
theorem exists_writeIfSet_number {name : String} (plain : '\r' ∉ name.toList) {o : Option Float}
    (finite : ∀ x ∈ o, Binary64.isFinite x) :
    ∃ lines, writeIfSet name writeNumber o = .ok lines ∧ List.Forall₂ UnifiesLine lines lines := by
  cases o with
  | none => exact ⟨[], rfl, .nil⟩
  | some x =>
    have written : writeNumber x = .ok (NumberLayout.scene.write x) := if_pos (finite x rfl)
    exact ⟨_, congrArg (Except.map fun text => [(name, text)]) written,
      .cons (.of_plain plain (plain_writeNumber written)) .nil⟩

/-! ## Definitions -/

namespace Definition

/-- The definition with a line feed for each line end of its title. -/
def unifyTitle : Definition → Definition
  | window w => window { w with title := w.title.map Text.unifyString }
  | other => other

/-- Whether the definition is a window that sets the title. -/
def setsTitle : Definition → Bool
  | window w => w.title.isSome
  | _ => false

variable {d : Definition} {ds : List Definition}

theorem numbers_unifyTitle (d : Definition) : d.unifyTitle.numbers = d.numbers := by
  cases d with
  | window w => rfl
  | light l => rfl
  | sphere s => rfl
  | bare => rfl

theorem Writable.unifyTitle (h : d.Writable) : d.unifyTitle.Writable := by
  obtain ⟨finite, kind⟩ := h
  rw [← numbers_unifyTitle] at finite
  refine ⟨finite, ?_⟩
  cases d with
  | window w =>
    obtain ⟨plain, set⟩ := kind
    constructor
    · intro s hs
      obtain ⟨t, ht, rfl⟩ := Option.map_eq_some_iff.1 hs
      exact fun inside => plain t ht (Text.mem_of_mem_unifyString inside (by decide))
    · show (w.title.map Text.unifyString).isSome ∨ _
      rw [Option.isSome_map]
      exact set
  | light l => exact kind
  | sphere s => exact kind
  | bare => exact kind

theorem InRange.unifyTitle (h : d.InRange) : d.unifyTitle.InRange := by
  cases d with
  | window w => exact h
  | light l => exact h
  | sphere s => exact h
  | bare => exact h

/-! ## Writing -/

/-- Nothing that is written for a light holds a carriage return. -/
theorem unifies_lines_light {l : Light} {kind : String} {lines : List (String × String)}
    (h : (light l).lines = .ok (kind, lines)) : List.Forall₂ UnifiesLine lines lines := by
  cases l with
  | ambient i =>
    obtain ⟨intensity, hi, h⟩ := exists_of_bind_ok h
    obtain ⟨-, rfl⟩ := Prod.mk.inj (Except.ok.inj h)
    exact .cons (.of_plain (by decide) (by decide))
      (.cons (.of_plain (by decide) (plain_writeNumber hi)) .nil)
  | point i v | directional i v =>
    obtain ⟨intensity, hi, h⟩ := exists_of_bind_ok h
    obtain ⟨placed, hv, h⟩ := exists_of_bind_ok h
    obtain ⟨-, rfl⟩ := Prod.mk.inj (Except.ok.inj h)
    exact .cons (.of_plain (by decide) (by decide))
      (.cons (.of_plain (by decide) (plain_writeNumber hi))
        (.cons (.of_plain (by decide) (plain_writeTriple hv)) .nil))

/-- Nothing that is written for a sphere does either. -/
theorem unifies_lines_sphere {s : SphereSpec} {kind : String} {lines : List (String × String)}
    (h : (sphere s).lines = .ok (kind, lines)) : List.Forall₂ UnifiesLine lines lines := by
  obtain ⟨color, hc, h⟩ := exists_of_bind_ok h
  obtain ⟨center, hm, h⟩ := exists_of_bind_ok h
  obtain ⟨radius, hr, h⟩ := exists_of_bind_ok h
  obtain ⟨-, rfl⟩ := Prod.mk.inj (Except.ok.inj h)
  exact .cons (.of_plain (by decide) (plain_writeTriple hc))
    (.cons (.of_plain (by decide) (plain_writeTriple hm))
      (.cons (.of_plain (by decide) (plain_writeNumber hr)) .nil))

/-- A window with a unified title has the lines of the window, but for the one of the title. -/
theorem unifies_lines_window {w : Window} (h : (window w).Writable) {kind kind' : String}
    {all all' : List (String × String)} (written : (window w).lines = .ok (kind, all))
    (writtenToo : (window w).unifyTitle.lines = .ok (kind', all')) : List.Forall₂ UnifiesLine all all' := by
  obtain ⟨finite, plain, -⟩ := h
  have unifies : ∀ s ∈ w.title, ∃ t t', writeText s = .ok t ∧ writeText (Text.unifyString s) = .ok t' ∧
      Unifies t t' := by
    intro s hs
    have plainToo : '"' ∉ (Text.unifyString s).toList := fun inside =>
      plain s hs (Text.mem_of_mem_unifyString inside (by decide))
    exact ⟨_, _, if_neg (plain s hs), if_neg plainToo, .quoted s⟩
  obtain ⟨title, title', ht, ht', titles⟩ := exists_writeIfSet (by decide : '\r' ∉ "title".toList) unifies
  obtain ⟨width, hw, widths⟩ := exists_writeIfSet_number (by decide : '\r' ∉ "width".toList)
    fun x hx => finite x (List.mem_append_left _ (Option.mem_toList.2 hx))
  obtain ⟨height, hh, heights⟩ := exists_writeIfSet_number (by decide : '\r' ∉ "height".toList)
    fun x hx => finite x (List.mem_append_right _ (Option.mem_toList.2 hx))
  have lines := (lines_window_eq ht hw hh).symm.trans written
  have linesToo := (lines_window_eq (w := { w with title := w.title.map Text.unifyString }) ht' hw hh).symm.trans
    writtenToo
  -- both windows are writable, so neither is refused for setting nothing
  split at lines
  · exact absurd lines nofun
  split at linesToo
  · exact absurd linesToo nofun
  obtain ⟨-, rfl⟩ := Prod.mk.inj (Except.ok.inj lines)
  obtain ⟨-, rfl⟩ := Prod.mk.inj (Except.ok.inj linesToo)
  exact List.rel_append (List.rel_append titles widths) heights

theorem exists_write_unifyTitle (h : d.Writable) :
    ∃ t t', d.write = .ok t ∧ d.unifyTitle.write = .ok t' ∧ Unifies t t' := by
  obtain ⟨lines, hl, -⟩ := lines_ok h
  obtain ⟨lines', hl', -⟩ := lines_ok h.unifyTitle
  have unifies : List.Forall₂ UnifiesLine lines lines' := by
    cases d with
    | window w => exact unifies_lines_window h hl hl'
    | light l =>
      -- without a title nothing changes, so it is written in the same lines
      obtain ⟨-, rfl⟩ := Prod.mk.inj (Except.ok.inj (hl.symm.trans hl'))
      exact unifies_lines_light hl
    | sphere s =>
      obtain ⟨-, rfl⟩ := Prod.mk.inj (Except.ok.inj (hl.symm.trans hl'))
      exact unifies_lines_sphere hl
    | bare => exact absurd h.2 id
  have kind : d.unifyTitle.kindName = d.kindName := by
    cases d <;> rfl
  rw [kind] at hl'
  refine ⟨blockText d.kindName lines, blockText d.kindName lines', ?_, ?_, unifies_blockText ?_ unifies⟩
  · unfold write
    rw [hl]
    rfl
  · unfold write
    rw [hl']
    rfl
  · intro inside
    exact absurd ((isWord_kindName h).isAlpha _ inside) (by decide)

end Definition

/-- **Unified titles are written as the unified text.** -/
theorem exists_writeScene_unifyTitle {ds : List Definition} (h : ∀ d ∈ ds, d.Writable) :
    ∃ t t', writeScene ds = .ok t ∧ writeScene (ds.map Definition.unifyTitle) = .ok t' ∧ Unifies t t' := by
  have all : ∃ ts ts', ds.mapM Definition.write = .ok ts ∧
      (ds.map Definition.unifyTitle).mapM Definition.write = .ok ts' ∧ List.Forall₂ Unifies ts ts' := by
    induction ds with
    | nil => exact ⟨[], [], rfl, rfl, .nil⟩
    | cons d ds ih =>
      obtain ⟨hd, hds⟩ := List.forall_mem_cons.1 h
      obtain ⟨t, t', first, firstToo, unifies⟩ := Definition.exists_write_unifyTitle hd
      obtain ⟨ts, ts', others, othersToo, unifyAll⟩ := ih hds
      refine ⟨t :: ts, t' :: ts', ?_, ?_, .cons unifies unifyAll⟩
      · rw [List.mapM_cons, first, others]
        rfl
      · rw [List.map_cons, List.mapM_cons, firstToo, othersToo]
        rfl
  obtain ⟨ts, ts', written, writtenToo, unifies⟩ := all
  refine ⟨String.join ts, String.join ts', ?_, ?_, .join unifies⟩
  · unfold writeScene
    rw [written]
    rfl
  · unfold writeScene
    rw [writtenToo]
    rfl

end LitSpheres
