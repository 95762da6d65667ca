/-
  Saving a scene and loading it again.

  1. **Program** — the text of definitions is encoded and put into a file; the file is decoded, its line ends
     are unified, and what is read is loaded.

  2. **Specification** — the scene from the file is the scene of the definitions, number by number; only in
     the title has every line end become a line feed, if a window set the title.

  3. **The crux** — the file is read as the definitions with unified titles, and a title passes through
     loading without being looked at.
-/
import LitSpheres.Proofs.Definition.RoundTrip
import LitSpheres.Proofs.Definition.Titles
import LitSpheres.Proofs.Scene.File
import LitSpheres.Proofs.Scene.Loaded

namespace LitSpheres

variable {definitions : List Definition} {d : Defaults}

/-! ## Titles of drafts -/

namespace Draft

variable {draft next : Draft} {definition : Definition}

/-- A definition that sets no title leaves it as it is. -/
theorem title_of_add (added : draft.add definition = .ok next) (untitled : definition.setsTitle = false) :
    next.title = draft.title := by
  cases definition with
  | window w =>
    obtain ⟨width, -, added⟩ := exists_of_bind_ok added
    obtain ⟨height, -, added⟩ := exists_of_bind_ok added
    obtain rfl := Except.ok.inj added
    have none : w.title = none := Option.isNone_iff_eq_none.1 (Option.isSome_eq_false_iff.1 untitled)
    show w.title.getD draft.title = draft.title
    rw [none]
    rfl
  | light l =>
    obtain rfl := Except.ok.inj added
    rfl
  | sphere spec =>
    obtain ⟨sphere, -, added⟩ := exists_of_bind_ok added
    obtain rfl := Except.ok.inj added
    rfl
  | bare => exact absurd added nofun

theorem title_of_addAll (added : definitions.foldlM Draft.add draft = .ok next)
    (untitled : definitions.any Definition.setsTitle = false) : next.title = draft.title := by
  induction definitions generalizing draft with
  | nil =>
    obtain rfl := Except.ok.inj added
    rfl
  | cons first others ih =>
    obtain ⟨here, later⟩ := Bool.or_eq_false_iff.1 untitled
    rw [List.foldlM_cons] at added
    obtain ⟨middle, addedFirst, addedOthers⟩ := exists_of_bind_ok added
    exact (ih addedOthers later).trans (title_of_add addedFirst here)

/-- **One definition more**, with its title unified, to a draft with another title. -/
theorem add_unifyTitle (draft : Draft) (definition : Definition) (other : String) :
    { draft with title := other }.add definition.unifyTitle = (draft.add definition).map fun next =>
      { next with title := if definition.setsTitle then Text.unifyString next.title else other } := by
  cases definition with
  | window w =>
    obtain ⟨title, width, height⟩ := w
    unfold Definition.unifyTitle add
    dsimp only
    cases side draft.width width with
    | error problem => rfl
    | ok wide =>
      cases side draft.height height with
      | error problem => rfl
      | ok high =>
        cases title with
        | none => rfl
        | some set => rfl
  | light l => rfl
  | sphere spec =>
    unfold Definition.unifyTitle add
    dsimp only
    cases Sphere.ofSpec spec with
    | error problem => rfl
    | ok sphere => rfl
  | bare => rfl

/-- **All definitions**, with their titles unified: a title that none of them sets stays the other one. -/
theorem addAll_unifyTitle (draft : Draft) (definitions : List Definition) (other : String) :
    (definitions.map Definition.unifyTitle).foldlM add { draft with title := other } =
      (definitions.foldlM add draft).map fun last =>
        { last with title := if definitions.any Definition.setsTitle then Text.unifyString last.title
                             else other } := by
  induction definitions generalizing draft other with
  | nil => rfl
  | cons first others ih =>
    rw [List.map_cons, List.foldlM_cons, List.foldlM_cons, add_unifyTitle]
    cases added : draft.add first with
    | error problem => rfl
    | ok next =>
      show (others.map Definition.unifyTitle).foldlM add
        { next with title := if first.setsTitle then Text.unifyString next.title else other } =
          (others.foldlM add next).map _
      rw [ih]
      cases rest : others.foldlM add next with
      | error problem => rfl
      | ok last =>
        rw [List.any_cons]
        cases later : others.any Definition.setsTitle with
        | true =>
          rw [Bool.or_true]
          rfl
        | false =>
          -- the title is the one that was there before the others
          rw [Bool.or_false, ← title_of_addAll rest later]
          rfl

end Draft

/-! ## Titles of scenes -/

namespace Scene

variable {s : Scene}

theorem title_of_load (loaded : load definitions d = .ok s)
    (untitled : definitions.any Definition.setsTitle = false) : s.title = d.title := by
  obtain ⟨draft, drafted, made⟩ := exists_of_bind_ok loaded
  obtain ⟨canvas, -, made⟩ := exists_of_bind_ok made
  obtain rfl := Except.ok.inj made
  exact Draft.title_of_addAll drafted untitled

/-- **Definitions with unified titles** are the scene of the definitions, with the title unified if they set
    one. -/
theorem load_unifyTitle (definitions : List Definition) (d : Defaults) :
    load (definitions.map Definition.unifyTitle) d = (load definitions d).map fun s =>
      { s with title := if definitions.any Definition.setsTitle then Text.unifyString s.title
                        else d.title } := by
  have added : (definitions.map Definition.unifyTitle).foldlM Draft.add (Draft.ofDefaults d) = _ :=
    Draft.addAll_unifyTitle (Draft.ofDefaults d) definitions d.title
  unfold load
  rw [added]
  cases definitions.foldlM Draft.add (Draft.ofDefaults d) with
  | error problem => rfl
  | ok draft =>
    -- the canvas is made of the sides alone, which both drafts share
    show Draft.toScene _ d = (draft.toScene d).map _
    unfold Draft.toScene
    dsimp only
    cases Canvas.of draft.width draft.height with
    | error problem => rfl
    | ok canvas => rfl

/-! ## There and back -/

/-- What is written is read from a file as the definitions with unified titles. -/
theorem exists_parse_unified (nonempty : definitions ≠ [])
    (good : ∀ definition ∈ definitions, definition.Writable ∧ definition.InRange) :
    ∃ text, writeScene definitions = .ok text ∧
      parse (Text.unifyLineEnds text.toList) = .ok (definitions.map Definition.unifyTitle) := by
  obtain ⟨text, unified, written, writtenToo, unifies⟩ :=
    exists_writeScene_unifyTitle fun definition h => (good definition h).1
  have goodToo : ∀ definition ∈ definitions.map Definition.unifyTitle,
      definition.Writable ∧ definition.InRange := by
    intro definition h
    obtain ⟨before, hb, rfl⟩ := List.mem_map.1 h
    exact ⟨(good before hb).1.unifyTitle, (good before hb).2.unifyTitle⟩
  obtain ⟨same, writtenSame, reads, -⟩ := parse_of_writeScene fun definition h => (goodToo definition h).1
  -- the text with unified line ends is what is written for the unified titles, so it is read back
  obtain rfl : unified = same := Except.ok.inj (writtenToo.symm.trans writtenSame)
  have nonemptyToo : definitions.map Definition.unifyTitle ≠ [] := fun none =>
    nonempty (List.map_eq_nil_iff.1 none)
  refine ⟨text, written, ?_⟩
  rw [unifies.unifyLineEnds_eq]
  exact reads nonemptyToo fun definition h => (goodToo definition h).2

/-- **Saving a scene and loading it again.**  Definitions that can be written and are in range are written; and
    if a file holds the encoding of their text, then from the file comes the scene of the definitions, with
    the same canvas, spheres and lights, or the same problem of the defaults.  Only in a title that they set
    has every line end become a line feed.  With defaults that are a canvas there is a scene, and if their
    title has no carriage return, the title is unified whether it was set or not. -/
theorem saved_and_loaded {definitions : List Definition} (nonempty : definitions ≠ [])
    (good : ∀ definition ∈ definitions, definition.Writable ∧ definition.InRange) :
    ∃ text, writeScene definitions = .ok text ∧
      ∀ (files : FileSystem) (path : String) (d : Defaults), files.Holds path text.toList →
        loadFile files path d = ((load definitions d).map fun s =>
          { s with title := if definitions.any Definition.setsTitle then Text.unifyString s.title
                            else d.title }).mapError .value ∧
        (d.width.AtLeastOne → d.height.AtLeastOne → ∃ s, load definitions d = .ok s ∧
          ('\r' ∉ d.title.toList →
            loadFile files path d = .ok { s with title := Text.unifyString s.title })) := by
  obtain ⟨text, written, read⟩ := exists_parse_unified nonempty good
  refine ⟨text, written, fun files path d held => ?_⟩
  have outcome := loadFile_of_parse held read d
  rw [load_unifyTitle] at outcome
  refine ⟨outcome, fun width height => ?_⟩
  obtain ⟨s, loaded, -⟩ := exists_load good width height
  refine ⟨s, loaded, fun plain => ?_⟩
  have title : (if definitions.any Definition.setsTitle then Text.unifyString s.title else d.title) =
      Text.unifyString s.title := by
    cases set : definitions.any Definition.setsTitle with
    | true => rfl
    | false =>
      show d.title = Text.unifyString s.title
      rw [title_of_load loaded set, Text.unifyString_of_not_mem plain]
  rw [outcome, loaded, ← title]
  rfl

/-- A ball and dim light, in a window whose title has one line end of each kind. -/
def threeLines : List Definition :=
  [.window { title := some "a\r\nb\rc\n", width := some 2.5 }, .light (.point 0.1 ⟨-0.0, 1, 1e-7⟩),
    .sphere { color := ⟨255, 0.5, 300⟩, center := ⟨0, 0, 3⟩, radius := 1 }]

theorem saved_and_loaded_threeLines :
    threeLines ≠ [] ∧ (∀ definition ∈ threeLines, definition.Writable ∧ definition.InRange) ∧
      ∃ text s, writeScene threeLines = .ok text ∧ load threeLines {} = .ok s ∧
        s.title = "a\r\nb\rc\n" ∧
        loadFile (.of text.toList) "a.scene" {} = .ok { s with title := "a\nb\nc\n" } := by
  have nonempty : threeLines ≠ [] := List.cons_ne_nil _ _
  have good : ∀ definition ∈ threeLines, definition.Writable ∧ definition.InRange := by decide +kernel
  have width : ({} : Defaults).width.AtLeastOne := by
    show (1 : Int) ≤ 1000
    decide
  have height : ({} : Defaults).height.AtLeastOne := by
    show (1 : Int) ≤ 700
    decide
  obtain ⟨text, written, outcomes⟩ := saved_and_loaded nonempty good
  obtain ⟨-, scenes⟩ := outcomes (.of text.toList) "a.scene" {} (FileSystem.of_holds (by decide) (by decide))
  obtain ⟨s, loaded, unified⟩ := scenes width height
  have titled : s.title = "a\r\nb\rc\n" := by
    have titles : (load threeLines {}).toOption.map (·.title) = some "a\r\nb\rc\n" := by decide +kernel
    rw [loaded] at titles
    exact Option.some.inj titles
  have file := unified (by decide)
  rw [titled] at file
  exact ⟨nonempty, good, text, s, written, loaded, titled, file⟩

end Scene
end LitSpheres
