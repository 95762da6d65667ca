/-
  How loading a file ends.

  1. **Program** — a file is opened, read, decoded, and its text is read and loaded; what goes wrong with the
     file or with its text is said as a problem of the scene.

  2. **Specification** — for every path and every state of the files: a scene, a problem of the text, or a
     problem of the file, each in exactly the cases where it is due.  One way is left on which something else
     comes out: a path with a null character in it.

  3. **The crux** — bytes are decoded exactly if they encode a text, so a path without a null character is
     unreadable or holds one text; and the definitions of a text are always those of a scene.
-/
import LitSpheres.Proofs.Scene.File
import LitSpheres.Proofs.Scene.Loaded

namespace LitSpheres

/-- The problem is one of the scene: of its file or of its text. -/
def LoadProblem.OfScene : LoadProblem → Prop
  | file _ | text _ => True
  | value _ => False

/-! ## What a path holds -/

/-- There is no path, the bytes of the file cannot be had, or no text is encoded by them. -/
def FileSystem.Unreadable (files : FileSystem) (path : String) : Prop :=
  path = "" ∨ (∃ problem, files.read path = .error problem) ∨
    ∃ bytes, files.read path = .ok bytes ∧ ∀ text, Text.encodeUtf8 text ≠ bytes

namespace FileSystem

variable {files : FileSystem} {path : String} {text : List Char}

/-- A path that a file can have is unreadable or holds a text. -/
theorem unreadable_or_holds (files : FileSystem) (allowed : '\x00' ∉ path.toList) :
    files.Unreadable path ∨ ∃ text, files.Holds path text := by
  by_cases none : path = ""
  · exact .inl (.inl none)
  cases read : files.read path with
  | error problem => exact .inl (.inr (.inl ⟨problem, read⟩))
  | ok bytes =>
    by_cases decoded : ∃ text, Text.encodeUtf8 text = bytes
    · obtain ⟨text, rfl⟩ := decoded
      have named : path.isEmpty = false := by
        rw [← Bool.not_eq_true, String.isEmpty_iff]
        exact none
      exact .inr ⟨text, named, allowed, read⟩
    · exact .inl (.inr (.inr ⟨bytes, read, not_exists.1 decoded⟩))

end FileSystem

/-! ## The ends of loading -/

namespace Scene

variable {files : FileSystem} {path : String} {text : List Char} {definitions : List Definition} {d : Defaults}

theorem loadFile_of_null (null : '\x00' ∈ path.toList) :
    loadFile files path d = .error (.value .nullInPath) := by
  have named : ¬path.isEmpty = true := by
    rw [String.isEmpty_iff]
    rintro rfl
    exact absurd null nofun
  unfold loadFile Loading.ofFile
  rw [if_neg named, if_pos null]

theorem readFile_of_unreadable (named : path ≠ "") (h : files.Unreadable path) :
    ∃ problem, readFile files path = .error problem := by
  unfold readFile
  rcases h with none | ⟨problem, failed⟩ | ⟨bytes, read, undecoded⟩
  · exact absurd none named
  · rw [failed]
    exact ⟨_, rfl⟩
  · rw [read]
    dsimp only
    cases decoded : Text.decodeUtf8 bytes with
    | error fault => exact ⟨_, rfl⟩
    | ok text => exact absurd (Text.decodeUtf8_eq_ok_iff.1 decoded) (undecoded text)

theorem loadFile_of_unreadable (allowed : '\x00' ∉ path.toList) (h : files.Unreadable path) :
    ∃ problem, loadFile files path d = .error (.file problem) := by
  unfold loadFile Loading.ofFile
  by_cases none : path.isEmpty = true
  · rw [if_pos none]
    exact ⟨_, rfl⟩
  · have named : path ≠ "" := fun same => none (String.isEmpty_iff.2 same)
    obtain ⟨problem, failed⟩ := readFile_of_unreadable named h
    rw [if_neg none, if_neg allowed, failed]
    exact ⟨problem, rfl⟩

theorem loadFile_of_problem {problem : TextProblem} (held : files.Holds path text)
    (h : parse (Text.unifyLineEnds text) = .error problem) :
    loadFile files path d = .error (.text problem) := by
  rw [loadFile_of_holds held, loadText_of_problem h]
  rfl

theorem loadFile_of_load {s : Scene} (held : files.Holds path text)
    (h : parse (Text.unifyLineEnds text) = .ok definitions) (loaded : load definitions d = .ok s) :
    loadFile files path d = .ok s := by
  rw [loadFile_of_parse held h, loaded]
  rfl

/-- With the defaults, definitions that were read are those of a scene. -/
theorem exists_load_default (h : parse text = .ok definitions) : ∃ s, load definitions {} = .ok s := by
  have width : ({} : Defaults).width.AtLeastOne := by
    show (1 : Int) ≤ 1000
    decide
  have height : ({} : Defaults).height.AtLeastOne := by
    show (1 : Int) ≤ 700
    decide
  obtain ⟨s, loaded, -⟩ := exists_load_of_parse h width height
  exact ⟨s, loaded⟩

/-- **The four ends**, in the order in which they are decided. -/
theorem loadFile_ends (files : FileSystem) (path : String) :
    ('\x00' ∈ path.toList ∧ loadFile files path {} = .error (.value .nullInPath)) ∨
      (('\x00' ∉ path.toList ∧ files.Unreadable path) ∧
        ∃ problem, loadFile files path {} = .error (.file problem)) ∨
      (∃ text problem, files.Holds path text ∧ parse (Text.unifyLineEnds text) = .error problem ∧
        loadFile files path {} = .error (.text problem)) ∨
      ∃ text definitions s, files.Holds path text ∧ parse (Text.unifyLineEnds text) = .ok definitions ∧
        load definitions {} = .ok s ∧ loadFile files path {} = .ok s := by
  by_cases null : '\x00' ∈ path.toList
  · exact .inl ⟨null, loadFile_of_null null⟩
  rcases files.unreadable_or_holds null with unreadable | ⟨text, held⟩
  · exact .inr (.inl ⟨⟨null, unreadable⟩, loadFile_of_unreadable null unreadable⟩)
  cases read : parse (Text.unifyLineEnds text) with
  | error problem => exact .inr (.inr (.inl ⟨text, problem, held, read, loadFile_of_problem held read⟩))
  | ok definitions =>
    obtain ⟨s, loaded⟩ := exists_load_default read
    exact .inr (.inr (.inr ⟨text, definitions, s, held, read, loaded, loadFile_of_load held read loaded⟩))

/-! ## Which end it was

No end is one of the others, so what comes out tells which one it was. -/

theorem loadFile_eq_value_iff {problem : ValueProblem} :
    loadFile files path {} = .error (.value problem) ↔ '\x00' ∈ path.toList ∧ problem = .nullInPath := by
  constructor
  · intro failed
    rcases loadFile_ends files path with ⟨null, ended⟩ | ⟨-, _, ended⟩ | ⟨_, _, -, -, ended⟩ |
      ⟨_, _, _, -, -, -, ended⟩ <;> rw [failed] at ended
    · exact ⟨null, LoadProblem.value.inj (Except.error.inj ended)⟩
    all_goals exact absurd ended nofun
  · rintro ⟨null, rfl⟩
    exact loadFile_of_null null

theorem exists_loadFile_eq_file_iff :
    (∃ problem, loadFile files path {} = .error (.file problem)) ↔
      '\x00' ∉ path.toList ∧ files.Unreadable path := by
  constructor
  · rintro ⟨problem, failed⟩
    rcases loadFile_ends files path with ⟨-, ended⟩ | ⟨unreadable, -⟩ | ⟨_, _, -, -, ended⟩ |
      ⟨_, _, _, -, -, -, ended⟩
    · exact absurd (failed.symm.trans ended) nofun
    · exact unreadable
    all_goals exact absurd (failed.symm.trans ended) nofun
  · rintro ⟨allowed, unreadable⟩
    exact loadFile_of_unreadable allowed unreadable

theorem loadFile_eq_text_iff {problem : TextProblem} :
    loadFile files path {} = .error (.text problem) ↔
      ∃ text, files.Holds path text ∧ parse (Text.unifyLineEnds text) = .error problem := by
  constructor
  · intro failed
    rcases loadFile_ends files path with ⟨-, ended⟩ | ⟨-, _, ended⟩ | ⟨text, _, held, read, ended⟩ |
      ⟨_, _, _, -, -, -, ended⟩ <;> rw [failed] at ended
    rotate_left 2
    · obtain rfl := LoadProblem.text.inj (Except.error.inj ended)
      exact ⟨text, held, read⟩
    all_goals exact absurd ended nofun
  · rintro ⟨text, held, read⟩
    exact loadFile_of_problem held read

theorem loadFile_eq_ok_iff {s : Scene} :
    loadFile files path {} = .ok s ↔
      ∃ text definitions, files.Holds path text ∧ parse (Text.unifyLineEnds text) = .ok definitions ∧
        load definitions {} = .ok s := by
  constructor
  · intro worked
    rcases loadFile_ends files path with ⟨-, ended⟩ | ⟨-, _, ended⟩ | ⟨_, _, -, -, ended⟩ |
      ⟨text, definitions, _, held, read, loaded, ended⟩ <;> rw [worked] at ended
    rotate_left 3
    · obtain rfl := Except.ok.inj ended
      exact ⟨text, definitions, held, read, loaded⟩
    all_goals exact absurd ended nofun
  · rintro ⟨text, definitions, held, read, loaded⟩
    exact loadFile_of_load held read loaded

/-- Only the null character gives a problem that is none of the scene. -/
theorem loadFile_eq_foreign_iff {problem : LoadProblem} :
    (loadFile files path {} = .error problem ∧ ¬problem.OfScene) ↔
      '\x00' ∈ path.toList ∧ problem = .value .nullInPath := by
  cases problem with
  | file p => exact ⟨fun h => absurd trivial h.2, nofun⟩
  | text p => exact ⟨fun h => absurd trivial h.2, nofun⟩
  | value p =>
    rw [loadFile_eq_value_iff, LoadProblem.value.injEq]
    exact and_iff_left id

/-- **How loading a file ends**, with the defaults and for every path and all files.  What comes out is a
    problem of the scene or a scene, unless the path holds a null character.  It is a problem of the file
    exactly if such a path is empty, or the bytes cannot be had, or they encode no text.  It is a problem of
    the text exactly if reading the text with unified line ends gives this problem, which can be told; and it
    is the scene of the definitions exactly if reading gives these. -/
theorem loadFile_outcomes (files : FileSystem) (path : String) :
    (∀ problem, (loadFile files path {} = .error problem ∧ ¬problem.OfScene) ↔
      '\x00' ∈ path.toList ∧ problem = .value .nullInPath) ∧
    ((∃ problem, loadFile files path {} = .error (.file problem)) ↔
      '\x00' ∉ path.toList ∧ files.Unreadable path) ∧
    (∀ problem, loadFile files path {} = .error (.text problem) ↔
      ∃ text, files.Holds path text ∧ parse (Text.unifyLineEnds text) = .error problem) ∧
    (∀ m, loadFile files path {} = .error (.text (.meaning m)) → m.Sayable) ∧
    ∀ s, loadFile files path {} = .ok s ↔
      ∃ text definitions, files.Holds path text ∧ parse (Text.unifyLineEnds text) = .ok definitions ∧
        load definitions {} = .ok s := by
  refine ⟨fun _ => loadFile_eq_foreign_iff, exists_loadFile_eq_file_iff, fun _ => loadFile_eq_text_iff, ?_,
    fun _ => loadFile_eq_ok_iff⟩
  intro m failed
  obtain ⟨text, -, read⟩ := loadFile_eq_text_iff.1 failed
  exact sayable_of_parse read

/-- A null character in the path gives a problem that is none of the scene, whatever the files are. -/
theorem not_ofScene_null :
    loadFile (.of []) "a\x00.scene" {} = .error (.value .nullInPath) ∧
      ¬(LoadProblem.value .nullInPath).OfScene :=
  ⟨loadFile_of_null (by decide), id⟩

end Scene
end LitSpheres
