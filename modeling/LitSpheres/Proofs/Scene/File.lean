/-
  A scene from a file and the scene of its text.

  1. **Program** — the bytes of a file are decoded and its line ends become line feeds before the text is
     read; a text that comes from elsewhere is read as it is.

  2. **Specification** — a file that holds the encoding of a text is the scene of the text with unified line
     ends.  It is the scene of the text itself, or has the same problem at the same place, if no quoted text
     holds a carriage return, and if no comment holds one with anything but comments and blanks behind it.

  3. **The crux** — decoding gives the text back, and unified line ends show only where a lexeme does not end
     with the line: in quoted texts, and in comments, which a lone carriage return does not end.
-/
import LitSpheres.Proofs.Grammar.LineEnds
import LitSpheres.Proofs.Text.Utf8
import LitSpheres.SceneFile

namespace LitSpheres

/-! ## Texts in files -/

/-- A file can be opened under the path, and its bytes are those of the text. -/
structure FileSystem.Holds (files : FileSystem) (path : String) (text : List Char) : Prop where
  named : path.isEmpty = false
  allowed : '\x00' ∉ path.toList
  written : files.read path = .ok (Text.encodeUtf8 text)

/-- Every path names one text. -/
def FileSystem.of (text : List Char) : FileSystem where
  read _ := .ok (Text.encodeUtf8 text)
  obstacle? _ := none

variable {files : FileSystem} {path : String} {text : List Char}

theorem FileSystem.of_holds (named : path.isEmpty = false) (allowed : '\x00' ∉ path.toList) :
    (FileSystem.of text).Holds path text := ⟨named, allowed, rfl⟩

/-- What is read is the text with unified line ends. -/
theorem FileSystem.Holds.readFile (held : files.Holds path text) :
    readFile files path = .ok (Text.unifyLineEnds text) := by
  unfold LitSpheres.readFile
  rw [held.written]
  dsimp only
  rw [Text.decodeUtf8_encodeUtf8]

namespace Scene

/-- A file is loaded like its text with unified line ends. -/
theorem loadFile_of_holds (held : files.Holds path text) (d : Defaults) :
    loadFile files path d = (loadText (Text.unifyLineEnds text) d).mapError .ofScene := by
  unfold loadFile Loading.ofFile
  rw [held.named, if_neg Bool.false_ne_true, if_neg held.allowed, held.readFile]
  exact Loading.result_ofText _ d

/-- A file whose text is read as definitions is loaded like them. -/
theorem loadFile_of_parse {definitions : List Definition} (held : files.Holds path text)
    (read : parse (Text.unifyLineEnds text) = .ok definitions) (d : Defaults) :
    loadFile files path d = (load definitions d).mapError .value := by
  rw [loadFile_of_holds held]
  unfold loadText
  rw [read]
  dsimp only
  cases load definitions d with
  | error problem => rfl
  | ok s => rfl

/-- **A scene reads the same from a file as from its text.**  A file is loaded like its text with unified line
    ends, whatever the text is.  This is the scene of the text itself, or the same problem with its place, if no
    quoted text holds a carriage return, and if a comment, which ends at a line feed only, holds nothing but line
    ends, blanks and comments once its line ends are unified. -/
theorem loadFile_eq_loadText (held : files.Holds path text) (d : Defaults) :
    loadFile files path d = (loadText (Text.unifyLineEnds text) d).mapError .ofScene ∧
      ((∀ l ∈ Lexeme.cut text, l.KeepsLines) →
        loadFile files path d = (loadText text d).mapError .ofScene) := by
  have unified := loadFile_of_holds held d
  refine ⟨unified, fun good => ?_⟩
  have same : loadText (Text.unifyLineEnds text) d = loadText text d := by
    unfold loadText
    rw [parse_unifyLineEnds good]
  rw [unified, same]

/-- Line ends of all three kinds, the lone carriage return inside of a comment with a comment behind it. -/
def mixedText : List Char := "window \x7b\r\nwidth = 8 # half\r\n\r # of it\r# end\r\n\x7d\rhue".toList

theorem loadFile_eq_loadText_mixed :
    (FileSystem.of mixedText).Holds "a.scene" mixedText ∧ (∀ l ∈ Lexeme.cut mixedText, l.KeepsLines) ∧
      loadFile (.of mixedText) "a.scene" {} = (loadText mixedText {}).mapError .ofScene := by
  have held : (FileSystem.of mixedText).Holds "a.scene" mixedText := FileSystem.of_holds (by decide) (by decide)
  have good : ∀ l ∈ Lexeme.cut mixedText, l.KeepsLines := by
    have quoted : ∀ l ∈ Lexeme.cut mixedText, l.shape = .quoted → '\r' ∉ l.chars := by decide +kernel
    have comment : ∀ l ∈ Lexeme.cut mixedText, l.shape = .comment →
        ∀ t ∈ tokenize (Text.unifyLineEnds l.chars), t.kind = .newline := by decide +kernel
    exact fun l hl => ⟨quoted l hl, comment l hl⟩
  exact ⟨held, good, (loadFile_eq_loadText held {}).2 good⟩

/-- A width in a comment, behind a carriage return. -/
def hiddenText : List Char := "window \x7b\nwidth = 8\n# half\rwidth = 4\n\x7d\n".toList

/-- In the file the comment ends with the carriage return and the width is half as large, though there is no
    quoted text at all. -/
theorem loadFile_ne_loadText :
    (FileSystem.of hiddenText).Holds "a.scene" hiddenText ∧
      (∀ l ∈ Lexeme.cut hiddenText, l.shape = .quoted → '\r' ∉ l.chars) ∧
      loadFile (.of hiddenText) "a.scene" {} ≠ (loadText hiddenText {}).mapError .ofScene := by
  have held : (FileSystem.of hiddenText).Holds "a.scene" hiddenText := FileSystem.of_holds (by decide) (by decide)
  refine ⟨held, by decide +kernel, fun same => ?_⟩
  rw [loadFile_of_holds held] at same
  -- the file is read as half as wide a window
  have widths := congrArg (fun outcome => outcome.toOption.map (·.canvas.width)) same
  have half : ((loadText (Text.unifyLineEnds hiddenText) {}).mapError LoadProblem.ofScene).toOption.map
      (·.canvas.width) = some 4 := by decide +kernel
  have whole : ((loadText hiddenText {}).mapError LoadProblem.ofScene).toOption.map
      (·.canvas.width) = some 8 := by decide +kernel
  rw [half, whole] at widths
  exact absurd widths (by decide)

end Scene
end LitSpheres
