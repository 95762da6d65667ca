/-
  File names: the name at the end of a path, and the ending at the end of a name.

  1. **Program** — a name is what stands behind the last slash; its ending starts at the last dot, but
     dots at the start of a name only hide the file.

  2. **Specification** — the stem and the ending together are the name, and the ending is empty or starts
     with a dot.
-/
import LitSpheres.Text.Lowercase

namespace LitSpheres.FileName

/-- The name of a file: what stands behind the last slash of its path. -/
def baseName (path : List Char) : List Char := (path.reverse.takeWhile (· ≠ '/')).reverse

/-- The stem of a name and its ending. -/
def split (name : List Char) : List Char × List Char :=
  let hidden := name.takeWhile (· = '.')
  let visible := name.dropWhile (· = '.')
  if '.' ∈ visible then
    let ending := (visible.reverse.takeWhile (· ≠ '.')).reverse
    (hidden ++ visible.take (visible.length - (ending.length + 1)), '.' :: ending)
  else (name, [])

/-- The picture that a scene file is rendered into by default: the scene's name with the ending of
    pictures, in the current directory. -/
def pictureFor (scenePath : String) : String :=
  String.ofList ((split (baseName scenePath.toList)).1 ++ ".png".toList)

/-- The ending of the file that the path names, in small letters. -/
def ending (path : String) : String := Text.lower (String.ofList (split (baseName path.toList)).2)

example : split "a.b.c".toList = ("a.b".toList, ".c".toList) := by decide
example : split "..a".toList = ("..a".toList, []) := by decide
example : split (baseName "x/..y.z".toList) = ("..y".toList, ".z".toList) := by decide

end LitSpheres.FileName
