/-
  Folders: files that are kept by name, as far as a path within them goes.

  1. **Program** — a path is a list of names between slashes, and it is walked name by name: a name leads
     to a file or to a folder within, one dot stays, and two dots lead back.

  2. **Specification** — opening a path gives the bytes of the file that the walk ends at.  The walk ends
     early where a name is too long, where nothing has the name, or where a file is passed through;
     the first of these on the way is the problem, and it may hide others behind it.

  3. **The crux** — an empty name is a dot, so a path that ends in a slash names no file.  What lies outside
     the folder is unknown: only the dots lead anywhere from there.
-/
import LitSpheres.SceneFile

namespace LitSpheres

/-- Files by the names on their paths. -/
structure Folder where
  files : List (List String × List UInt8)

/-- Where a walk has come to. -/
inductive Spot where
  /-- A folder within, by the names on the way to it. -/
  | folder (names : List String)
  /-- A file, by the names on the way to it. -/
  | file (names : List String) (bytes : List UInt8)
  /-- Somewhere outside. -/
  | outside

namespace Folder

/-- The names between the slashes of a path. -/
def names (path : String) : List String := ((path.split '/').map (·.toString)).toList

/-- The folder that holds the given files. -/
def ofFiles (files : List (String × List UInt8)) : Folder :=
  ⟨files.map fun (path, bytes) => ((names path).filter fun name => name ≠ "" ∧ name ≠ ".", bytes)⟩

/-- The most bytes that a name may have. -/
def mostNameBytes : Nat := 255

/-- The most bytes that a path may have. -/
def mostPathBytes : Nat := 4095

/-- What has a name in a folder. -/
def lookUp (f : Folder) (way : List String) (name : String) : Except OpenProblem Spot :=
  let way := way ++ [name]
  if name.utf8ByteSize > mostNameBytes then .error .nameTooLong
  else
    match f.files.find? (·.1 == way) with
    | some (_, bytes) => .ok (.file way bytes)
    | none => if f.files.any (way.isPrefixOf ·.1) then .ok (.folder way) else .error .missing

/-- One name further. -/
def step (f : Folder) (spot : Spot) (name : String) : Except OpenProblem Spot :=
  match spot with
  | .file .. => .error .notADirectory
  | .folder way =>
    if name = "" ∨ name = "." then .ok spot
    else if name = ".." then .ok (if way = [] then .outside else .folder way.dropLast)
    else f.lookUp way name
  | .outside =>
    if name = "" ∨ name = "." ∨ name = ".." then .ok .outside
    else .error (if name.utf8ByteSize > mostNameBytes then .nameTooLong else .missing)

/-- Where a path starts: one that starts with a slash starts outside. -/
def start (path : String) : Spot := if path.toList.head? = some '/' then .outside else .folder []

/-- The end of the walk along a path. -/
def walk (f : Folder) (path : String) : Except OpenProblem Spot :=
  if path.utf8ByteSize > mostPathBytes then .error .nameTooLong
  else (names path).foldlM f.step (start path)

/-- The bytes of the file that a path names. -/
def read (f : Folder) (path : String) : Except OpenProblem (List UInt8) := do
  match ← f.walk path with
  | .file _ bytes => .ok bytes
  | .folder _ | .outside => .error .isADirectory

/-- The way to the file that is written under a path, if it lies within the folder. -/
def target (f : Folder) (path : String) : Except OpenProblem (Option (List String)) := do
  let name := ((names path).getLast?).getD ""
  if path.utf8ByteSize > mostPathBytes then .error .nameTooLong
  else
    match ← (names path).dropLast.foldlM f.step (start path) with
    | .file .. => .error .notADirectory
    | .outside => if name.utf8ByteSize > mostNameBytes then .error .nameTooLong else .ok none
    | .folder way =>
      match f.step (.folder way) name with
      | .error .missing => .ok (some (way ++ [name]))
      | .error problem => .error problem
      | .ok (.file way _) => .ok (some way)
      | .ok _ => .error .isADirectory

/-- The name of the file that writing under a path adds to the folder, if it adds one. -/
def added? (f : Folder) (path : String) : Option String :=
  match f.target path with
  | .ok (some way) => if f.files.any (·.1 == way) then none else some ("/".intercalate way)
  | _ => none

/-- The files of the folder, by the paths that lead to them. -/
def fileSystem (f : Folder) : FileSystem :=
  { read := fun path => (f.read path).mapError .unopened
    obstacle? := fun path =>
      match f.target path with
      | .ok _ => none
      | .error problem => some problem }

end Folder
end LitSpheres
