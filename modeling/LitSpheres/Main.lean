/-
  The program: it reads the scene file, does what the report says, and ends with its status.

  All that is decided is decided in the report; here it is only carried out.  A drawing is shown by
  its size and title, since there is no window to draw in.  What is saved is written in the one format
  that there is an encoder for, whatever the ending; readers tell formats by the first bytes of a file.
-/
import LitSpheres.CommandLine.Run
import LitSpheres.Png

namespace LitSpheres

/-- The help text. -/
def helpText : String :=
  "usage: giraffics [-h] [-o OUTPUT] [--show] [--width WIDTH] [--height HEIGHT] [--workers WORKERS] [-v] scene_file"

/-- Why a file could not be read; a problem whose number is not known has the number zero. -/
def ReadProblem.ofError : IO.Error → ReadProblem
  | .noFileOrDirectory .. => .unopened .missing
  | .inappropriateType .. => .unopened .isADirectory
  | .permissionDenied .. => .unopened .denied
  | .otherError number said => .system number.toNat said true
  | e => .system 0 e.toString true

/-- The file of the given path, and no other. -/
def openFile (path : String) : IO FileSystem := do
  let answer ← try
      pure (Except.ok (← IO.FS.readBinFile path).data.toList)
    catch e => pure (Except.error (ReadProblem.ofError e))
  pure { read := fun _ => answer, obstacle? := fun _ => none }

/-- Carries a report out. -/
def CommandLine.Report.perform (r : CommandLine.Report) : IO UInt32 := do
  for line in r.log do IO.eprintln line.display
  match r.saved with
  | some (path, picture) => IO.FS.writeBinFile path ⟨(Png.encode picture).toArray⟩
  | none => pure ()
  for drawing in r.shown do
    for (width, height) in drawing.pictures do IO.println s!"{drawing.title}: {width}x{height}"
  match r.result with
  | .ok status => pure (UInt32.ofNat status)
  | .error problem => do
    IO.eprintln problem.message
    pure 1

end LitSpheres

open LitSpheres in
def main (arguments : List String) : IO UInt32 := do
  match CommandLine.Settings.ofArguments arguments with
  | .error refusal => do
    if refusal = .help then IO.println helpText else IO.eprintln helpText
    pure (UInt32.ofNat refusal.status)
  | .ok settings => do
    let files ← openFile settings.scene
    (CommandLine.report arguments files).perform
