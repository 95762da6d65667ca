/-
  What the program does with its settings.

  1. **Program** — the scene is loaded, given the size that the settings ask for, and rendered; the picture
     is saved, shown, or both.  Without a wish it is saved under the scene's name.

  2. **Specification** — a scene that cannot be loaded, or a size without pixels, is reported in the log and
     ends the program with status 1, before anything is rendered or saved.  A picture that cannot be
     saved ends it without a status, before anything is shown.

  3. **The crux** — the report is a value: what is logged, saved and shown is known before any of it is
     done.
-/
import LitSpheres.CommandLine.Arguments
import LitSpheres.FileName
import LitSpheres.Picture
import LitSpheres.PictureFormat
import LitSpheres.SceneFile

namespace LitSpheres.CommandLine

/-- Problems that nothing in the program takes care of. -/
inductive Failure where
  | value (problem : ValueProblem)
  /-- No file can be written under the path. -/
  | unsaved (path : String) (problem : OpenProblem)
  /-- The picture format does not take the picture. -/
  | format (problem : FormatProblem)
  /-- What an option was given is compared with a number, and it was given nothing. -/
  | comparison (sign : String)
  /-- What an option was given is written as a number, and it was given nothing. -/
  | noNumber

namespace Failure

def message : Failure → String
  | value p => p.message
  | unsaved path p => p.describe path
  | format p => p.message
  | comparison sign => s!"'{sign}' not supported between instances of 'list' and 'int'"
  | noNumber => "%d format: a real number is required, not list"

end Failure

/-- What the program does. -/
structure Report where
  /-- The exit status, or what ended the program before it had one. -/
  result : Except Failure Nat
  log : List LogLine := []
  /-- The picture that is saved, and its path. -/
  saved : Option (String × Picture) := none
  shown : List Drawing := []

namespace Report

/-- The report with log lines before its own. -/
def after (r : Report) (log : List LogLine) : Report := { r with log := log ++ r.log }

@[simp] theorem result_after (r : Report) (log : List LogLine) : (r.after log).result = r.result := rfl

@[simp] theorem saved_after (r : Report) (log : List LogLine) : (r.after log).saved = r.saved := rfl

@[simp] theorem shown_after (r : Report) (log : List LogLine) : (r.after log).shown = r.shown := rfl

/-- A failure, and nothing else. -/
def broken (f : Failure) : Report := { result := .error f }

/-- A problem of the scene or the settings, in the log. -/
def failed (message : String) : Report :=
  { result := .ok 1, log := [{ level := .error, part := "cli", message }] }

end Report

/-- The log line of a picture that is about to be rendered. -/
def renderingLine (s : Scene) : LogLine :=
  { level := .info, part := "raytracer"
    message := s!"rendering {s.canvas.width}x{s.canvas.height} frame with {s.spheres.length} sphere(s) " ++
      s!"and {s.lights.length} light(s)" }

/-- The log line of a picture that was saved. -/
def savedLine (path : String) : LogLine := { level := .info, part := "cli", message := s!"saved {path}" }

/-- What keeps a picture from being saved under a path: its sides are looked at first, then the format that
    the ending of the path stands for, then whether a file can be written there, and last whether the format
    takes the picture. -/
def savingFailure? (files : FileSystem) (picture : Picture) (path : String) : Option Failure :=
  match picture.savingProblem?, PictureFormat.ofEnding? (FileName.ending path) with
  | some problem, _ => some (.value problem)
  | none, none => some (.value (.pictureFormat (FileName.ending path)))
  | none, some format =>
    match format.problemBefore? with
    | some problem => some (.format problem)
    | none =>
      if '\x00' ∈ path.toList then some (.value .nullInPath)
      else
        match files.obstacle? path with
        | some problem => some (.unsaved path problem)
        | none => format.problem?.map .format

/-- Saves a picture under a path, and shows it if that is asked for as well. -/
def deliver (files : FileSystem) (picture : Picture) (output : Option String) (display : Bool)
    (title : String) : Report :=
  let shown := if display then showPicture [] picture (some title) true else []
  match output with
  | none => { result := .ok 0, shown }
  | some path =>
    match savingFailure? files picture path with
    | some failure => .broken failure
    | none => { result := .ok 0, log := [savedLine path], saved := some (path, picture), shown }

/-- Renders a scene and delivers the picture.  The number of workers is compared when the rendering starts. -/
def draw (files : FileSystem) (scene : Scene) (output : Option String) (display : Bool) (workers : Given) :
    Report :=
  match Frame.sizeProblem? .array scene.canvas.frameSize with
  | some problem => .broken (.value problem)
  | none =>
    let report : Report := match workers with
      | .nothing => .broken (.comparison "<=")
      | .number n =>
        match scene.picture (some n) with
        | .error problem => .broken (.value problem)
        | .ok picture => deliver files picture output display scene.title
    report.after [renderingLine scene]

namespace Settings

/-- Where the picture is saved: under the scene's name if it is neither given a path nor shown. -/
def outputPath (s : Settings) : Option String :=
  match s.output with
  | some path => some path
  | none => if s.display then none else some (FileName.pictureFor s.scene)

/-- Renders the scene at another size. -/
def drawResized (s : Settings) (files : FileSystem) (scene : Scene) (width height : Int) : Report :=
  if width < 1 ∨ height < 1 then Report.failed s!"Canvas size must be positive, got {width}x{height}"
  else
    match scene.resized (.whole width) (.whole height) with
    | .error problem => .broken (.value problem)
    | .ok scene => draw files scene s.outputPath s.display s.workers

/-- Gives the scene the size that is asked for, and renders it.  The width is compared first. -/
def drawSized (s : Settings) (files : FileSystem) (scene : Scene) : Report :=
  if s.width.isNone && s.height.isNone then draw files scene s.outputPath s.display s.workers
  else
    match s.width.getD (.number scene.canvas.width), s.height.getD (.number scene.canvas.height) with
    | .nothing, _ => .broken (.comparison "<")
    | .number width, .nothing => .broken (if width < 1 then .noNumber else .comparison "<")
    | .number width, .number height => s.drawResized files scene width height

/-- Loads the scene and renders it. -/
def run (s : Settings) (files : FileSystem) : Report :=
  let loading := Loading.ofFile files s.scene {}
  let report : Report := match loading.result with
    | .error (.value problem) => .broken (.value problem)
    | .error problem => Report.failed problem.message
    | .ok scene => s.drawSized files scene
  report.after loading.log

/-- The lines of the log that the user wants to see. -/
def wanted (s : Settings) (log : List LogLine) : List LogLine :=
  log.filter fun l => s.verbose || l.level ≠ .debug

end Settings

/-- What the program does when it is called with these arguments. -/
def report (arguments : List String) (files : FileSystem) : Report :=
  match Settings.ofArguments arguments with
  | .error refusal => { result := .ok refusal.status }
  | .ok settings =>
    let r := settings.run files
    { r with log := settings.wanted r.log }

end LitSpheres.CommandLine
