/-
  How a run of the program ends.

  1. **Program** — the scene is loaded, given the size that is asked for, and rendered; its picture is saved,
     shown, or both.

  2. **Specification** — the status is 1, and no file is written, exactly if the file is no scene or a side of
     the picture would be less than one pixel.  Otherwise, if the scene can be rendered and nothing outside
     the program is in the way, the status is 0, and the picture shows the scene in its size, pixel by pixel,
     under the path that is due.  One name is left for which it is not: the default picture of a scene file
     that is named by dots alone has no ending.  The number of workers changes nothing.

  3. **The crux** — a scene is resized to its own size where nothing is asked for, so every run resizes; and
     the first pixel that cannot be shaded is the same for any number of workers.  Whether the picture can be
     saved is decided by its path alone, once its sides and the files allow it.
-/
import LitSpheres.CommandLine.Run
import LitSpheres.Proofs.FileName
import LitSpheres.Proofs.Render.Picture
import LitSpheres.Proofs.Scene.Outcome
import LitSpheres.Proofs.Scene.Resized

namespace LitSpheres

/-- Files with this ending are of a format that takes a picture. -/
def PictureFormat.Takes (ending : String) : Prop :=
  ∃ format, PictureFormat.ofEnding? ending = some format ∧ format.problem? = none

theorem PictureFormat.takes_png : Takes ".png" := ⟨_, rfl, rfl⟩

namespace CommandLine

variable {files : FileSystem} {scene resized : Scene} {output : Option String} {display : Bool}
  {picture : Picture} {settings : Settings} {width height : Option Int} {workers : Int} {path title : String}

/-! ## Drawing -/

/-- Delivering a picture does not end with status 1. -/
theorem result_deliver_ne_one (title : String) :
    (deliver files picture output display title).result ≠ .ok 1 := by
  unfold deliver
  cases output with
  | none => exact nofun
  | some path =>
    dsimp only
    cases savingFailure? files picture path with
    | none => exact nofun
    | some failure => exact nofun

/-- Drawing a scene does not end with status 1. -/
theorem result_draw_ne_one (workers : Given) : (draw files scene output display workers).result ≠ .ok 1 := by
  unfold draw
  cases Frame.sizeProblem? .array scene.canvas.frameSize with
  | some problem => exact nofun
  | none =>
    rw [Report.result_after]
    cases workers with
    | nothing => exact nofun
    | number n =>
      dsimp only
      cases scene.picture (some n) with
      | error problem => exact nofun
      | ok picture => exact result_deliver_ne_one scene.title

theorem draw_workers (m n : Int) :
    draw files scene output display (.number m) = draw files scene output display (.number n) := by
  unfold draw
  dsimp only
  rw [scene.picture_workers (some m) (some n)]

/-- A picture that can be kept is delivered. -/
theorem draw_of_kept (rendered : scene.keptPicture (some workers) = .ok picture) :
    draw files scene output display (.number workers) =
      (deliver files picture output display scene.title).after [renderingLine scene] := by
  obtain ⟨room, shown⟩ := Scene.keptPicture_eq_ok_iff.1 rendered
  rw [draw, room]
  dsimp only
  rw [shown]

/-! ## Saving -/

/-- **When a picture can be saved under a path.** -/
theorem savingFailure?_eq_none_iff : savingFailure? files picture path = none ↔
    picture.savingProblem? = none ∧ PictureFormat.Takes (FileName.ending path) ∧ '\x00' ∉ path.toList ∧
      files.obstacle? path = none := by
  rw [savingFailure?, PictureFormat.Takes]
  cases picture.savingProblem? with
  | some problem => exact ⟨nofun, fun all => absurd all.1 nofun⟩
  | none =>
    cases PictureFormat.ofEnding? (FileName.ending path) with
    | none => exact ⟨nofun, fun ⟨_, ⟨_, found, _⟩, _⟩ => absurd found nofun⟩
    | some format =>
      dsimp only
      constructor
      · intro saved
        -- each of the later checks lets the picture pass
        cases before : format.problemBefore? with
        | some problem => exact absurd (before ▸ saved) nofun
        | none =>
          rw [before] at saved
          dsimp only at saved
          split at saved
          · cases saved
          · next allowed =>
            split at saved
            · cases saved
            · next free => exact ⟨rfl, ⟨format, rfl, Option.map_eq_none_iff.1 saved⟩, allowed, free⟩
      · rintro ⟨-, ⟨_, ⟨⟩, takes⟩, allowed, free⟩
        have before : format.problemBefore? = none := by rw [PictureFormat.problemBefore?, takes]
        rw [before]
        dsimp only
        rw [if_neg allowed, free, takes]
        rfl

/-- **The one default path under which no picture can be saved**: that of a scene file named by dots alone. -/
theorem savingFailure?_of_dots {stem : List Char} (sides : picture.savingProblem? = none)
    (isStem : FileName.IsStem path.toList stem) (dots : ∀ c ∈ stem, c = '.') :
    savingFailure? files picture (FileName.pictureFor path) = some (.value (.pictureFormat "")) := by
  rw [savingFailure?, sides, FileName.ending_pictureFor_of_dots isStem dots]
  rfl

theorem deliver_of_savable (savable : savingFailure? files picture path = none) :
    (deliver files picture (some path) display title).result = .ok 0 ∧
      (deliver files picture (some path) display title).saved = some (path, picture) := by
  rw [deliver, savable]
  exact ⟨rfl, rfl⟩

/-- A picture that cannot be saved is not shown either. -/
theorem deliver_of_failure {failure : Failure} (failed : savingFailure? files picture path = some failure) :
    deliver files picture (some path) display title = .broken failure := by
  rw [deliver, failed]

/-- A picture of a scene has no side without pixels; it must not have one of too many. -/
theorem savingProblem?_of_shows (shows : picture.Shows scene) (wide : scene.canvas.width ≤ 2147483647)
    (high : scene.canvas.height ≤ 2147483647) : picture.savingProblem? = none := by
  have width := scene.canvas.width_pos
  have height := scene.canvas.height_pos
  rw [Picture.savingProblem?, Picture.isEmpty, shows.width, shows.height, if_neg (by omega),
    if_neg (by simp; omega)]

/-! ## Sizes that are asked for -/

namespace Settings

/-- The numbers that the settings ask for; the sides are optional. -/
structure Asks (s : Settings) (width height : Option Int) (workers : Int) : Prop where
  width : s.width = width.map .number
  height : s.height = height.map .number
  workers : s.workers = .number workers

/-- The file is no scene, or the picture would have a side of less than one pixel. -/
def Refused (s : Settings) (files : FileSystem) (width height : Option Int) : Prop :=
  (∃ problem, Scene.loadFile files s.scene {} = .error problem ∧ problem.OfScene) ∨
    ∃ scene, Scene.loadFile files s.scene {} = .ok scene ∧
      (width.getD scene.canvas.width < 1 ∨ height.getD scene.canvas.height < 1)

/-- A scene that is loaded is not refused in a size with pixels. -/
theorem not_refused (loaded : Scene.loadFile files settings.scene {} = .ok scene)
    (wide : 1 ≤ width.getD scene.canvas.width) (high : 1 ≤ height.getD scene.canvas.height) :
    ¬settings.Refused files width height := by
  rintro (⟨problem, failed, -⟩ | ⟨other, again, small⟩)
  · exact absurd (failed.symm.trans loaded) nofun
  · obtain rfl := Except.ok.inj (again.symm.trans loaded)
    omega

/-- A size without pixels ends the run before anything is drawn. -/
theorem drawResized_of_small {w h : Int} (small : w < 1 ∨ h < 1) :
    (settings.drawResized files scene w h).result = .ok 1 ∧
      (settings.drawResized files scene w h).saved = none ∧
      (settings.drawResized files scene w h).shown = [] := by
  rw [drawResized, if_pos small]
  exact ⟨rfl, rfl, rfl⟩

theorem drawResized_of_resized {w h : Int} (pixels : ¬(w < 1 ∨ h < 1))
    (made : scene.resized (.whole w) (.whole h) = .ok resized) :
    settings.drawResized files scene w h =
      draw files resized settings.outputPath settings.display settings.workers := by
  rw [drawResized, if_neg pixels, made]

/-- A size with pixels is that of a scene, which is drawn. -/
theorem exists_drawResized {w h : Int} (files : FileSystem) (pixels : ¬(w < 1 ∨ h < 1)) :
    ∃ resized, scene.resized (.whole w) (.whole h) = .ok resized ∧ (resized.canvas.width : Int) = w ∧
      (resized.canvas.height : Int) = h ∧
      settings.drawResized files scene w h =
        draw files resized settings.outputPath settings.display settings.workers := by
  obtain ⟨wide, high⟩ := not_or.1 pixels
  obtain ⟨resized, made, width, height⟩ := scene.exists_resized (Int.not_lt.1 wide) (Int.not_lt.1 high)
  exact ⟨resized, made, width, height, drawResized_of_resized pixels made⟩

/-- **Every run resizes**, to the scene's own sides where none are asked for. -/
theorem Asks.drawSized_eq (asked : settings.Asks width height workers) (files : FileSystem) (scene : Scene) :
    settings.drawSized files scene =
      settings.drawResized files scene (width.getD scene.canvas.width) (height.getD scene.canvas.height) := by
  rw [drawSized, asked.width, asked.height]
  cases width with
  | some w => cases height <;> rfl
  | none =>
    cases height with
    | some h => rfl
    | none =>
      have own : ¬((scene.canvas.width : Int) < 1 ∨ (scene.canvas.height : Int) < 1) := by
        have := scene.canvas.width_pos
        have := scene.canvas.height_pos
        omega
      exact (drawResized_of_resized own scene.resized_self).symm

/-! ## Runs -/

/-- What is done with the outcome of loading. -/
theorem run_eq (s : Settings) (files : FileSystem) : s.run files =
    Report.after (match Scene.loadFile files s.scene {} with
      | .error (.value problem) => .broken (.value problem)
      | .error problem => .failed problem.message
      | .ok scene => s.drawSized files scene) (Loading.ofFile files s.scene {}).log := rfl

/-- A problem of the scene ends the run before anything is drawn. -/
theorem run_of_problem {problem : LoadProblem}
    (failed : Scene.loadFile files settings.scene {} = .error problem) (own : problem.OfScene) :
    (settings.run files).result = .ok 1 ∧ (settings.run files).saved = none ∧
      (settings.run files).shown = [] := by
  rw [run_eq, failed]
  cases problem with
  | file problem => exact ⟨rfl, rfl, rfl⟩
  | text problem => exact ⟨rfl, rfl, rfl⟩
  | value problem => exact absurd own id

theorem run_of_foreign {problem : LoadProblem}
    (failed : Scene.loadFile files settings.scene {} = .error problem) (foreign : ¬problem.OfScene) : (settings.run files).result ≠ .ok 1 := by
  rw [run_eq, failed]
  cases problem with
  | file problem => exact absurd trivial foreign
  | text problem => exact absurd trivial foreign
  | value problem => exact nofun

theorem run_of_scene (loaded : Scene.loadFile files settings.scene {} = .ok scene) :
    settings.run files = (settings.drawSized files scene).after (Loading.ofFile files settings.scene {}).log := by
  rw [run_eq, loaded]

/-- **Status 1** is that of a refusal. -/
theorem Asks.result_run_eq_one_iff (asked : settings.Asks width height workers) :
    (settings.run files).result = .ok 1 ↔ settings.Refused files width height := by
  constructor
  · intro status
    cases loaded : Scene.loadFile files settings.scene {} with
    | error problem =>
      by_cases own : problem.OfScene
      · exact .inl ⟨problem, loaded, own⟩
      · exact absurd status (run_of_foreign loaded own)
    | ok scene =>
      refine .inr ⟨scene, loaded, ?_⟩
      by_contra pixels
      obtain ⟨resized, -, -, -, drawn⟩ := exists_drawResized files pixels
      rw [run_of_scene loaded, Report.result_after, asked.drawSized_eq, drawn] at status
      exact result_draw_ne_one settings.workers status
  · rintro (⟨problem, failed, own⟩ | ⟨scene, loaded, small⟩)
    · exact (run_of_problem failed own).1
    · rw [run_of_scene loaded, Report.result_after, asked.drawSized_eq]
      exact (drawResized_of_small small).1

/-- Nothing comes of a refusal. -/
theorem Asks.run_of_refused (asked : settings.Asks width height workers)
    (refused : settings.Refused files width height) :
    (settings.run files).saved = none ∧ (settings.run files).shown = [] := by
  rcases refused with ⟨problem, failed, own⟩ | ⟨scene, loaded, small⟩
  · exact (run_of_problem failed own).2
  · rw [run_of_scene loaded, Report.saved_after, Report.shown_after, asked.drawSized_eq]
    exact (drawResized_of_small small).2

/-- A scene that is not refused is drawn in its size. -/
theorem Asks.run_of_not_refused (asked : settings.Asks width height workers)
    (loaded : Scene.loadFile files settings.scene {} = .ok scene)
    (granted : ¬settings.Refused files width height) :
    ∃ resized, scene.resized (.whole (width.getD scene.canvas.width)) (.whole (height.getD scene.canvas.height)) =
        .ok resized ∧
      (resized.canvas.width : Int) = width.getD scene.canvas.width ∧
      (resized.canvas.height : Int) = height.getD scene.canvas.height ∧
      settings.run files = (draw files resized settings.outputPath settings.display (.number workers)).after
        (Loading.ofFile files settings.scene {}).log := by
  have pixels : ¬(width.getD scene.canvas.width < 1 ∨ height.getD scene.canvas.height < 1) := fun small =>
    granted (.inr ⟨scene, loaded, small⟩)
  obtain ⟨resized, made, wide, high, drawn⟩ := exists_drawResized files pixels
  refine ⟨resized, made, wide, high, ?_⟩
  rw [run_of_scene loaded, asked.drawSized_eq, drawn, asked.workers]

/-- **The number of workers does not matter** for a run. -/
theorem Asks.run_workers (asked : settings.Asks width height workers) (n : Int) (files : FileSystem) :
    ({ settings with workers := .number n } : Settings).run files = settings.run files := by
  have also : ({ settings with workers := .number n } : Settings).Asks width height n :=
    ⟨asked.width, asked.height, rfl⟩
  cases loaded : Scene.loadFile files settings.scene {} with
  | error problem =>
    rw [run_eq, run_eq settings, loaded]
    cases problem <;> rfl
  | ok scene =>
    have drawn (w h : Int) : ({ settings with workers := .number n } : Settings).drawResized files scene w h =
        settings.drawResized files scene w h := by
      unfold drawResized
      rw [asked.workers]
      cases scene.resized (.whole w) (.whole h) with
      | error problem => rfl
      | ok resized =>
        dsimp only
        rw [draw_workers n workers]
        rfl
    have other : ({ settings with workers := .number n } : Settings).run files = _ := run_of_scene loaded
    rw [other, run_of_scene loaded, also.drawSized_eq, asked.drawSized_eq, drawn]

/-! ## Where the picture is due -/

theorem outputPath_of_given (given : settings.output = some path) : settings.outputPath = some path := by
  rw [outputPath, given]

theorem outputPath_of_shown (none : settings.output = none) (shown : settings.display = true) :
    settings.outputPath = Option.none := by
  rw [outputPath, none, shown]
  rfl

theorem outputPath_of_neither (none : settings.output = none) (hidden : settings.display = false) :
    settings.outputPath = some (FileName.pictureFor settings.scene) := by
  rw [outputPath, none, hidden]
  rfl

/-- Nothing outside the program keeps a picture of the canvas from being saved where it is due: no side has
    more pixels than a picture file can have, and the files leave room for the path; and if the path is
    given, a file can have it, and its ending is that of a format that takes the picture. -/
structure Unhindered (s : Settings) (files : FileSystem) (canvas : Canvas) : Prop where
  width : canvas.width ≤ 2147483647
  height : canvas.height ≤ 2147483647
  free : ∀ path ∈ s.outputPath, files.obstacle? path = none
  allowed : ∀ path ∈ s.output, '\x00' ∉ path.toList
  taken : ∀ path ∈ s.output, PictureFormat.Takes (FileName.ending path)

variable {stem : List Char}

/-- A picture can be saved under the path that is given. -/
theorem Unhindered.savable_given (h : settings.Unhindered files scene.canvas) (shows : picture.Shows scene)
    (given : settings.output = some path) : savingFailure? files picture path = none :=
  savingFailure?_eq_none_iff.2 ⟨savingProblem?_of_shows shows h.width h.height, h.taken path given,
    h.allowed path given, h.free path (outputPath_of_given given)⟩

/-- A picture can be saved under its default path, if the scene's name is not of dots alone. -/
theorem Unhindered.savable_default (h : settings.Unhindered files scene.canvas) (shows : picture.Shows scene)
    (none : settings.output = none) (hidden : settings.display = false)
    (allowed : '\x00' ∉ settings.scene.toList) (isStem : FileName.IsStem settings.scene.toList stem)
    (named : ∃ c ∈ stem, c ≠ '.') :
    savingFailure? files picture (FileName.pictureFor settings.scene) = Option.none := by
  refine savingFailure?_eq_none_iff.2 ⟨savingProblem?_of_shows shows h.width h.height, ?_,
    FileName.not_mem_pictureFor allowed (by decide), h.free _ (outputPath_of_neither none hidden)⟩
  rw [FileName.ending_pictureFor isStem named]
  exact PictureFormat.takes_png

/-- What was loaded has a path that a file can have. -/
theorem allowed_of_loadFile {d : Defaults} (loaded : Scene.loadFile files path d = .ok scene) :
    '\x00' ∉ path.toList := fun null =>
  absurd ((Scene.loadFile_of_null null).symm.trans loaded) nofun

end Settings

/-! ## The program -/

variable {arguments : List String}

theorem report_of_settings (read : Settings.ofArguments arguments = .ok settings) (files : FileSystem) :
    report arguments files = { settings.run files with log := settings.wanted (settings.run files).log } := by
  rw [report, read]

/-- **How a run of the program ends**, for arguments that can be understood and any files.  The status is 1
    exactly if the scene is refused: loading it gives a problem of the scene, or a side, the one that is asked
    for or else the scene's, is less than one pixel.  Then nothing is saved or shown.  If the scene is not
    refused, and loading gives no other problem either, it is drawn in this size.  If a picture of it can be
    made, it has the size and shows the scene in this size pixel by pixel.  With no path and to be shown, it is
    not saved, and the status is 0.  Else, if nothing outside the program keeps it from being saved, it is saved
    with status 0: under the path that is given, or under the stem of the scene's path with the ending of
    pictures, if that stem is not of dots alone.  But if it is due under a stem of dots alone, the run ends
    without a status, as the path has no ending, and nothing is saved or shown.  With any other number of
    workers the report is the same. -/
theorem report_outcome (files : FileSystem) (read : Settings.ofArguments arguments = .ok settings)
    (asked : settings.Asks width height workers) :
    ((report arguments files).result = .ok 1 ↔ settings.Refused files width height) ∧
    (settings.Refused files width height →
      (report arguments files).saved = none ∧ (report arguments files).shown = []) ∧
    (¬settings.Refused files width height →
      (∀ problem, Scene.loadFile files settings.scene {} = .error problem → problem.OfScene) →
      ∃ scene resized stem, Scene.loadFile files settings.scene {} = .ok scene ∧
        scene.resized (.whole (width.getD scene.canvas.width)) (.whole (height.getD scene.canvas.height)) =
          .ok resized ∧
        (resized.canvas.width : Int) = width.getD scene.canvas.width ∧
        (resized.canvas.height : Int) = height.getD scene.canvas.height ∧
        FileName.IsStem settings.scene.toList stem ∧
        ∀ picture, resized.keptPicture (some workers) = .ok picture →
          picture.Shows resized ∧
          (settings.output = none → settings.display = true →
            (report arguments files).result = .ok 0 ∧ (report arguments files).saved = none) ∧
          (settings.Unhindered files resized.canvas →
            (∀ path, settings.output = some path →
              (report arguments files).result = .ok 0 ∧
                (report arguments files).saved = some (path, picture)) ∧
            (settings.output = none → settings.display = false → (∃ c ∈ stem, c ≠ '.') →
              (report arguments files).result = .ok 0 ∧
                (report arguments files).saved = some (String.ofList (stem ++ ".png".toList), picture)) ∧
            (settings.output = none → settings.display = false → (∀ c ∈ stem, c = '.') →
              (report arguments files).result = .error (.value (.pictureFormat "")) ∧
                (report arguments files).saved = none ∧ (report arguments files).shown = []))) ∧
    ∀ others n, Settings.ofArguments others = .ok { settings with workers := .number n } →
      report others files = report arguments files := by
  rw [report_of_settings read]
  refine ⟨asked.result_run_eq_one_iff, asked.run_of_refused, fun granted known => ?_, fun others n again => ?_⟩
  · obtain ⟨scene, loaded⟩ : ∃ scene, Scene.loadFile files settings.scene {} = .ok scene := by
      cases loaded : Scene.loadFile files settings.scene {} with
      | error problem => exact absurd (.inl ⟨problem, loaded, known problem loaded⟩) granted
      | ok scene => exact ⟨scene, rfl⟩
    obtain ⟨resized, made, wide, high, drawn⟩ := asked.run_of_not_refused loaded granted
    obtain ⟨stem, isStem⟩ := FileName.exists_isStem settings.scene.toList
    refine ⟨scene, resized, stem, loaded, made, wide, high, isStem, fun picture rendered => ?_⟩
    have shows := Scene.shows_of_picture (Scene.keptPicture_eq_ok_iff.1 rendered).2
    have allowed := Settings.allowed_of_loadFile loaded
    dsimp only
    rw [drawn, draw_of_kept rendered]
    simp only [Report.result_after, Report.saved_after, Report.shown_after]
    refine ⟨shows, fun none shown => ?shown, fun unhindered =>
      ⟨fun path given => ?given, fun none hidden named => ?named, fun none hidden dots => ?dots⟩⟩
    case shown =>
      rw [Settings.outputPath_of_shown none shown]
      exact ⟨rfl, rfl⟩
    case given =>
      rw [Settings.outputPath_of_given given]
      exact deliver_of_savable (unhindered.savable_given shows given)
    case named =>
      have savable := unhindered.savable_default shows none hidden allowed isStem named
      rw [Settings.outputPath_of_neither none hidden, ← FileName.pictureFor_of_isStem isStem]
      exact deliver_of_savable savable
    case dots =>
      have sides := savingProblem?_of_shows shows unhindered.width unhindered.height
      rw [Settings.outputPath_of_neither none hidden,
        deliver_of_failure (savingFailure?_of_dots sides isStem dots)]
      exact ⟨rfl, rfl, rfl⟩
  · rw [report_of_settings again, asked.run_workers n files]
    rfl

/-! ## A call -/

/-- A call that asks for another width and for two workers. -/
def demoArguments : List String := ["demo/ball.scene", "--width=3", "--workers", "2"]

def demoSettings : Settings := { scene := "demo/ball.scene", width := some (.number 3), workers := .number 2 }

/-- The ball in a window that is two pixels wide and high. -/
def demoText : List Char := ballText ++ "window \x7b\nheight = 2\n\x7d\n".toList

theorem exists_demo :
    ∃ scene resized, Scene.loadFile (.of demoText) demoSettings.scene {} = .ok scene ∧
      scene.canvas.height = 2 ∧ scene.resized (.whole 3) (.whole scene.canvas.height) = .ok resized ∧
      resized.Shades := by
  have loads : ((Scene.loadFile (.of demoText) demoSettings.scene {}).toOption.any fun scene =>
      scene.canvas.height == 2 &&
        (scene.resized (.whole 3) (.whole scene.canvas.height)).toOption.any fun t => decide t.Shades) = true := by
    unfold demoText ballText
    repeat rw [String.toList_ofList]
    decide +kernel
  obtain ⟨scene, loaded, good⟩ := Scene.exists_of_any loads
  obtain ⟨two, shaded⟩ := Bool.and_eq_true_iff.1 good
  obtain ⟨resized, made, shades⟩ := Scene.exists_of_any shaded
  exact ⟨scene, resized, loaded, eq_of_beq two, made, of_decide_eq_true shades⟩

/-- The ball is drawn on three by two pixels and saved under its name, by two workers as by one. -/
theorem report_outcome_demo :
    Settings.ofArguments demoArguments = .ok demoSettings ∧ demoSettings.Asks (some 3) none 2 ∧
      ¬demoSettings.Refused (.of demoText) (some 3) none ∧
      (∃ picture : Picture, picture.width = 3 ∧ picture.height = 2 ∧
        (report demoArguments (.of demoText)).result = .ok 0 ∧
        (report demoArguments (.of demoText)).saved = some ("ball.png", picture)) ∧
      report ["demo/ball.scene", "--wi=3"] (.of demoText) = report demoArguments (.of demoText) := by
  obtain ⟨scene, resized, loaded, high, made, shades⟩ := exists_demo
  have read : Settings.ofArguments demoArguments = .ok demoSettings := by decide +kernel
  have asked : demoSettings.Asks (some 3) none 2 := ⟨rfl, rfl, rfl⟩
  have granted : ¬demoSettings.Refused (.of demoText) (some 3) none :=
    Settings.not_refused loaded (by rw [Option.getD_some]; decide) (by rw [Option.getD_none, high]; decide)
  obtain ⟨-, -, drawn, alike⟩ := report_outcome (.of demoText) read asked
  refine ⟨read, asked, granted, ?_, alike _ 1 (by decide +kernel)⟩
  obtain ⟨other, again, stem, loadedAgain, madeAgain, width, height, isStem, ends⟩ :=
    drawn granted fun problem failed => absurd (failed.symm.trans loaded) nofun
  obtain rfl := Except.ok.inj (loadedAgain.symm.trans loaded)
  obtain rfl := Except.ok.inj (madeAgain.symm.trans made)
  rw [Option.getD_some] at width
  rw [Option.getD_none, high] at height
  have three : again.canvas.width = 3 := Int.ofNat.inj width
  have two : again.canvas.height = 2 := Int.ofNat.inj height
  have room : Frame.sizeProblem? .array again.canvas.frameSize = none := by
    rw [Canvas.frameSize, three, two]
    rfl
  obtain ⟨picture, rendered⟩ := shades.exists_keptPicture room (some 2)
  have ball : FileName.IsStem demoSettings.scene.toList "ball".toList := FileName.isStem_iff.2 (by decide)
  have unhindered : demoSettings.Unhindered (.of demoText) again.canvas :=
    ⟨by omega, by omega, fun _ _ => rfl, nofun, nofun⟩
  obtain ⟨shows, -, saves⟩ := ends picture rendered
  obtain ⟨-, unnamed, -⟩ := saves unhindered
  obtain rfl : "ball".toList = stem := (FileName.isStem_iff.1 ball).symm.trans (FileName.isStem_iff.1 isStem)
  obtain ⟨status, saved⟩ := unnamed rfl rfl ⟨'b', by decide, by decide⟩
  exact ⟨picture, shows.width.trans three, shows.height.trans two, status, saved⟩

/-! ## A name of dots -/

/-- A window of one pixel, which shows the background. -/
def pixelText : List Char := "window \x7b\nwidth = 1\nheight = 1\n\x7d\n".toList

def dotsSettings : Settings := { scene := "..." }

theorem exists_pixel : ∃ scene, Scene.loadFile (.of pixelText) dotsSettings.scene {} = .ok scene ∧
    (scene.canvas.width = 1 ∧ scene.canvas.height = 1) ∧ scene.Shades := by
  have loads : ((Scene.loadFile (.of pixelText) dotsSettings.scene {}).toOption.any fun scene =>
      decide (scene.canvas.width = 1 ∧ scene.canvas.height = 1) && decide scene.Shades) = true := by
    unfold pixelText
    rw [String.toList_ofList]
    decide +kernel
  obtain ⟨scene, loaded, good⟩ := Scene.exists_of_any loads
  obtain ⟨one, shades⟩ := Bool.and_eq_true_iff.1 good
  exact ⟨scene, loaded, of_decide_eq_true one, of_decide_eq_true shades⟩

/-- **A scene file of dots has no picture**: it is not refused, a picture of it can be made, and nothing
    outside the program is in the way, but the run ends without a status, and nothing is saved. -/
theorem unsaved_of_dots :
    Settings.ofArguments ["..."] = .ok dotsSettings ∧ dotsSettings.Asks none none 1 ∧
      ¬dotsSettings.Refused (.of pixelText) none none ∧
      (∃ scene picture, Scene.loadFile (.of pixelText) dotsSettings.scene {} = .ok scene ∧
        scene.keptPicture (some 1) = .ok picture ∧ dotsSettings.Unhindered (.of pixelText) scene.canvas) ∧
      (report ["..."] (.of pixelText)).result = .error (.value (.pictureFormat "")) ∧
      (report ["..."] (.of pixelText)).saved = none := by
  obtain ⟨scene, loaded, ⟨wide, high⟩, shades⟩ := exists_pixel
  have read : Settings.ofArguments ["..."] = .ok dotsSettings := by decide +kernel
  have asked : dotsSettings.Asks none none 1 := ⟨rfl, rfl, rfl⟩
  have granted : ¬dotsSettings.Refused (.of pixelText) none none :=
    Settings.not_refused loaded (by rw [Option.getD_none, wide]; decide) (by rw [Option.getD_none, high]; decide)
  have unhindered : dotsSettings.Unhindered (.of pixelText) scene.canvas :=
    ⟨by omega, by omega, fun _ _ => rfl, nofun, nofun⟩
  have room : Frame.sizeProblem? .array scene.canvas.frameSize = none := by
    rw [Canvas.frameSize, wide, high]
    rfl
  obtain ⟨picture, rendered⟩ := shades.exists_keptPicture room (some 1)
  have sides := savingProblem?_of_shows (Scene.shows_of_picture (Scene.keptPicture_eq_ok_iff.1 rendered).2)
    unhindered.width unhindered.height
  have dots : FileName.IsStem dotsSettings.scene.toList "...".toList := FileName.isStem_iff.2 (by decide)
  have failed : savingFailure? (.of pixelText) picture (FileName.pictureFor dotsSettings.scene) = _ :=
    savingFailure?_of_dots sides dots (by simp)
  obtain ⟨resized, made, -, -, drawn⟩ := asked.run_of_not_refused loaded granted
  -- the scene is drawn in its own size
  obtain rfl : scene = resized := Except.ok.inj (scene.resized_self.symm.trans made)
  refine ⟨read, asked, granted, ⟨scene, picture, loaded, rendered, unhindered⟩, ?_⟩
  rw [report_of_settings read, drawn, draw_of_kept rendered, Settings.outputPath_of_neither rfl rfl,
    deliver_of_failure failed]
  exact ⟨rfl, rfl⟩

end CommandLine
end LitSpheres
