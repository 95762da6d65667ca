/-
  Scenes in files.

  1. **Program** — the bytes of a file are decoded, each of its line ends becomes a line feed, and the text
     is read and loaded; every stage leaves its line in the log.

  2. **Specification** — a scene reads the same from a file as from its text with unified line ends.  A file
     that cannot be read or decoded is a problem of the file; a path that no file can have is none.

  3. **The crux** — line ends are unified before the text is cut into lexemes, so the difference can be seen
     only where a lexeme runs over a carriage return: in a quoted text, which keeps it, and in a comment,
     which a lone one does not end.
-/
import LitSpheres.Definition.Display
import LitSpheres.Scene.Load
import LitSpheres.Text.Utf8

namespace LitSpheres

/-! ## Files -/

/-- Why a file cannot be opened. -/
inductive OpenProblem where
  | missing
  | notADirectory
  | isADirectory
  | denied
  | nameTooLong
deriving DecidableEq, Repr

namespace OpenProblem

/-- The number and the name of the problem. -/
def message : OpenProblem → String
  | missing => "[Errno 2] No such file or directory"
  | notADirectory => "[Errno 20] Not a directory"
  | isADirectory => "[Errno 21] Is a directory"
  | denied => "[Errno 13] Permission denied"
  | nameTooLong => "[Errno 36] File name too long"

end OpenProblem

/-- The problem with the path that has it. -/
def OpenProblem.describe (p : OpenProblem) (path : String) : String := s!"{p.message}: {Text.quote path}"

/-- Why the bytes of a file cannot be had. -/
inductive ReadProblem where
  /-- The file cannot be opened. -/
  | unopened (problem : OpenProblem)
  /-- Anything else that the system says, with the number that it has for it, when the file is opened or when
      it is read. -/
  | system (number : Int) (said : String) (opening : Bool)
deriving DecidableEq, Repr

/-- The problem; the path is named if the file was not opened. -/
def ReadProblem.describe (p : ReadProblem) (path : String) : String :=
  match p with
  | unopened problem => problem.describe path
  | system number said opening =>
    s!"[Errno {number}] {said}" ++ if opening then s!": {Text.quote path}" else ""

/-- The files that paths name. -/
structure FileSystem where
  /-- All bytes of a file, or why they cannot be had. -/
  read : String → Except ReadProblem (List UInt8)
  /-- Why no file can be written under the path, if none can. -/
  obstacle? : String → Option OpenProblem

/-- What can be wrong with a scene file before its text is read. -/
inductive FileProblem where
  | noPath
  | unread (path : String) (problem : ReadProblem)
  | undecoded (path : String) (fault : Text.Utf8Fault)

namespace FileProblem

def reason : Text.Utf8Reason → String
  | .invalidStart => "invalid start byte"
  | .invalidContinuation => "invalid continuation byte"
  | .unexpectedEnd => "unexpected end of data"

/-- What is wrong with the bytes, and where. -/
def decoding (f : Text.Utf8Fault) : String :=
  let place :=
    if f.length = 1 then
      "byte 0x" ++ String.ofList (Text.hexDigits 2 f.first.toNat) ++ s!" in position {f.position}"
    else s!"bytes in position {f.position}-{f.position + f.length - 1}"
  "'utf-8' codec can't decode " ++ place ++ ": " ++ reason f.reason

def message : FileProblem → String
  | noPath => "No scene file given"
  | unread path p => s!"Could not read scene file {path}: {p.describe path}"
  | undecoded path f => s!"Could not read scene file {path}: {decoding f}"

end FileProblem

/-- The text of a file: its bytes decoded, with a line feed for each line end. -/
def readFile (files : FileSystem) (path : String) : Except FileProblem (List Char) :=
  match files.read path with
  | .error problem => .error (.unread path problem)
  | .ok bytes =>
    match Text.decodeUtf8 bytes with
    | .error fault => .error (.undecoded path fault)
    | .ok text => .ok (Text.unifyLineEnds text)

/-! ## The log -/

/-- How much a log line matters. -/
inductive Level where
  | debug
  | info
  | error
deriving DecidableEq, Repr

/-- A line of the log: its level, the part of the program that wrote it, and what it says. -/
structure LogLine where
  level : Level
  part : String
  message : String

namespace LogLine

def levelName : Level → String
  | .debug => "DEBUG"
  | .info => "INFO"
  | .error => "ERROR"

def display (l : LogLine) : String := levelName l.level ++ " giraffics." ++ l.part ++ ": " ++ l.message

/-- A text was read from a file. -/
def read (text : List Char) (path : String) : LogLine :=
  { level := .debug, part := "scene", message := s!"read {text.length} characters from {path}" }

/-- A definition was found. -/
def parsed (d : Definition) : LogLine :=
  { level := .debug, part := "sceneparser", message := "parsed " ++ d.display }

/-- The definitions of a scene were put together; no line is written for sizes that are no numbers. -/
def loaded? (draft : Draft) : Option LogLine :=
  match draft.width.truncate, draft.height.truncate with
  | .ok w, .ok h =>
    let title := Text.quote draft.title
    some { level := .info, part := "scene"
           message := s!"loaded scene {title}: {w}x{h}, {draft.spheres.length} sphere(s), " ++
             s!"{draft.lights.length} light(s)" }
  | _, _ => none

end LogLine

/-! ## Loading -/

/-- What can keep a file from being a scene. -/
inductive LoadProblem where
  | file (problem : FileProblem)
  | text (problem : TextProblem)
  | value (problem : ValueProblem)

namespace LoadProblem

def message : LoadProblem → String
  | file p => p.message
  | text p => p.message
  | value p => p.message

/-- What keeps a text from being a scene keeps a file with this text from being one. -/
def ofScene : SceneProblem → LoadProblem
  | .text p => text p
  | .value p => value p

end LoadProblem

/-- What loading gives: the lines that it logs, and the scene or the problem. -/
structure Loading where
  log : List LogLine
  result : Except LoadProblem Scene

/-- Puts definitions together, and logs that this was done. -/
def Loading.ofDefinitions (definitions : List Definition) (d : Defaults) : Loading :=
  match definitions.foldlM Draft.add (Draft.ofDefaults d) with
  | .error problem => { log := [], result := .error (.value problem) }
  | .ok draft => { log := (LogLine.loaded? draft).toList, result := (draft.toScene d).mapError .value }

/-- Loads the definitions of a text, and logs each of them. -/
def Loading.ofText (text : List Char) (d : Defaults) : Loading :=
  let reading := readText text
  let log := reading.found.map LogLine.parsed
  match reading.result with
  | .error problem => { log, result := .error (.text problem) }
  | .ok definitions =>
    let loading := Loading.ofDefinitions definitions d
    { loading with log := log ++ loading.log }

/-- Loads the scene in a file. -/
def Loading.ofFile (files : FileSystem) (path : String) (d : Defaults) : Loading :=
  if path.isEmpty then { log := [], result := .error (.file .noPath) }
  else if '\x00' ∈ path.toList then { log := [], result := .error (.value .nullInPath) }
  else
    match readFile files path with
    | .error problem => { log := [], result := .error (.file problem) }
    | .ok text =>
      let loading := Loading.ofText text d
      { loading with log := LogLine.read text path :: loading.log }

/-- The scene in a file. -/
def Scene.loadFile (files : FileSystem) (path : String) (d : Defaults) : Except LoadProblem Scene :=
  (Loading.ofFile files path d).result

theorem Loading.result_ofDefinitions (definitions : List Definition) (d : Defaults) :
    (Loading.ofDefinitions definitions d).result = (Scene.load definitions d).mapError .value := by
  unfold Loading.ofDefinitions Scene.load
  cases definitions.foldlM Draft.add (Draft.ofDefaults d) <;> rfl

/-- **The log changes nothing**: with it or without, a text gives the same scene or problem. -/
theorem Loading.result_ofText (text : List Char) (d : Defaults) :
    (Loading.ofText text d).result = (Scene.loadText text d).mapError .ofScene := by
  unfold Loading.ofText Scene.loadText parse
  dsimp only
  generalize (readText text).result = read
  cases read with
  | error problem => rfl
  | ok definitions =>
    dsimp only
    rw [Loading.result_ofDefinitions]
    cases Scene.load definitions d <;> rfl

end LitSpheres
