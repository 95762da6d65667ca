/-
  The arguments of the command line.

  1. **Program** — each argument is either a plain word or an option.  Options may be spelled short or
     long, long ones may be cut short as long as they stay unique, values may be attached or follow,
     and short options may share one dash.  A double dash makes all that follows it plain; attached to
     an option it is no value, though the option counts as given.

  2. **Specification** — exactly one plain word, the path of the scene, is left when every option has
     taken its value.  Of an option that is given twice the last one counts.  Whatever else is given
     is refused, unless help was asked for before.

  3. **The crux** — what an argument is depends on itself alone, apart from the double dash; only then
     are the arguments gone through in order.
-/
import LitSpheres.CommandLine.Integer

namespace LitSpheres.CommandLine

/-- The options. -/
inductive Switch where
  | help
  | output
  | display
  | width
  | height
  | workers
  | verbose
deriving DecidableEq, Repr

namespace Switch

/-- How options are spelled. -/
def spellings : List (List Char × Switch) :=
  [("-h".toList, help), ("--help".toList, help), ("-o".toList, output), ("--output".toList, output),
    ("--show".toList, display), ("--width".toList, width), ("--height".toList, height),
    ("--workers".toList, workers), ("-v".toList, verbose), ("--verbose".toList, verbose)]

/-- The option of a spelling. -/
def of? (spelling : List Char) : Option Switch := spellings.lookup spelling

/-- Whether an option needs a value. -/
def takesValue : Switch → Bool
  | help | display | verbose => false
  | output | width | height | workers => true

end Switch

/-! ## What an argument is -/

/-- What stands behind an option in the same argument, if anything does. -/
inductive Attached where
  /-- The characters behind the letter of an option with one dash, without an equals sign between. -/
  | letters (cs : Option (List Char))
  /-- What follows the equals sign behind an option with two dashes. -/
  | value (cs : Option (List Char))
deriving DecidableEq, Repr

/-- An argument by itself. -/
inductive Word where
  | plain (s : String)
  /-- The double dash. -/
  | separator
  | option (switch : Switch) (attached : Attached)
  /-- What looks like an option and is none. -/
  | unknown
deriving DecidableEq, Repr

/-- Why there are no settings. -/
inductive Refusal where
  /-- Help was asked for. -/
  | help
  /-- The arguments cannot be understood. -/
  | usage
deriving DecidableEq, Repr

/-- The exit status of the program in this case. -/
def Refusal.status : Refusal → Nat
  | help => 0
  | usage => 2

/-- A text cut at its first equals sign. -/
def cutAtEquals (cs : List Char) : List Char × Option (List Char) :=
  match cs.dropWhile (· ≠ '=') with
  | [] => (cs, none)
  | _ :: value => (cs.takeWhile (· ≠ '='), some value)

/-- Digits, with at most one point that has digits behind it; one line end may follow. -/
def isUnsignedNumber (cs : List Char) : Bool :=
  let isDigit (c : Char) : Bool := (digitValue? c).isSome
  let cs := if cs.getLast? = some '\n' then cs.dropLast else cs
  match cs.dropWhile isDigit with
  | [] => !cs.isEmpty
  | '.' :: places => !places.isEmpty && places.all isDigit
  | _ => false

/-- A minus and a number. -/
def isNegativeNumber : List Char → Bool
  | '-' :: cs => isUnsignedNumber cs
  | _ => false

/-- The long option that an argument means: the one it spells, or the only one it is the beginning of. -/
def longOption? (cs : List Char) : Except Refusal (Option Word) :=
  let (name, value) := cutAtEquals cs
  match Switch.of? name with
  | some switch => .ok (some (.option switch (.value value)))
  | none =>
    match Switch.spellings.filter (fun (spelling, _) => name.isPrefixOf spelling) with
    | [] => .ok none
    | [(_, switch)] => .ok (some (.option switch (.value value)))
    | _ => .error .usage

/-- The short option that an argument means: the one of its first letter.  An equals sign may stand
    between the letter and what is attached to it. -/
def shortOption? (cs : List Char) : Option Word :=
  (Switch.of? (cs.take 2)).map fun switch =>
    .option switch (.letters (match cs.drop 2 with
      | [] => none
      | '=' :: attached => some attached
      | attached => some attached))

/-- What an argument is that starts with a dash and is more than that. -/
def classifyDashed (s : String) (cs : List Char) : Except Refusal Word := do
  let option ← if "--".toList.isPrefixOf cs then longOption? cs else .ok (shortOption? cs)
  match option with
  | some word => .ok word
  | none => if isNegativeNumber cs || cs.contains ' ' then .ok (.plain s) else .ok .unknown

/-- What an argument is. -/
def classify (s : String) : Except Refusal Word :=
  match s.toList with
  | '-' :: c :: cs => classifyDashed s ('-' :: c :: cs)
  | _ => .ok (.plain s)

/-- What the arguments are; all behind the first double dash are plain. -/
def classifyAll : List String → Except Refusal (List Word)
  | [] => .ok []
  | s :: ss =>
    if s = "--" then .ok (.separator :: ss.map .plain)
    else do
      let word ← classify s
      let words ← classifyAll ss
      .ok (word :: words)

/-! ## Options and their values -/

/-- An option with its value, or with none if it takes none or was given none. -/
structure Choice where
  switch : Switch
  value : Option String := none
deriving DecidableEq, Repr

/-- What one argument chooses: options that are complete, and perhaps a last one whose value must be the
    next argument. -/
structure Chosen where
  complete : List Choice
  waiting : Option Switch := none
deriving DecidableEq, Repr

/-- An option that takes no value, or waits for one. -/
def chooseBare (switch : Switch) : Chosen :=
  if switch.takesValue then { complete := [], waiting := some switch } else { complete := [{ switch }] }

/-- The value that is attached to an option; a double dash is none. -/
def attachedValue (cs : List Char) : Option String :=
  if cs = "--".toList then none else some (String.ofList cs)

/-- An option with the value that is attached to it, if it takes one. -/
def chooseValue (switch : Switch) (cs : List Char) : Except Refusal Chosen :=
  if switch.takesValue then .ok { complete := [{ switch, value := attachedValue cs }] } else .error .usage

/-- What a short option and the characters behind its letter choose: its value, or more short options. -/
def chooseShort (switch : Switch) : List Char → Except Refusal Chosen
  | [] => .ok (chooseBare switch)
  | c :: cs =>
    if switch.takesValue then chooseValue switch (c :: cs)
    else
      match Switch.of? ['-', c] with
      | none => .error .usage
      | some next =>
        (chooseShort next cs).map fun chosen => { chosen with complete := { switch } :: chosen.complete }

/-- What an option and what is attached to it choose.  To attach nothing at all is not to attach an empty
    value. -/
def choose (switch : Switch) : Attached → Except Refusal Chosen
  | .letters none | .value none => .ok (chooseBare switch)
  | .letters (some []) => chooseValue switch []
  | .letters (some (c :: cs)) => chooseShort switch (c :: cs)
  | .value (some cs) => chooseValue switch cs

/-! ## The settings -/

/-- What an option was given that needs a number. -/
inductive Given where
  | number (n : Int)
  /-- The option was given without a value. -/
  | nothing
deriving DecidableEq, Repr

/-- What the program is asked to do. -/
structure Settings where
  scene : String
  output : Option String := none
  display : Bool := false
  width : Option Given := none
  height : Option Given := none
  workers : Given := .number 1
  verbose : Bool := false
deriving DecidableEq, Repr

/-- What an option was given that needs a number: a text that is none is refused. -/
def Given.ofValue (value : Option String) : Except Refusal Given :=
  match value with
  | none => .ok .nothing
  | some s =>
    match integer? s with
    | some n => .ok (.number n)
    | none => .error .usage

/-- The settings with one option more.  A path that is not given is the empty path. -/
def Settings.set (s : Settings) (c : Choice) : Except Refusal Settings :=
  match c.switch with
  | .help => .error .help
  | .output => .ok { s with output := some (c.value.getD "") }
  | .display => .ok { s with display := true }
  | .width => (Given.ofValue c.value).map fun n => { s with width := some n }
  | .height => (Given.ofValue c.value).map fun n => { s with height := some n }
  | .workers => (Given.ofValue c.value).map fun n => { s with workers := n }
  | .verbose => .ok { s with verbose := true }

/-- What has been read of the arguments; the path of the scene may still be to come. -/
structure Gathered where
  scene : Option String := none
  settings : Settings := { scene := "" }
  /-- Whether an argument was left that belongs nowhere. -/
  surplus : Bool := false

namespace Gathered

/-- One option more. -/
def add (g : Gathered) (c : Choice) : Except Refusal Gathered :=
  (g.settings.set c).map fun settings => { g with settings }

/-- A word that belongs nowhere. -/
def leave (g : Gathered) : Gathered := { g with surplus := true }

/-- A plain word: the path of the scene if there is none yet. -/
def addPlain (g : Gathered) (s : String) : Gathered :=
  if g.scene.isNone then { g with scene := some s } else g.leave

/-- All the options that one argument chooses. -/
def addAll (g : Gathered) (chosen : List Choice) : Except Refusal Gathered := chosen.foldlM add g

/-- Goes through the words.  The first plain word is the path of the scene, together with a separator
    that stands right before or behind it; an option that waits for its value takes the next word. -/
def gather (g : Gathered) : List Word → Except Refusal Gathered
  | [] => .ok g
  | .option switch attached :: words => do
    let chosen ← choose switch attached
    match chosen.waiting, words with
    | none, words => do (← g.addAll chosen.complete).gather words
    | some switch, .plain s :: words => do
      (← g.addAll (chosen.complete ++ [Choice.mk switch (some s)])).gather words
    | some _, _ => .error .usage
  | .unknown :: words => g.leave.gather words
  | .separator :: .plain s :: words => (g.addPlain s).gather words
  | .separator :: words => g.leave.gather words
  | .plain s :: .separator :: words => (g.addPlain s).gather words
  | .plain s :: words => (g.addPlain s).gather words

/-- The settings, if the arguments name a scene and nothing is left over. -/
def finish (g : Gathered) : Except Refusal Settings :=
  match g.scene, g.surplus with
  | some scene, false => .ok { g.settings with scene }
  | _, _ => .error .usage

end Gathered

/-- The settings that the arguments give. -/
def Settings.ofArguments (arguments : List String) : Except Refusal Settings := do
  let words ← classifyAll arguments
  let g ← ({} : Gathered).gather words
  g.finish

/-! ## Running the reader -/

example : chooseShort .verbose "of".toList
    = .ok { complete := [{ switch := .verbose }, { switch := .output, value := some "f" }] } := rfl
example : chooseShort .verbose "o".toList
    = .ok { complete := [{ switch := .verbose }], waiting := some .output } := rfl
example : chooseShort .verbose "o=f".toList
    = .ok { complete := [{ switch := .verbose }, { switch := .output, value := some "=f" }] } := rfl
example : shortOption? "-o=f".toList = some (.option .output (.letters (some ['f']))) := rfl
example : longOption? "--wi=2".toList = .ok (some (.option .width (.value (some ['2'])))) := rfl
example : longOption? "--w".toList = .error .usage := rfl

end LitSpheres.CommandLine
