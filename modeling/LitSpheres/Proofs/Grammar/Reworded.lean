/-
  Reading tells texts apart only by the words that it knows.

  1. **Program** — identifiers and quoted texts are taken as they are; kinds, names and types of lights are
     compared with a few words of letters, and a title is kept.

  2. **Specification** — if all texts in the tokens are worded in another way that keeps those words, the
     same reading takes place: the definitions are the same, with the other wording in their titles, and
     so are the problems, with the other wording in what they show.

  3. **The crux** — a reading step looks at the kinds of tokens only, so it commutes with any change of the
     texts, and steps in a row do if each of them does.  Only the checks of a block use that words are kept.
-/
import LitSpheres.Proofs.Grammar.InStep

namespace LitSpheres

/-- Another wording of texts, which keeps words of letters and makes none. -/
structure Rewording where
  text : String → String
  keeps {s word : String} : word.toList.all Char.isAlpha → (text s = word ↔ s = word)

namespace Rewording

variable (w : Rewording)

/-! ## What becomes of the things that hold texts -/

def tokenValue : TokenValue → TokenValue
  | .text s => .text (w.text s)
  | v => v

def token (t : Token) : Token := { t with value := w.tokenValue t.value }

def value : Value → Value
  | .text s => .text (w.text s)
  | v => v

def assignment (a : Assignment) : Assignment := { a with name := w.text a.name, value := w.value a.value }

def block (b : Block) : Block :=
  { b with kind := w.text b.kind, assignments := b.assignments.map w.assignment }

/-- Of a definition only the title of a window is a text. -/
def window (v : Window) : Window := { v with title := v.title.map w.text }

def definition : Definition → Definition
  | .window v => .window (w.window v)
  | other => other

def grammarProblem : GrammarProblem → GrammarProblem
  | .unclosed kind => .unclosed (w.text kind)
  | .strayInBlock t => .strayInBlock (w.token t)
  | .notAValue t => .notAValue (w.token t)
  | .unexpected demand t => .unexpected demand (w.token t)
  | other => other

def meaningProblem : MeaningProblem → MeaningProblem
  | .unknownKind kind line => .unknownKind (w.text kind) line
  | .unknownProperty allowed name line => .unknownProperty allowed (w.text name) line
  | .wrongKind wanted name v => .wrongKind wanted name (w.value v)
  | .unknownLight type => .unknownLight (w.text type)
  | other => other

def problem : TextProblem → TextProblem
  | .character t => .character (w.token t)
  | .grammar g => .grammar (w.grammarProblem g)
  | .meaning m => .meaning (w.meaningProblem m)

variable {w}

/-- The empty word is kept as well. -/
theorem text_empty : w.text "" = "" := (w.keeps rfl).2 rfl

@[simp] theorem kind_token (t : Token) : (w.token t).kind = t.kind := rfl

theorem text_token (t : Token) : (w.token t).text = w.text t.text := by
  obtain ⟨kind, value, place⟩ := t
  cases value with
  | none => exact text_empty.symm
  | text s => rfl
  | number x => exact text_empty.symm

theorem number_token (t : Token) : (w.token t).number = t.number := by
  obtain ⟨kind, value, place⟩ := t
  cases value <;> rfl

/-! ## Reading steps -/

variable {α β γ δ : Type} {g : α → β} {k : γ → δ}

variable (w) in
/-- The outcome of a step, worded in the other way. -/
def step (g : α → β) (s : Step α) : Step β where
  result := match s.result with
    | .ok a => .ok (g a)
    | .error p => .error (w.problem p)
  rest := s.rest.map w.token

variable (w) in
/-- The second step does with the other wording what the first one does without it. -/
def Commutes (g : α → β) (r : Reader α) (r' : Reader β) : Prop :=
  ∀ tokens, r' (tokens.map w.token) = w.step g (r tokens)

section

open Reader (bind_of_ok bind_of_error)

variable {r : Reader α} {r' : Reader β}

theorem Commutes.of_eq {tokens : List Token} {s : Step α} (h : w.Commutes g r r')
    (read : r tokens = s) : r' (tokens.map w.token) = w.step g s := read ▸ h tokens

/-- **Steps in a row** commute if each of them does. -/
theorem Commutes.bind {next : α → Reader γ} {next' : β → Reader δ} (first : w.Commutes g r r')
    (second : ∀ a, w.Commutes k (next a) (next' (g a))) :
    w.Commutes k (r >>= next) (r' >>= next') := by
  intro tokens
  match read : r tokens with
  | ⟨.ok a, mid⟩ =>
    rw [bind_of_ok read, bind_of_ok (first.of_eq read)]
    exact second a mid
  | ⟨.error p, rest⟩ =>
    rw [bind_of_error read, bind_of_error (first.of_eq read)]
    rfl

end

end Rewording

namespace Reader

variable {w : Rewording} {α β : Type} {g : α → β}

theorem commutes_pure (a : α) : w.Commutes g (pure a) (pure (g a)) := fun _ => rfl

theorem commutes_fail (p : TextProblem) : w.Commutes g (fail p) (fail (w.problem p)) := fun _ => rfl

theorem commutes_next : w.Commutes (Option.map w.token) next next := by
  intro tokens
  cases tokens with
  | nil => rfl
  | cons t rest =>
    rw [List.map_cons]
    by_cases ht : t.kind = .error
    · have here : next (t :: rest) = ⟨.error (.character t), rest⟩ := if_pos ht
      have there : next (w.token t :: rest.map w.token) = ⟨.error (.character (w.token t)), rest.map w.token⟩ :=
        if_pos ht
      rw [here, there]
      rfl
    · rw [next_cons ht, next_cons (by exact ht)]
      rfl

theorem commutes_expect (kind : TokenKind) (demand : String) :
    w.Commutes w.token (expect kind demand) (expect kind demand) := by
  refine commutes_next.bind fun o => ?_
  cases o with
  | none => exact commutes_fail _
  | some t =>
    show w.Commutes w.token (if t.kind = kind then pure t else fail (.grammar (.unexpected demand t)))
      (if t.kind = kind then pure (w.token t) else fail (.grammar (.unexpected demand (w.token t))))
    split
    · exact commutes_pure t
    · exact commutes_fail _

theorem commutes_number (demand : String) : w.Commutes id (number demand) (number demand) := by
  refine (commutes_expect _ _).bind fun t => ?_
  rw [Rewording.number_token]
  exact commutes_pure _

theorem commutes_identifier (demand : String) : w.Commutes w.token (identifier demand) (identifier demand) :=
  commutes_expect _ _

/-! ## Values and assignments -/

theorem commutes_triple : w.Commutes id triple triple :=
  (commutes_number _).bind fun _ => (commutes_expect _ _).bind fun _ =>
    (commutes_number _).bind fun _ => (commutes_expect _ _).bind fun _ =>
      (commutes_number _).bind fun _ => (commutes_expect _ _).bind fun _ => commutes_pure _

theorem commutes_value : w.Commutes w.value value value := by
  refine commutes_next.bind fun o => ?_
  cases o with
  | none => exact commutes_fail _
  | some t =>
    have text := Rewording.text_token (w := w) t
    have number := Rewording.number_token (w := w) t
    simp only [Option.map_some, Rewording.kind_token, text, number]
    cases t.kind with
    | number | string | identifier => exact commutes_pure _
    | leftParen => exact commutes_triple.bind fun _ => commutes_pure _
    | newline | equal | comma | rightParen | leftBrace | rightBrace | error => exact commutes_fail _

theorem commutes_assignment : w.Commutes w.assignment assignment assignment := by
  refine (commutes_identifier _).bind fun name => ?_
  rw [Rewording.text_token]
  exact (commutes_expect _ _).bind fun _ => commutes_value.bind fun _ =>
    (commutes_expect _ _).bind fun _ => commutes_pure _

/-! ## Blocks -/

theorem afterNewlines_map (tokens : List Token) :
    afterNewlines (tokens.map w.token) = (afterNewlines tokens).map w.token := List.dropWhile_map ..

theorem commutes_skipNewlines : w.Commutes id skipNewlines skipNewlines := fun tokens =>
  congrArg (Step.mk (.ok ())) (afterNewlines_map tokens)

/-- The loop in a block, round by round. -/
theorem commutes_restOfBlock (kind : String) :
    w.Commutes (List.map w.assignment) (restOfBlock kind) (restOfBlock (w.text kind)) := by
  intro tokens
  fun_induction restOfBlock kind tokens with
  | case1 => exact restOfBlock_nil
  | case2 t rest ht ih =>
    rw [List.map_cons, restOfBlock_newline (by exact ht)]
    exact ih
  | case3 t rest ht => exact restOfBlock_brace (by exact ht)
  | case4 t rest ht problem left read =>
    exact restOfBlock_cons_error (by exact ht) (commutes_assignment.of_eq read)
  | case5 t rest ht a mid read problem left others ih =>
    rw [others] at ih
    exact restOfBlock_cons_behind (by exact ht) (commutes_assignment.of_eq read) ih
  | case6 t rest ht a mid read as left others ih =>
    rw [others] at ih
    exact restOfBlock_cons (by exact ht) (commutes_assignment.of_eq read) ih
  | case7 t rest ht => exact restOfBlock_error (by exact ht)
  | case8 t rest h₁ h₂ h₃ h₄ => exact restOfBlock_stray h₁ h₂ h₃ h₄

/-- **Blocks** are read the same in any wording. -/
theorem commutes_block : w.Commutes w.block block block := by
  refine (commutes_identifier _).bind fun kind => ?_
  rw [Rewording.text_token]
  exact (commutes_expect _ _).bind fun _ => (commutes_expect _ _).bind fun _ =>
    commutes_skipNewlines.bind fun _ => commutes_assignment.bind fun _ =>
      (commutes_restOfBlock _).bind fun _ => commutes_pure _

end Reader

/-! ## Meanings -/

namespace Rewording

variable {w : Rewording} {α β γ δ : Type} {g : α → β} {k : γ → δ} {name : String}

variable (w) in
/-- The outcome of a check, worded in the other way. -/
def outcome (g : α → β) : Except MeaningProblem α → Except MeaningProblem β
  | .ok a => .ok (g a)
  | .error p => .error (w.meaningProblem p)

/-- **Checks in a row** have the other outcome if each of them does. -/
theorem outcome_bind {x : Except MeaningProblem α} {x' : Except MeaningProblem β}
    {f : α → Except MeaningProblem γ} {f' : β → Except MeaningProblem δ} (first : x' = w.outcome g x)
    (second : ∀ a, f' (g a) = w.outcome k (f a)) : (x' >>= f') = w.outcome k (x >>= f) := by
  rw [first]
  cases x with
  | error p => rfl
  | ok a => exact second a

theorem outcome_map {x : Except MeaningProblem α} {x' : Except MeaningProblem β} {f : α → γ} {f' : β → δ}
    (first : x' = w.outcome g x) (second : ∀ a, f' (g a) = k (f a)) : x'.map f' = w.outcome k (x.map f) := by
  rw [first]
  cases x with
  | error p => rfl
  | ok a => exact congrArg Except.ok (second a)

/-! ### Values of the wanted kind -/

theorem toNumber_value (v : Value) (name : String) :
    (w.value v).toNumber name = w.outcome id (v.toNumber name) := by
  cases v with
  | number x =>
    show (if Binary64.isFinite x then _ else _) = w.outcome id (if Binary64.isFinite x then _ else _)
    split <;> rfl
  | text s => rfl
  | triple t => rfl

theorem toText_value (v : Value) (name : String) :
    (w.value v).toText name = w.outcome w.text (v.toText name) := by
  cases v <;> rfl

theorem toTriple_value (v : Value) (name : String) :
    (w.value v).toTriple name = w.outcome id (v.toTriple name) := by
  cases v with
  | triple t =>
    show (if t.toList.all Binary64.isFinite then _ else _) =
      w.outcome id (if t.toList.all Binary64.isFinite then _ else _)
    split <;> rfl
  | text s => rfl
  | number x => rfl

/-! ### Names -/

theorem text_eq_iff (word : String) (letters : word.toList.all Char.isAlpha) (s : String) :
    w.text s = word ↔ s = word := w.keeps letters

theorem beq_text (letters : name.toList.all Char.isAlpha) (s : String) : (w.text s == name) = (s == name) := by
  rw [Bool.eq_iff_iff, beq_iff_eq, beq_iff_eq]
  exact w.keeps letters

theorem value?_block (letters : name.toList.all Char.isAlpha) (b : Block) :
    (w.block b).value? name = (b.value? name).map w.value := by
  have known (a : Assignment) : ((w.assignment a).name == name) = (a.name == name) := beq_text letters a.name
  have same : ((fun a : Assignment => a.name == name) ∘ w.assignment) = fun a => a.name == name := funext known
  unfold Block.value?
  rw [show (w.block b).assignments = b.assignments.map w.assignment from rfl, ← List.map_reverse, List.find?_map,
    same, Option.map_map, Option.map_map]
  rfl

theorem assigns_block (letters : name.toList.all Char.isAlpha) (b : Block) :
    (w.block b).assigns name = b.assigns name := by
  unfold Block.assigns
  rw [value?_block letters, Option.isSome_map]

/-- No other wording of a name becomes an allowed one. -/
theorem contains_text {allowed : List String} (letters : ∀ name ∈ allowed, name.toList.all Char.isAlpha)
    (s : String) : allowed.contains (w.text s) = allowed.contains s := by
  rw [Bool.eq_iff_iff, List.contains_iff_mem, List.contains_iff_mem]
  constructor
  · intro inside
    rwa [← (w.keeps (letters _ inside)).1 rfl] at inside
  · intro inside
    rwa [(w.keeps (letters s inside)).2 rfl]

theorem checkNames_block {allowed : List String} (letters : ∀ name ∈ allowed, name.toList.all Char.isAlpha)
    (b : Block) : (w.block b).checkNames allowed = w.outcome id (b.checkNames allowed) := by
  have known (a : Assignment) : (!allowed.contains (w.assignment a).name) = !allowed.contains a.name :=
    congrArg not (contains_text letters a.name)
  have same : ((fun a : Assignment => !allowed.contains a.name) ∘ w.assignment) =
      fun a => !allowed.contains a.name := funext known
  have strangers : (w.block b).stranger? allowed = (b.stranger? allowed).map w.assignment := by
    unfold Block.stranger?
    rw [show (w.block b).assignments = b.assignments.map w.assignment from rfl, List.find?_map, same]
  unfold Block.checkNames
  rw [strangers]
  cases b.stranger? allowed <;> rfl

/-! ### The three kinds -/

theorem windowSide_block (letters : name.toList.all Char.isAlpha) (b : Block) :
    (w.block b).windowSide name = w.outcome id (b.windowSide name) := by
  unfold Block.windowSide
  rw [value?_block letters]
  cases b.value? name with
  | none => rfl
  | some v =>
    refine outcome_bind (toNumber_value v name) fun size => ?_
    show (if size < 1 then _ else _) = w.outcome id (if size < 1 then _ else _)
    split <;> rfl

theorem toWindow_block (b : Block) : (w.block b).toWindow = w.outcome w.window b.toWindow := by
  refine outcome_bind (checkNames_block (by decide) b) fun _ => ?_
  have sides (title : Option String) :
      ((w.block b).windowSide "width" >>= fun width => (w.block b).windowSide "height" >>= fun height =>
        .ok { title := title.map w.text, width, height }) =
      w.outcome w.window (b.windowSide "width" >>= fun width => b.windowSide "height" >>= fun height =>
        .ok { title, width, height }) :=
    outcome_bind (windowSide_block (by decide) b) fun width =>
      outcome_bind (windowSide_block (by decide) b) fun height => rfl
  rw [value?_block (by decide)]
  cases b.value? "title" with
  | none => exact sides none
  | some v =>
    have title : (Except.map some ((w.value v).toText "title")) =
        w.outcome (Option.map w.text) (Except.map some (v.toText "title")) :=
      outcome_map (toText_value v _) fun _ => rfl
    exact outcome_bind title sides

theorem placement_block {needed refused : String} (type : String) (hn : needed.toList.all Char.isAlpha)
    (hr : refused.toList.all Char.isAlpha) (b : Block) :
    (w.block b).placement type needed refused = w.outcome id (b.placement type needed refused) := by
  unfold Block.placement
  rw [value?_block hn, assigns_block hr]
  cases b.value? needed with
  | none => rfl
  | some v =>
    dsimp only [Option.map_some]
    split
    · rfl
    · exact toTriple_value v needed

theorem toLight_block (b : Block) : (w.block b).toLight = w.outcome id b.toLight := by
  refine outcome_bind (checkNames_block (by decide) b) fun _ => ?_
  rw [value?_block (by decide), value?_block (by decide)]
  cases b.value? "type" with
  | none => rfl
  | some typeValue =>
    cases b.value? "intensity" with
    | none => rfl
    | some intensityValue =>
      refine outcome_bind (toText_value typeValue _) fun type => ?_
      refine outcome_bind (toNumber_value intensityValue _) fun intensity => ?_
      dsimp only [id]
      rw [assigns_block (by decide), assigns_block (by decide)]
      simp only [text_eq_iff "ambient" rfl, text_eq_iff "point" rfl, text_eq_iff "directional" rfl]
      by_cases negative : intensity < 0
      · rw [if_pos negative, if_pos negative]
        rfl
      · rw [if_neg negative, if_neg negative]
        by_cases ambient : type = "ambient"
        · rw [if_pos ambient, if_pos ambient]
          split <;> rfl
        · rw [if_neg ambient, if_neg ambient]
          by_cases point : type = "point"
          · rw [if_pos point, if_pos point]
            exact outcome_map (placement_block _ (by decide) (by decide) b) fun v => rfl
          · rw [if_neg point, if_neg point]
            by_cases directional : type = "directional"
            · rw [if_pos directional, if_pos directional]
              exact outcome_map (placement_block _ (by decide) (by decide) b) fun v => rfl
            · rw [if_neg directional, if_neg directional]
              rfl

theorem toSphere_block (b : Block) : (w.block b).toSphere = w.outcome id b.toSphere := by
  refine outcome_bind (checkNames_block (by decide) b) fun _ => ?_
  have lacking : ["color", "center", "radius"].filter (fun name => !(w.block b).assigns name) =
      ["color", "center", "radius"].filter (fun name => !b.assigns name) := by
    refine List.filter_congr fun name known => ?_
    have letters : ∀ name ∈ ["color", "center", "radius"], name.toList.all Char.isAlpha := by decide
    rw [assigns_block (letters name known)]
  rw [lacking, value?_block (by decide), value?_block (by decide), value?_block (by decide)]
  cases b.value? "color" with
  | none => rfl
  | some color =>
    cases b.value? "center" with
    | none => rfl
    | some center =>
      cases b.value? "radius" with
      | none => rfl
      | some radius =>
        refine outcome_bind (toNumber_value radius _) fun r => ?_
        dsimp only [id]
        split
        · rfl
        · exact outcome_bind (toTriple_value color _) fun c => outcome_bind (toTriple_value center _) fun v => rfl

/-- **The meaning of a block** is worded as the block is. -/
theorem ofBlock_block (b : Block) :
    Definition.ofBlock (w.block b) = w.outcome w.definition (Definition.ofBlock b) := by
  unfold Definition.ofBlock
  have kind : (w.block b).kind = w.text b.kind := rfl
  simp only [kind, text_eq_iff "window" rfl, text_eq_iff "light" rfl, text_eq_iff "sphere" rfl]
  split
  · exact outcome_map (toWindow_block b) fun v => rfl
  · split
    · exact outcome_map (toLight_block b) fun v => rfl
    · split
      · exact outcome_map (toSphere_block b) fun v => rfl
      · rfl

variable (w) in
/-- A reading, worded in the other way. -/
def reading (r : Reading) : Reading where
  found := r.found.map w.definition
  problem := r.problem.map w.problem
  rest := r.rest.map w.token

end Rewording

/-! ## Whole texts -/

namespace Reader

variable {w : Rewording}

/-- **Reading all tokens** in the other wording: by induction on the blocks that are read. -/
theorem ofTokens_map (tokens : List Token) :
    Reading.ofTokens (tokens.map w.token) = w.reading (Reading.ofTokens tokens) := by
  have skipped := afterNewlines_map (w := w) tokens
  fun_induction Reading.ofTokens tokens with
  | case1 tokens nothing =>
    rw [nothing] at skipped
    exact Reading.ofTokens_nil skipped
  | case2 tokens t ts front problem rest read =>
    rw [front] at skipped
    exact Reading.ofTokens_error skipped (commutes_block.of_eq read)
  | case3 tokens t ts front b rest read problem meant =>
    have there := commutes_block (w := w) |>.of_eq read
    rw [← front, ← skipped] at there
    rw [Reading.ofTokens_of_block there, Rewording.ofBlock_block, meant]
    rfl
  | case4 tokens t ts front b rest read d meant others ih =>
    have there := commutes_block (w := w) |>.of_eq read
    rw [← front, ← skipped] at there
    rw [Reading.ofTokens_of_block there, Rewording.ofBlock_block, meant]
    show { Reading.ofTokens (rest.map w.token) with
      found := w.definition d :: (Reading.ofTokens (rest.map w.token)).found } = _
    rw [ih (afterNewlines_map rest)]
    rfl

theorem commutes_definitions : w.Commutes (List.map w.definition) definitions definitions := by
  intro tokens
  have read : definitions (tokens.map w.token) =
      ⟨(w.reading (Reading.ofTokens tokens)).result, (w.reading (Reading.ofTokens tokens)).rest⟩ := by
    rw [← ofTokens_map]
    rfl
  rw [read]
  show _ = w.step (List.map w.definition) ⟨(Reading.ofTokens tokens).result, (Reading.ofTokens tokens).rest⟩
  match Reading.ofTokens tokens with
  | ⟨_, some problem, rest⟩ => rfl
  | ⟨[], none, rest⟩ => rfl
  | ⟨d :: found, none, rest⟩ => rfl

end Reader

/-- **Texts in another wording** have the same definitions or the same problem, in that wording. -/
theorem parse_reworded {w : Rewording} {text other : List Char}
    (h : tokenize other = (tokenize text).map w.token) :
    parse other = ((parse text).map (List.map w.definition)).mapError w.problem := by
  have there := congrArg Step.result (Reader.commutes_definitions (w := w) (tokenize text))
  have read (text : List Char) : Reader.definitions (tokenize text) = ⟨parse text, (readText text).rest⟩ := rfl
  rw [← h, read, read] at there
  rw [show parse other = _ from there]
  cases parse text <;> rfl

end LitSpheres
