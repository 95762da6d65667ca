/-
  A cursor stays sound, whatever it is asked for.

  1. **Program** — a cursor is asked for pieces of the grammar in any order.  A piece that is not there
     stops the reading somewhere inside it, and the next request starts at that place.

  2. **Specification** — no request changes the tokens, moves back or moves beyond the end.  What was taken
     accounts for the outcome: a success took no error token, a problem with a character took that error
     token last, a problem of grammar took the token that it names last, and one that names none is found at
     the end.

  3. **The crux** — reading steps that account for what they take do so one after another: the step that
     fails is behind steps that took no error token.  A single token is no such row, since the token that is
     refused was taken by the step before; taking a token and choosing by it is one law.
-/
import LitSpheres.Cursor
import LitSpheres.Proofs.Grammar.FirstProblem
import LitSpheres.Proofs.Token.Munch

namespace LitSpheres

/-! ## The token that a problem names -/

namespace GrammarProblem

variable {g : GrammarProblem} {t : Token}

/-- The token that a problem of grammar names. -/
def token? : GrammarProblem → Option Token
  | strayInBlock t | notAValue t | unexpected _ t => some t
  | noDefinition | unclosed _ | noValue | missing _ => none

/-- The problems that name no token are those at the end of the tokens. -/
theorem token?_eq_none_iff : g.token? = none ↔ (TextProblem.grammar g).atEnd := by
  cases g <;> simp [token?, TextProblem.atEnd]

/-- A problem names its token in its message. -/
theorem describe_in_message (h : g.token? = some t) :
    ∃ front behind, g.message = front ++ t.describe ++ behind := by
  cases g with
  | strayInBlock u =>
    obtain rfl := Option.some.inj h
    exact ⟨"Unexpected ", " when parsing definition; expected assignment or closing brace", rfl⟩
  | notAValue u =>
    obtain rfl := Option.some.inj h
    exact ⟨"Invalid value: ", "", (String.append_empty).symm⟩
  | unexpected demand u =>
    obtain rfl := Option.some.inj h
    exact ⟨"Error: " ++ demand ++ " on ", "", (String.append_empty).symm⟩
  | noDefinition | unclosed _ | noValue | missing _ => exact absurd h nofun

end GrammarProblem

/-! ## Outcomes and the tokens behind them -/

/-- No error token is among them. -/
def Clean (tokens : List Token) : Prop := ∀ t ∈ tokens, t.kind ≠ .error

theorem Clean.nil : Clean [] := nofun

theorem Clean.append {ts us : List Token} (h : Clean ts) (k : Clean us) : Clean (ts ++ us) :=
  fun t ht => (List.mem_append.1 ht).elim (h t) (k t)

theorem Clean.singleton {t : Token} (h : t.kind ≠ .error) : Clean [t] := fun _ hu =>
  List.mem_singleton.1 hu ▸ h

/-- What a problem says about the tokens that were taken, and about those that are left. -/
def TextProblem.Explains (used rest : List Token) : TextProblem → Prop
  | character t => ∃ front, used = front ++ [t] ∧ t.kind = .error ∧ Clean front
  | grammar g => Clean used ∧
      match g.token? with
      | some t => used.getLast? = some t
      | none => rest = []
  | meaning _ => Clean used

/-- What was taken before without an error token changes nothing. -/
theorem TextProblem.Explains.prepend {problem : TextProblem} {used rest before : List Token}
    (clean : Clean before) (h : problem.Explains used rest) : problem.Explains (before ++ used) rest := by
  cases problem with
  | character t =>
    obtain ⟨front, rfl, kind, early⟩ := h
    exact ⟨before ++ front, (List.append_assoc ..).symm, kind, clean.append early⟩
  | meaning p => exact clean.append h
  | grammar g =>
    obtain ⟨early, shown⟩ := h
    refine ⟨clean.append early, ?_⟩
    cases named : g.token? with
    | none => simpa only [named] using shown
    | some t =>
      rw [named] at shown
      simp only [List.getLast?_append, shown, Option.some_or]

/-- What an outcome says about the tokens that were taken, and about those that are left. -/
def Explained {α : Type} (used rest : List Token) : Except TextProblem α → Prop
  | .ok _ => Clean used
  | .error problem => problem.Explains used rest

/-- Whether a reading came to the end of its tokens, or the problem that stopped it. -/
def Reading.ending (r : Reading) : Except TextProblem Unit :=
  match r.problem with
  | some problem => .error problem
  | none => .ok ()

namespace Reader

variable {α β : Type} {r : Reader α} {tokens front mid : List Token}

/-- A step takes tokens from the front, and those that it took account for its outcome. -/
def Accounts (tokens : List Token) (step : Step α) : Prop :=
  ∃ used, tokens = used ++ step.rest ∧ Explained used step.rest step.result

/-- What accounts for an outcome still does behind tokens without an error token. -/
theorem Accounts.behind {step : Step α} (clean : Clean front) (h : Accounts mid step) :
    Accounts (front ++ mid) step := by
  obtain ⟨used, rfl, explained⟩ := h
  refine ⟨front ++ used, (List.append_assoc ..).symm, ?_⟩
  cases result : step.result with
  | ok a =>
    rw [result] at explained
    exact clean.append explained
  | error problem =>
    rw [result] at explained
    exact explained.prepend clean

/-- What a success took has no error token in it; another step may go on behind it. -/
theorem Accounts.next {a : α} {step : Step β} (first : Accounts tokens (⟨.ok a, mid⟩ : Step α))
    (second : Accounts mid step) : Accounts tokens step := by
  obtain ⟨used, rfl, clean⟩ := first
  exact second.behind clean

/-- All that a reading step takes accounts for its outcome. -/
def Accounted (r : Reader α) : Prop := ∀ tokens, Accounts tokens (r tokens)

theorem Accounted.of_eq {step : Step α} (h : r.Accounted) (read : r tokens = step) : Accounts tokens step :=
  read ▸ h tokens

/-! ## Steps in a row -/

theorem accounted_pure (a : α) : (pure a : Reader α).Accounted := fun _ => ⟨[], rfl, Clean.nil⟩

/-- **Steps in a row** account for what they take if each of them does. -/
theorem Accounted.bind {next : α → Reader β} (hr : r.Accounted) (hn : ∀ a, (next a).Accounted) :
    (r >>= next).Accounted := by
  intro tokens
  match read : r tokens with
  | ⟨.error problem, rest⟩ =>
    rw [bind_of_error read]
    exact hr.of_eq read
  | ⟨.ok a, mid⟩ =>
    rw [bind_of_ok read]
    exact (hr.of_eq read).next (hn a mid)

/-! ## Single tokens -/

/-- **A choice by the next token** accounts for what it takes if it fails at the end, and with every token
    that is no error token it goes on so or refuses that token by its name. -/
theorem accounted_next {f : Option Token → Reader α} {m : GrammarProblem} (late : m.token? = none)
    (none : f none = fail (.grammar m))
    (decides : ∀ t : Token, t.kind ≠ .error →
      (f (some t)).Accounted ∨ ∃ g : GrammarProblem, g.token? = some t ∧ f (some t) = fail (.grammar g)) :
    (next >>= f).Accounted := by
  intro tokens
  cases tokens with
  | nil =>
    rw [next_bind_nil none]
    refine ⟨[], rfl, Clean.nil, ?_⟩
    simp only [late]
  | cons t rest =>
    by_cases ht : t.kind = .error
    · rw [next_bind_error ht]
      exact ⟨[t], rfl, [], rfl, ht, Clean.nil⟩
    · rw [next_bind_cons ht]
      rcases decides t ht with on | ⟨g, named, refused⟩
      · exact (on rest).behind (Clean.singleton ht)
      · rw [refused]
        refine ⟨[t], rfl, Clean.singleton ht, ?_⟩
        simp only [named, List.getLast?_singleton]

theorem accounted_peek : peek.Accounted := fun _ => ⟨[], rfl, Clean.nil⟩

theorem accounted_takeNext : next.Accounted := by
  intro tokens
  cases tokens with
  | nil => exact ⟨[], rfl, Clean.nil⟩
  | cons t rest =>
    by_cases ht : t.kind = .error
    · have taken : next (t :: rest) = ⟨.error (.character t), rest⟩ := if_pos ht
      rw [taken]
      exact ⟨[t], rfl, [], rfl, ht, Clean.nil⟩
    · rw [next_cons ht]
      exact ⟨[t], rfl, Clean.singleton ht⟩

theorem accounted_expect (kind : TokenKind) (demand : String) : (expect kind demand).Accounted := by
  refine accounted_next (m := .missing kind) rfl rfl fun t _ => ?_
  by_cases ht : t.kind = kind
  · exact .inl (by dsimp only; rw [if_pos ht]; exact accounted_pure t)
  · exact .inr ⟨.unexpected demand t, rfl, if_neg ht⟩

theorem accounted_number (demand : String) : (number demand).Accounted :=
  (accounted_expect _ _).bind fun _ => accounted_pure _

theorem accounted_identifier (demand : String) : (identifier demand).Accounted := accounted_expect _ _

/-! ## Values and assignments -/

theorem accounted_triple : triple.Accounted :=
  (accounted_number _).bind fun _ => (accounted_expect _ _).bind fun _ =>
    (accounted_number _).bind fun _ => (accounted_expect _ _).bind fun _ =>
      (accounted_number _).bind fun _ => (accounted_expect _ _).bind fun _ => accounted_pure _

theorem accounted_value : value.Accounted := by
  refine accounted_next (m := .noValue) rfl rfl fun t ht => ?_
  cases kind : t.kind with
  | number => exact .inl (by simp only [kind]; exact accounted_pure _)
  | string => exact .inl (by simp only [kind]; exact accounted_pure _)
  | identifier => exact .inl (by simp only [kind]; exact accounted_pure _)
  | leftParen => exact .inl (by simp only [kind]; exact accounted_triple.bind fun _ => accounted_pure _)
  | newline | equal | comma | rightParen | leftBrace | rightBrace =>
    exact .inr ⟨.notAValue t, rfl, by simp only [kind]⟩
  | error => exact absurd kind ht

theorem accounted_assignment : assignment.Accounted :=
  (accounted_identifier _).bind fun _ => (accounted_expect _ _).bind fun _ =>
    accounted_value.bind fun _ => (accounted_expect _ _).bind fun _ => accounted_pure _

/-! ## Blocks -/

theorem clean_newlines (ns : List (Leaf .newline)) : Clean (Leaf.tokens ns) := by
  intro t ht
  obtain ⟨n, -, rfl⟩ := List.mem_map.1 ht
  exact n.kind_ne (by decide)

theorem accounted_skipNewlines : skipNewlines.Accounted := by
  intro tokens
  obtain ⟨ns, split⟩ := exists_newlines tokens
  exact ⟨Leaf.tokens ns, split, clean_newlines ns⟩

/-- The loop in a block: by induction on its rounds, each of which takes what accounts for it. -/
theorem accounted_restOfBlock (kind : String) : (restOfBlock kind).Accounted := by
  intro tokens
  fun_induction restOfBlock kind tokens with
  | case1 => exact ⟨[], rfl, Clean.nil, rfl⟩
  | case2 t rest ht ih => exact ih.behind (Clean.singleton (by rw [ht]; decide))
  | case3 t rest ht => exact ⟨[t], rfl, Clean.singleton (by rw [ht]; decide)⟩
  | case4 t rest ht problem left read => exact accounted_assignment.of_eq read
  | case5 t rest ht a mid read problem left others ih =>
    rw [others] at ih
    exact (accounted_assignment.of_eq read).next ih
  | case6 t rest ht a mid read as left others ih =>
    rw [others] at ih
    exact (accounted_assignment.of_eq read).next ih
  | case7 t rest ht => exact ⟨[t], rfl, [], rfl, ht, Clean.nil⟩
  | case8 t rest h₁ h₂ h₃ h₄ => exact ⟨[t], rfl, Clean.singleton h₄, rfl⟩

theorem accounted_block : block.Accounted :=
  (accounted_identifier _).bind fun _ => (accounted_expect _ _).bind fun _ =>
    (accounted_expect _ _).bind fun _ => accounted_skipNewlines.bind fun _ =>
      accounted_assignment.bind fun _ => (accounted_restOfBlock _).bind fun _ => accounted_pure _

/-! ## Whole texts -/

/-- Reading a whole text, up to its end or the problem that stopped it. -/
theorem accounts_ofTokens (tokens : List Token) :
    Accounts tokens (⟨(Reading.ofTokens tokens).ending, (Reading.ofTokens tokens).rest⟩ : Step Unit) := by
  have skipped : Accounts tokens (⟨.ok (), afterNewlines tokens⟩ : Step Unit) := accounted_skipNewlines tokens
  fun_induction Reading.ofTokens tokens with
  | case1 tokens nothing =>
    rw [nothing] at skipped
    exact skipped
  | case2 tokens t ts front problem rest read =>
    rw [front] at skipped
    exact skipped.next (accounted_block.of_eq read)
  | case3 tokens t ts front b rest read problem meant =>
    rw [front] at skipped
    exact skipped.next (accounted_block.of_eq read)
  | case4 tokens t ts front b rest read d meant others ih =>
    rw [front] at skipped
    exact skipped.next ((accounted_block.of_eq read).next (ih (accounted_skipNewlines rest)))

theorem accounted_definitions : definitions.Accounted := by
  intro tokens
  have whole := accounts_ofTokens tokens
  have read : definitions tokens = ⟨(Reading.ofTokens tokens).result, (Reading.ofTokens tokens).rest⟩ := rfl
  match stopped : Reading.ofTokens tokens with
  | ⟨found, some problem, rest⟩ =>
    rw [read, stopped]
    rw [stopped] at whole
    exact whole
  | ⟨d :: found, none, rest⟩ =>
    rw [read, stopped]
    rw [stopped] at whole
    exact whole
  | ⟨[], none, rest⟩ =>
    have atEnd := (stop_without_block (congrArg Reading.problem stopped) (congrArg Reading.found stopped)).1
    rw [read, stopped]
    rw [stopped] at whole atEnd
    obtain ⟨used, split, clean⟩ := whole
    exact ⟨used, split, clean, atEnd⟩

/-- **Whatever is asked for**, the tokens that were taken account for the outcome. -/
theorem accounted_request (request : Request) : request.reader.Accounted := by
  cases request with
  | peek => exact accounted_peek.bind fun _ => accounted_pure _
  | next => exact accounted_takeNext.bind fun _ => accounted_pure _
  | skipNewlines => exact accounted_skipNewlines.bind fun _ => accounted_pure _
  | definitions => exact accounted_definitions.bind fun _ => accounted_pure _
  | block => exact accounted_block.bind fun _ => accounted_pure _
  | assignment => exact accounted_assignment.bind fun _ => accounted_pure _
  | value => exact accounted_value.bind fun _ => accounted_pure _
  | triple => exact accounted_triple.bind fun _ => accounted_pure _
  | token kind demand => exact (accounted_expect kind demand).bind fun _ => accounted_pure _
  | number demand => exact (accounted_number demand).bind fun _ => accounted_pure _
  | identifier demand => exact (accounted_identifier demand).bind fun _ => accounted_pure _

end Reader

/-! ## Cursors -/

namespace Cursor

variable {c : Cursor} {r : Request}

/-- The tokens that a request takes: those between the positions before and behind it. -/
def taken (c : Cursor) (r : Request) : List Token :=
  (c.tokens.drop c.position).take ((c.move r).position - c.position)

/-- A request takes tokens from the front of those that are left, the next one sees those behind them. -/
theorem exists_taken (c : Cursor) (r : Request) :
    c.left = c.taken r ++ (c.move r).left ∧ (c.move r).position = c.position + (c.taken r).length ∧
      Explained (c.taken r) (c.move r).left (c.answer r) := by
  obtain ⟨used, split, explained⟩ := Reader.accounted_request r c.left
  have moved : (c.move r).position = c.position + used.length := by
    show c.position + (c.left.length - (r.reader c.left).rest.length) = _
    have count := congrArg List.length split
    rw [List.length_append] at count
    omega
  have left : (c.move r).left = (r.reader c.left).rest := by
    calc (c.move r).left = c.tokens.drop (c.position + used.length) := congrArg (c.tokens.drop ·) moved
      _ = c.left.drop used.length := List.drop_drop.symm
      _ = (used ++ (r.reader c.left).rest).drop used.length := congrArg (List.drop used.length) split
      _ = (r.reader c.left).rest := List.drop_left
  have taken : c.taken r = used := by
    calc c.taken r = c.left.take used.length := by
          rw [Cursor.taken, moved, Nat.add_sub_cancel_left]
          rfl
      _ = (used ++ (r.reader c.left).rest).take used.length := congrArg (List.take used.length) split
      _ = used := List.take_left
  rw [taken, left]
  exact ⟨split, moved, explained⟩

/-- What a request does to a cursor, and what its outcome says about the tokens that it takes. -/
structure Sound (c : Cursor) (r : Request) : Prop where
  /-- The tokens stay the same. -/
  tokens_eq : (c.move r).tokens = c.tokens
  /-- The cursor does not move back. -/
  forward : c.position ≤ (c.move r).position
  /-- The cursor does not move beyond the end. -/
  inside : (c.move r).position ≤ c.tokens.length
  /-- A look at the next token moves nothing. -/
  still : r = .peek → c.move r = c
  /-- A success took no error token. -/
  ok : ∀ reply, c.answer r = .ok reply → ∀ t ∈ c.taken r, t.kind ≠ .error
  /-- A problem with a character took the error token that its message names last, and no other one. -/
  character : ∀ t, c.answer r = .error (.character t) →
    t.kind = .error ∧ (∃ front, c.taken r = front ++ [t] ∧ ∀ u ∈ front, u.kind ≠ .error) ∧
      (TextProblem.character t).message =
        s!"Unrecognized character '{t.text}' at line {t.place.line}, column {t.place.column}"
  /-- A problem of grammar that names a token in its message took that token last. -/
  named : ∀ g t, c.answer r = .error (.grammar g) → g.token? = some t →
    (c.taken r).getLast? = some t ∧ ∃ front behind, g.message = front ++ t.describe ++ behind
  /-- A problem at the end of the tokens, which is a problem of grammar that names none, is found there. -/
  ended : ∀ problem, c.answer r = .error problem → problem.atEnd → (c.move r).position = c.tokens.length

/-- **One request**: from a place in the text or at its end, every request is sound. -/
theorem sound_move (inside : c.position ≤ c.tokens.length) (r : Request) : c.Sound r := by
  obtain ⟨split, moved, explained⟩ := c.exists_taken r
  have count : c.tokens.length - c.position = (c.taken r).length + (c.move r).left.length := by
    rw [← List.length_drop, ← List.length_append]
    exact congrArg List.length split
  constructor
  case tokens_eq => rfl
  case forward => omega
  case inside => omega
  case still =>
    rintro rfl
    have same : c.position + (c.left.length - c.left.length) = c.position := by omega
    exact congrArg (fun n => { c with position := n }) same
  case ok =>
    intro reply h
    rw [h] at explained
    exact explained
  case character =>
    intro t h
    rw [h] at explained
    obtain ⟨front, last, kind, clean⟩ := explained
    exact ⟨kind, ⟨front, last, clean⟩, rfl⟩
  case named =>
    intro g t h hg
    rw [h] at explained
    have shown := explained.2
    rw [hg] at shown
    exact ⟨shown, g.describe_in_message hg⟩
  case ended =>
    intro problem h late
    rw [h] at explained
    cases problem with
    | character t => exact absurd late Bool.false_ne_true
    | meaning m => exact absurd late Bool.false_ne_true
    | grammar g =>
      have nothing := explained.2
      rw [GrammarProblem.token?_eq_none_iff.2 late] at nothing
      have none : (c.move r).left.length = 0 := congrArg List.length nothing
      omega

/-- No requests change the tokens, or move beyond the end. -/
theorem after_inside (requests : List Request) (h : c.position ≤ c.tokens.length) :
    (c.after requests).tokens = c.tokens ∧ (c.after requests).position ≤ c.tokens.length := by
  induction requests generalizing c with
  | nil => exact ⟨rfl, h⟩
  | cons r requests ih => exact ih (sound_move h r).inside

/-- **Any requests in any order**: a cursor that was set in front of a text and asked for anything, with
    whatever success, still has the tokens of the text, and the next request is sound.  The error token that
    a problem names is a single character. -/
theorem sound_after (text : List Char) (before : List Request) (r : Request) :
    ((ofText text).after before).tokens = tokenize text ∧ ((ofText text).after before).Sound r ∧
      ∀ t, ((ofText text).after before).answer r = .error (.character t) →
        ∃ ch, t.value = .text (String.ofList [ch]) ∧ t.text = String.ofList [ch] := by
  obtain ⟨same, inside⟩ := after_inside (c := ofText text) before (Nat.zero_le _)
  have sound : ((ofText text).after before).Sound r := sound_move (by rw [same]; exact inside) r
  refine ⟨same, sound, fun t h => ?_⟩
  obtain ⟨kind, ⟨front, last, -⟩, -⟩ := sound.character t h
  have taken : t ∈ ((ofText text).after before).taken r := by rw [last]; simp
  have token : t ∈ tokenize text := by
    have among := List.mem_of_mem_drop (List.mem_of_mem_take taken)
    rw [same] at among
    exact among
  obtain ⟨-, -, -, ch, -, -, value, -⟩ := Lexeme.exists_strays_of_error token kind
  exact ⟨ch, value, by rw [Token.text, value]⟩

/-- A block is asked for behind its kind, and then two tokens: the block fails at the opening brace, and the
    second token is an error token, which is taken.  Then the text is at its end. -/
theorem sound_after_failures :
    ((ofText "light \x7b radius ?".toList).after [.value, .block, .peek, .next]).position = 3 ∧
      (match ((ofText "light \x7b radius ?".toList).after [.value, .block, .peek, .next]).answer .next with
        | .error problem => problem.message
        | .ok _ => "") = "Unrecognized character '?' at line 1, column 16" ∧
      ((ofText "light \x7b radius ?".toList).after [.value, .block, .peek, .next]).Sound .next ∧
      ((ofText "light \x7b radius ?".toList).after [.value, .block, .peek, .next, .next]).position = 4 ∧
      ((ofText "light \x7b radius ?".toList).after [.value, .block, .peek, .next, .next]).Sound .block :=
  ⟨by decide +kernel, by decide +kernel,
    (sound_after "light \x7b radius ?".toList [.value, .block, .peek, .next] .next).2.1, by decide +kernel,
    (sound_after "light \x7b radius ?".toList [.value, .block, .peek, .next, .next] .block).2.1⟩

end Cursor
end LitSpheres
