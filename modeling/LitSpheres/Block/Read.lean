/-
  Reading blocks from tokens.

  1. **Program** — a block is a kind, an opening brace, a line end, at least one assignment, and then
     further assignments and line ends up to the closing brace.  An assignment is a name, an equals
     sign, a value and a line end.  Reading looks one token ahead and never goes back.

  2. **Specification** — a reading step takes tokens from the front; what it leaves is a suffix of what
     it was given, also when it fails, so that a failure shows how far the text was good.

  3. **The crux** — an error token fails in the moment it is taken, and only then: what lies behind the
     first problem is never looked at.
-/
import LitSpheres.TextProblem

namespace LitSpheres

/-- The outcome of a reading step: its result, and the tokens that it left. -/
structure Step (α : Type) where
  result : Except TextProblem α
  rest : List Token

/-- A reading step takes tokens from the front. -/
def Reader (α : Type) := List Token → Step α

namespace Reader

variable {α β : Type}

/-- Takes nothing. -/
def done (a : α) : Reader α := fun tokens => ⟨.ok a, tokens⟩

/-- Fails where it stands. -/
def fail (problem : TextProblem) : Reader α := fun tokens => ⟨.error problem, tokens⟩

/-- One step after another; a failure keeps the tokens that its step left. -/
def andThen (r : Reader α) (next : α → Reader β) : Reader β := fun tokens =>
  match r tokens with
  | ⟨.ok a, rest⟩ => next a rest
  | ⟨.error problem, rest⟩ => ⟨.error problem, rest⟩

instance : Monad Reader where
  pure := done
  bind := andThen

/-! ## A step leaves a suffix -/

/-- The step leaves a suffix of the tokens that it is given. -/
def LeavesSuffix (r : Reader α) : Prop := ∀ tokens, (r tokens).rest <:+ tokens

theorem leavesSuffix_pure (a : α) : LeavesSuffix (pure a : Reader α) := fun _ => List.suffix_rfl

theorem leavesSuffix_fail (p : TextProblem) : LeavesSuffix (fail p : Reader α) := fun _ => List.suffix_rfl

theorem rest_bind_suffix {r : Reader α} {next : α → Reader β} (h : ∀ a, LeavesSuffix (next a))
    (tokens : List Token) : ((r >>= next) tokens).rest <:+ (r tokens).rest := by
  show (andThen r next tokens).rest <:+ _
  unfold andThen
  split
  · rename_i a rest hr
    have left : (r tokens).rest = rest := congrArg Step.rest hr
    exact left ▸ h a rest
  · rename_i problem rest hr
    have left : (r tokens).rest = rest := congrArg Step.rest hr
    exact left ▸ List.suffix_rfl

theorem LeavesSuffix.bind {r : Reader α} {next : α → Reader β} (hr : LeavesSuffix r)
    (h : ∀ a, LeavesSuffix (next a)) : LeavesSuffix (r >>= next) := fun tokens =>
  (rest_bind_suffix h tokens).trans (hr tokens)

/-! ## Single tokens -/

/-- Takes the next token, if there is one; an error token is taken and fails. -/
def next : Reader (Option Token) := fun tokens =>
  match tokens with
  | [] => ⟨.ok none, []⟩
  | t :: rest => if t.kind = .error then ⟨.error (.character t), rest⟩ else ⟨.ok (some t), rest⟩

@[simp] theorem rest_next (tokens : List Token) : (next tokens).rest = tokens.tail := by
  unfold next
  split
  · rfl
  · split <;> rfl

theorem leavesSuffix_next : LeavesSuffix next := fun tokens => by
  rw [rest_next]; exact List.tail_suffix tokens

/-- Takes a token of the given kind; `demand` says what is amiss if it is another. -/
def expect (kind : TokenKind) (demand : String) : Reader Token := do
  match ← next with
  | none => fail (.grammar (.missing kind))
  | some t => if t.kind = kind then pure t else fail (.grammar (.unexpected demand t))

theorem rest_expect_suffix (kind : TokenKind) (demand : String) (tokens : List Token) :
    (expect kind demand tokens).rest <:+ tokens.tail := by
  rw [← rest_next tokens]
  refine rest_bind_suffix (fun t => ?_) tokens
  cases t with
  | none => exact leavesSuffix_fail _
  | some t =>
    dsimp only
    split
    · exact leavesSuffix_pure _
    · exact leavesSuffix_fail _

theorem leavesSuffix_expect (kind : TokenKind) (demand : String) : LeavesSuffix (expect kind demand) :=
  fun tokens => (rest_expect_suffix kind demand tokens).trans (List.tail_suffix tokens)

/-- Takes a number token and gives its number. -/
def number (demand : String) : Reader Float := do
  let t ← expect .number demand
  pure t.number

theorem leavesSuffix_number (demand : String) : LeavesSuffix (number demand) :=
  (leavesSuffix_expect _ _).bind fun _ => leavesSuffix_pure _

/-- Takes an identifier. -/
def identifier (demand : String) : Reader Token := expect .identifier demand

/-! ## Values and assignments -/

/-- The three numbers of a triple and what stands between and behind them; the opening parenthesis has
    been taken before. -/
def triple : Reader (Vec3 Float) := do
  let x ← number "Tuples can only contain numbers"
  let _ ← expect .comma "Expected a comma to separate values in tuple"
  let y ← number "Tuples can only contain numbers"
  let _ ← expect .comma "Expected a comma to separate values in tuple"
  let z ← number "Tuples can only contain numbers"
  let _ ← expect .rightParen "Expected a right paren to close tuple"
  pure ⟨x, y, z⟩

theorem leavesSuffix_triple : LeavesSuffix triple :=
  (leavesSuffix_number _).bind fun _ => (leavesSuffix_expect _ _).bind fun _ =>
    (leavesSuffix_number _).bind fun _ => (leavesSuffix_expect _ _).bind fun _ =>
      (leavesSuffix_number _).bind fun _ => (leavesSuffix_expect _ _).bind fun _ => leavesSuffix_pure _

/-- A number, a text, or a triple; a text of letters needs no quotes. -/
def value : Reader Value := do
  match ← next with
  | none => fail (.grammar .noValue)
  | some t =>
    match t.kind with
    | .number => pure (.number t.number)
    | .string | .identifier => pure (.text t.text)
    | .leftParen => do
      let v ← triple
      pure (.triple v)
    | _ => fail (.grammar (.notAValue t))

theorem leavesSuffix_value : LeavesSuffix value := by
  refine leavesSuffix_next.bind fun t => ?_
  cases t with
  | none => exact leavesSuffix_fail _
  | some t =>
    dsimp only
    split
    · exact leavesSuffix_pure _
    · exact leavesSuffix_pure _
    · exact leavesSuffix_pure _
    · exact leavesSuffix_triple.bind fun _ => leavesSuffix_pure _
    · exact leavesSuffix_fail _

/-- A name, an equals sign, a value, and the end of the line. -/
def assignment : Reader Assignment := do
  let name ← identifier "Assignments should start with identifiers"
  let _ ← expect .equal "Expected = when parsing assignment"
  let v ← value
  let _ ← expect .newline "Expect assignments to be terminated by newlines"
  pure { name := name.text, value := v, place := name.place }

theorem rest_assignment_suffix (tokens : List Token) : (assignment tokens).rest <:+ tokens.tail :=
  (rest_bind_suffix (fun _ => (leavesSuffix_expect _ _).bind fun _ => leavesSuffix_value.bind fun _ =>
    (leavesSuffix_expect _ _).bind fun _ => leavesSuffix_pure _) tokens).trans
    (rest_expect_suffix _ _ tokens)

theorem leavesSuffix_assignment : LeavesSuffix assignment :=
  fun tokens => (rest_assignment_suffix tokens).trans (List.tail_suffix tokens)

/-! ## Blocks -/

/-- The tokens behind the line ends at the front. -/
def afterNewlines (tokens : List Token) : List Token := tokens.dropWhile (·.kind = .newline)

theorem afterNewlines_suffix (tokens : List Token) : afterNewlines tokens <:+ tokens :=
  List.dropWhile_suffix _

/-- Takes all line ends at the front. -/
def skipNewlines : Reader Unit := fun tokens => ⟨.ok (), afterNewlines tokens⟩

theorem leavesSuffix_skipNewlines : LeavesSuffix skipNewlines := afterNewlines_suffix

/-- The assignments and line ends up to the closing brace of a block of the given kind, which is taken
    as well. -/
def restOfBlock (kind : String) : Reader (List Assignment)
  | [] => ⟨.error (.grammar (.unclosed kind)), []⟩
  | t :: rest =>
    match t.kind with
    | .newline => restOfBlock kind rest
    | .rightBrace => ⟨.ok [], rest⟩
    | .identifier =>
      match _h : assignment (t :: rest) with
      | ⟨.error problem, left⟩ => ⟨.error problem, left⟩
      | ⟨.ok a, left⟩ =>
        match restOfBlock kind left with
        | ⟨.error problem, left⟩ => ⟨.error problem, left⟩
        | ⟨.ok as, left⟩ => ⟨.ok (a :: as), left⟩
    | .error => ⟨.error (.character t), rest⟩
    | _ => ⟨.error (.grammar (.strayInBlock t)), rest⟩
  termination_by tokens => tokens.length
  decreasing_by
    · exact Nat.lt_succ_self _
    · have hs : (assignment (t :: rest)).rest <:+ rest := rest_assignment_suffix (t :: rest)
      rw [_h] at hs
      exact Nat.lt_succ_of_le hs.length_le

theorem leavesSuffix_restOfBlock (kind : String) : LeavesSuffix (restOfBlock kind) := by
  intro tokens
  fun_induction restOfBlock kind tokens with
  | case1 => exact List.suffix_rfl
  | case2 t rest _ ih => exact ih.trans (List.suffix_cons t rest)
  | case3 t rest => exact List.suffix_cons t rest
  | case4 t rest _ problem left h =>
    have hs := rest_assignment_suffix (t :: rest)
    rw [h] at hs
    exact hs.trans (List.suffix_cons t rest)
  | case5 t rest _ a left h problem left' hr ih =>
    have hs := rest_assignment_suffix (t :: rest)
    rw [h] at hs
    rw [hr] at ih
    exact ih.trans (hs.trans (List.suffix_cons t rest))
  | case6 t rest _ a left h as left' hr ih =>
    have hs := rest_assignment_suffix (t :: rest)
    rw [h] at hs
    rw [hr] at ih
    exact ih.trans (hs.trans (List.suffix_cons t rest))
  | case7 t rest => exact List.suffix_cons t rest
  | case8 t rest => exact List.suffix_cons t rest

/-- One block, from its kind to its closing brace. -/
def block : Reader Block := do
  let kind ← identifier "Object definitions should start with a definition type"
  let _ ← expect .leftBrace "A definition should be opened by a curly brace '\x7b'"
  let _ ← expect .newline "Expected a newline after '\x7b'"
  skipNewlines
  let first ← assignment
  let others ← restOfBlock kind.text
  pure { kind := kind.text, assignments := first :: others, place := kind.place }

theorem rest_block_suffix (tokens : List Token) : (block tokens).rest <:+ tokens.tail :=
  (rest_bind_suffix (fun _ => (leavesSuffix_expect _ _).bind fun _ => (leavesSuffix_expect _ _).bind fun _ =>
    leavesSuffix_skipNewlines.bind fun _ => leavesSuffix_assignment.bind fun _ =>
      (leavesSuffix_restOfBlock _).bind fun _ => leavesSuffix_pure _) tokens).trans
    (rest_expect_suffix _ _ tokens)

end Reader
end LitSpheres
