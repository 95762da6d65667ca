/-
  Reading steps see a problem at the earliest token that shows it.

  1. **Program** — a reading step takes tokens from the front and fails at one of them, or at their end.

  2. **Specification** — a step is prompt: what it has taken decides its outcome, whatever follows; if it
     fails at a token, then up to that token it only waited for more; and if it fails at the end of the
     tokens, there are more tokens with which it would have succeeded.

  3. **The crux** — prompt steps in a row are prompt.  The first one that fails decides, and a step that
     waits for more can be given what makes it succeed.  Skipping line ends looks one token ahead and is
     not prompt alone, but it is in front of a step that takes no line end.
-/
import LitSpheres.Proofs.Grammar.Reading

namespace LitSpheres

/-! ## Problems and the tokens that show them -/

namespace TextProblem

/-- Whether the problem is that the tokens come to their end too early. -/
def atEnd : TextProblem → Bool
  | .grammar .noDefinition | .grammar (.unclosed _) | .grammar .noValue | .grammar (.missing _) => true
  | _ => false

/-- Whether a token may show the problem: an error token shows itself, any other token a problem of
    grammar. -/
def ShownBy (t : Token) : TextProblem → Prop
  | .character u => u = t ∧ t.kind = .error
  | .grammar _ => t.kind ≠ .error
  | .meaning _ => False

end TextProblem

namespace Reader

variable {α β : Type} {r : Reader α} {tokens rest : List Token} {problem : TextProblem}

/-- What a reading step has taken decides its outcome, and a failure is the earliest possible one. -/
structure Prompt (r : Reader α) : Prop where
  /-- Some tokens are read to the last one. -/
  opens : ∃ tokens a, r tokens = ⟨.ok a, []⟩
  /-- A success stays one, whatever follows. -/
  taken : ∀ {tokens a rest}, r tokens = ⟨.ok a, rest⟩ →
    ∃ used, tokens = used ++ rest ∧ ∀ other, r (used ++ other) = ⟨.ok a, other⟩
  /-- A failure at a token stays one, whatever follows; without that token there is only the failure at
      the end. -/
  stopped : ∀ {tokens problem rest}, r tokens = ⟨.error problem, rest⟩ → ¬ problem.atEnd →
    ∃ used last, tokens = used ++ last :: rest ∧ problem.ShownBy last ∧
      (∀ other, r (used ++ last :: other) = ⟨.error problem, other⟩) ∧
      ∃ waiting : TextProblem, waiting.atEnd ∧ r used = ⟨.error waiting, []⟩
  /-- After a failure at the end nothing is left, and something was missing that can be added. -/
  ended : ∀ {tokens problem rest}, r tokens = ⟨.error problem, rest⟩ → problem.atEnd →
    rest = [] ∧ ∃ more a, r (tokens ++ more) = ⟨.ok a, []⟩

theorem error_inj {p q : TextProblem} {l m : List Token} (h : (⟨.error p, l⟩ : Step α) = ⟨.error q, m⟩) :
    p = q ∧ l = m := by
  injection h with same behind
  exact ⟨Except.error.inj same, behind⟩

theorem ok_inj {a b : α} {l m : List Token} (h : (⟨.ok a, l⟩ : Step α) = ⟨.ok b, m⟩) : a = b ∧ l = m := by
  injection h with same behind
  exact ⟨Except.ok.inj same, behind⟩

/-! ## Steps in a row -/

theorem bind_of_error {next : α → Reader β} (h : r tokens = ⟨.error problem, rest⟩) :
    (r >>= next) tokens = ⟨.error problem, rest⟩ := by
  show andThen r next tokens = _
  unfold andThen
  rw [h]

/-- A row of two steps fails in the first or in the second one. -/
theorem bind_eq_error {next : α → Reader β} (h : (r >>= next) tokens = ⟨.error problem, rest⟩) :
    r tokens = ⟨.error problem, rest⟩ ∨
      ∃ a mid, r tokens = ⟨.ok a, mid⟩ ∧ next a mid = ⟨.error problem, rest⟩ := by
  match hr : r tokens with
  | ⟨.ok a, mid⟩ => exact .inr ⟨a, mid, rfl, (bind_of_ok hr).symm.trans h⟩
  | ⟨.error other, left⟩ =>
    obtain ⟨rfl, rfl⟩ := error_inj ((bind_of_error hr).symm.trans h)
    exact .inl rfl

/-- A prompt step that read its tokens to the last leaves what is added behind them. -/
theorem Prompt.append {a : α} (hr : r.Prompt) (h : r tokens = ⟨.ok a, []⟩) (other : List Token) :
    r (tokens ++ other) = ⟨.ok a, other⟩ := by
  obtain ⟨used, split, same⟩ := hr.taken h
  rw [split, List.append_nil]
  exact same other

theorem prompt_pure (a : α) : (pure a : Reader α).Prompt where
  opens := ⟨[], a, rfl⟩
  taken h := by
    obtain ⟨rfl, rfl⟩ := pure_eq_ok.1 h
    exact ⟨[], rfl, fun other => rfl⟩
  stopped h := absurd (congrArg Step.result h) nofun
  ended h := absurd (congrArg Step.result h) nofun

/-- **Prompt steps in a row are prompt.** -/
theorem Prompt.bind {next : α → Reader β} (hr : r.Prompt) (hn : ∀ a, (next a).Prompt) :
    (r >>= next).Prompt where
  opens := by
    obtain ⟨first, a, ha⟩ := hr.opens
    obtain ⟨second, b, hb⟩ := (hn a).opens
    exact ⟨first ++ second, b, (bind_of_ok (hr.append ha second)).trans hb⟩
  taken h := by
    obtain ⟨a, mid, ha, hb⟩ := bind_eq_ok.1 h
    obtain ⟨first, rfl, sameFirst⟩ := hr.taken ha
    obtain ⟨second, rfl, sameSecond⟩ := (hn a).taken hb
    refine ⟨first ++ second, (List.append_assoc ..).symm, fun other => ?_⟩
    rw [List.append_assoc, bind_of_ok (sameFirst _)]
    exact sameSecond other
  stopped h inside := by
    rcases bind_eq_error h with hf | ⟨a, mid, ha, hf⟩
    · obtain ⟨used, last, split, shown, same, waiting, atEnd, waits⟩ := hr.stopped hf inside
      exact ⟨used, last, split, shown, fun other => bind_of_error (same other), waiting, atEnd,
        bind_of_error waits⟩
    · obtain ⟨first, rfl, sameFirst⟩ := hr.taken ha
      obtain ⟨used, last, rfl, shown, same, waiting, atEnd, waits⟩ := (hn a).stopped hf inside
      refine ⟨first ++ used, last, (List.append_assoc ..).symm, shown, fun other => ?_, waiting, atEnd, ?_⟩
      · rw [List.append_assoc, bind_of_ok (sameFirst _)]
        exact same other
      · rw [bind_of_ok (sameFirst _)]
        exact waits
  ended h atEnd := by
    rcases bind_eq_error h with hf | ⟨a, mid, ha, hf⟩
    · obtain ⟨rfl, more, a, ha⟩ := hr.ended hf atEnd
      obtain ⟨second, b, hb⟩ := (hn a).opens
      refine ⟨rfl, more ++ second, b, ?_⟩
      rw [← List.append_assoc, bind_of_ok (hr.append ha second)]
      exact hb
    · obtain ⟨first, rfl, sameFirst⟩ := hr.taken ha
      obtain ⟨rfl, more, b, hb⟩ := (hn a).ended hf atEnd
      refine ⟨rfl, more, b, ?_⟩
      rw [List.append_assoc, bind_of_ok (sameFirst _)]
      exact hb

/-! ## Single tokens -/

/-- Whether a choice by the next token goes on with a prompt step or refuses the token. -/
def Decides (f : Option Token → Reader α) (t : Token) : Prop :=
  (f (some t)).Prompt ∨
    ∃ g : GrammarProblem, (TextProblem.grammar g).atEnd = false ∧ f (some t) = fail (.grammar g)

section

variable {f : Option Token → Reader α} {m : TextProblem} {t : Token}

theorem next_bind_nil (none : f none = fail m) : (next >>= f) [] = ⟨.error m, []⟩ := by
  show f .none [] = _
  rw [none]
  rfl

theorem next_bind_cons (ht : t.kind ≠ .error) : (next >>= f) (t :: rest) = f (some t) rest :=
  bind_of_ok (next_cons ht)

theorem next_bind_error (ht : t.kind = .error) :
    (next >>= f) (t :: rest) = ⟨.error (.character t), rest⟩ := bind_of_error (if_pos ht)

/-- **A choice by the next token** is prompt if it fails at the end, decides for every token that is no
    error token, and goes on with one of them. -/
theorem prompt_next (atEnd : m.atEnd) (none : f none = fail m)
    (decides : ∀ t : Token, t.kind ≠ .error → Decides f t)
    (goesOn : ∃ t : Token, t.kind ≠ .error ∧ (f (some t)).Prompt) : (next >>= f).Prompt where
  opens := by
    obtain ⟨t, ht, on⟩ := goesOn
    obtain ⟨tokens, a, h⟩ := on.opens
    exact ⟨t :: tokens, a, (next_bind_cons ht).trans h⟩
  taken {tokens a rest} h := by
    cases tokens with
    | nil => exact absurd ((next_bind_nil none).symm.trans h) (by simp)
    | cons t ts =>
      by_cases ht : t.kind = .error
      · exact absurd ((next_bind_error ht).symm.trans h) (by simp)
      · rcases decides t ht with on | ⟨g, -, refused⟩
        · obtain ⟨used, rfl, same⟩ := on.taken ((next_bind_cons ht).symm.trans h)
          exact ⟨t :: used, rfl, fun other => (next_bind_cons ht).trans (same other)⟩
        · have failed := (next_bind_cons ht).symm.trans h
          rw [refused] at failed
          exact absurd failed fail_ne_ok
  stopped {tokens problem rest} h inside := by
    cases tokens with
    | nil =>
      exact absurd ((error_inj ((next_bind_nil none).symm.trans h)).1 ▸ atEnd) inside
    | cons t ts =>
      by_cases ht : t.kind = .error
      · obtain ⟨rfl, rfl⟩ := error_inj ((next_bind_error ht).symm.trans h)
        exact ⟨[], t, rfl, ⟨rfl, ht⟩, fun other => next_bind_error ht, m, atEnd,
          next_bind_nil none⟩
      · rcases decides t ht with on | ⟨g, -, refused⟩
        · obtain ⟨used, last, rfl, shown, same, waiting, late, waits⟩ :=
            on.stopped ((next_bind_cons ht).symm.trans h) inside
          exact ⟨t :: used, last, rfl, shown, fun other => (next_bind_cons ht).trans (same other), waiting,
            late, (next_bind_cons ht).trans waits⟩
        · have fails (other : List Token) : (next >>= f) (t :: other) = ⟨.error (.grammar g), other⟩ := by
            rw [next_bind_cons ht, refused]
            rfl
          obtain ⟨rfl, rfl⟩ := error_inj ((fails ts).symm.trans h)
          exact ⟨[], t, rfl, ht, fails, m, atEnd, next_bind_nil none⟩
  ended {tokens problem rest} h late := by
    cases tokens with
    | nil =>
      obtain ⟨t, ht, on⟩ := goesOn
      obtain ⟨more, a, read⟩ := on.opens
      obtain ⟨-, nothing⟩ := error_inj ((next_bind_nil none).symm.trans h)
      exact ⟨nothing.symm, t :: more, a, (next_bind_cons ht).trans read⟩
    | cons t ts =>
      by_cases ht : t.kind = .error
      · rw [← (error_inj ((next_bind_error ht).symm.trans h)).1] at late
        exact absurd late Bool.false_ne_true
      · rcases decides t ht with on | ⟨g, early, refused⟩
        · obtain ⟨left, more, a, read⟩ := on.ended ((next_bind_cons ht).symm.trans h) late
          exact ⟨left, more, a, (next_bind_cons ht).trans read⟩
        · have failed := (next_bind_cons ht).symm.trans h
          rw [refused] at failed
          rw [← (error_inj failed).1, early] at late
          exact absurd late (by decide)

end

theorem prompt_expect {kind : TokenKind} (hk : kind ≠ .error) (demand : String) :
    (expect kind demand).Prompt := by
  refine prompt_next (m := .grammar (.missing kind)) rfl rfl (fun t _ => ?_)
    ⟨{ kind }, hk, ?_⟩
  · by_cases ht : t.kind = kind
    · exact .inl (by dsimp only; rw [if_pos ht]; exact prompt_pure t)
    · exact .inr ⟨.unexpected demand t, rfl, if_neg ht⟩
  · dsimp only
    rw [if_pos rfl]
    exact prompt_pure _

theorem prompt_number (demand : String) : (number demand).Prompt :=
  (prompt_expect (by decide) demand).bind fun _ => prompt_pure _

theorem prompt_identifier (demand : String) : (identifier demand).Prompt :=
  prompt_expect (by decide) demand

/-! ## Values and assignments -/

theorem prompt_triple : triple.Prompt :=
  (prompt_number _).bind fun _ => (prompt_expect (by decide) _).bind fun _ =>
    (prompt_number _).bind fun _ => (prompt_expect (by decide) _).bind fun _ =>
      (prompt_number _).bind fun _ => (prompt_expect (by decide) _).bind fun _ => prompt_pure _

theorem prompt_value : value.Prompt := by
  refine prompt_next (m := .grammar .noValue) rfl rfl (fun t ht => ?_)
    ⟨{ kind := .number }, by decide, prompt_pure _⟩
  unfold Decides
  cases kind : t.kind with
  | number => exact .inl (by simp only [kind]; exact prompt_pure _)
  | string => exact .inl (by simp only [kind]; exact prompt_pure _)
  | identifier => exact .inl (by simp only [kind]; exact prompt_pure _)
  | leftParen => exact .inl (by simp only [kind]; exact prompt_triple.bind fun _ => prompt_pure _)
  | newline | equal | comma | rightParen | leftBrace | rightBrace =>
    exact .inr ⟨.notAValue t, rfl, by simp only [kind]⟩
  | error => exact absurd kind ht

theorem prompt_assignment : assignment.Prompt :=
  (prompt_identifier _).bind fun _ => (prompt_expect (by decide) _).bind fun _ =>
    prompt_value.bind fun _ => (prompt_expect (by decide) _).bind fun _ => prompt_pure _

/-- An assignment begins with a word. -/
theorem head?_of_assignment {a : Assignment} (h : assignment tokens = ⟨.ok a, rest⟩) :
    ∃ t ts, tokens = t :: ts ∧ t.kind = .identifier := by
  obtain ⟨tree, rfl, -⟩ := assignment_eq_ok.1 h
  exact ⟨tree.name.token, _, rfl, tree.name.kind_eq⟩

/-! ## Line ends -/

theorem head?_afterNewlines (tokens : List Token) :
    ∀ t ∈ (afterNewlines tokens).head?, t.kind ≠ .newline := by
  intro t ht
  have failed := List.head?_dropWhile_not (·.kind = .newline) tokens
  unfold afterNewlines at ht
  rw [Option.mem_def.1 ht] at failed
  simpa using failed

/-- **Skipping line ends** in front of a prompt step that takes none is prompt. -/
theorem Prompt.skip {r : Reader α} (hr : r.Prompt)
    (due : ∀ {tokens rest a}, r tokens = ⟨.ok a, rest⟩ → ∃ t ts, tokens = t :: ts ∧ t.kind ≠ .newline) :
    (skipNewlines >>= fun _ => r).Prompt := by
  -- the tokens are line ends and what is behind them, to which the step is left alone
  have skipped (tokens : List Token) : (skipNewlines >>= fun _ => r) tokens = r (afterNewlines tokens) := rfl
  have behind (ns : List (Leaf .newline)) {ts : List Token} (h : ∀ t ∈ ts.head?, t.kind ≠ .newline) :
      (skipNewlines >>= fun _ => r) (Leaf.tokens ns ++ ts) = r ts := by
    rw [skipped, afterNewlines_append ns h]
  constructor
  case opens =>
    obtain ⟨tokens, a, h⟩ := hr.opens
    obtain ⟨t, ts, rfl, ht⟩ := due h
    exact ⟨t :: ts, a, (behind [] (by rintro u ⟨⟩; exact ht)).trans h⟩
  case taken =>
    intro tokens a rest h
    obtain ⟨ns, hns⟩ := exists_newlines tokens
    obtain ⟨used, split, same⟩ := hr.taken h
    obtain ⟨t, ts, huse, ht⟩ := due (same [])
    rw [List.append_nil] at huse
    refine ⟨Leaf.tokens ns ++ used, by rw [hns, split, List.append_assoc], fun other => ?_⟩
    rw [List.append_assoc, behind ns (by rw [huse]; rintro u ⟨⟩; exact ht)]
    exact same other
  case stopped =>
    intro tokens problem rest h inside
    obtain ⟨ns, hns⟩ := exists_newlines tokens
    have head := head?_afterNewlines tokens
    obtain ⟨used, last, split, shown, same, waiting, atEnd, waits⟩ := hr.stopped h inside
    rw [split] at head
    refine ⟨Leaf.tokens ns ++ used, last, by rw [hns, split, List.append_assoc], shown, fun other => ?_,
      waiting, atEnd, ?_⟩
    · rw [List.append_assoc, behind ns (by cases used <;> exact head)]
      exact same other
    · have due : ∀ t ∈ used.head?, t.kind ≠ .newline := by
        cases used with
        | nil => simp
        | cons u us => exact head
      rw [behind ns due]
      exact waits
  case ended =>
    intro tokens problem rest h late
    obtain ⟨ns, hns⟩ := exists_newlines tokens
    obtain ⟨rfl, more, a, read⟩ := hr.ended h late
    obtain ⟨t, ts, hread, ht⟩ := due read
    refine ⟨rfl, more, a, ?_⟩
    rw [hns, List.append_assoc, behind ns (by rw [hread]; rintro u ⟨⟩; exact ht)]
    exact read

/-! ## Blocks -/

section

variable {kind : String} {t : Token}

theorem restOfBlock_newline (ht : t.kind = .newline) :
    restOfBlock kind (t :: rest) = restOfBlock kind rest := by
  rw [restOfBlock]
  simp only [ht]

theorem restOfBlock_cons_error (ht : t.kind = .identifier)
    (ha : assignment (t :: tokens) = ⟨.error problem, rest⟩) :
    restOfBlock kind (t :: tokens) = ⟨.error problem, rest⟩ := by
  rw [restOfBlock]
  simp only [ht]
  split
  · next other left hf =>
    obtain ⟨rfl, rfl⟩ := error_inj (hf.symm.trans ha)
    rfl
  · next b left hb => exact absurd (hb.symm.trans ha) (by simp)

theorem restOfBlock_cons_behind {a : Assignment} {mid : List Token} (ht : t.kind = .identifier)
    (ha : assignment (t :: tokens) = ⟨.ok a, mid⟩) (hr : restOfBlock kind mid = ⟨.error problem, rest⟩) :
    restOfBlock kind (t :: tokens) = ⟨.error problem, rest⟩ := by
  rw [restOfBlock]
  simp only [ht]
  split
  · next other left hf => exact absurd (hf.symm.trans ha) (by simp)
  · next b left hb =>
    obtain ⟨rfl, rfl⟩ := ok_inj (hb.symm.trans ha)
    rw [hr]

theorem restOfBlock_nil : restOfBlock kind [] = ⟨.error (.grammar (.unclosed kind)), []⟩ := by
  rw [restOfBlock]

theorem restOfBlock_brace (ht : t.kind = .rightBrace) : restOfBlock kind (t :: rest) = ⟨.ok [], rest⟩ := by
  rw [restOfBlock]
  simp only [ht]

theorem restOfBlock_error (ht : t.kind = .error) :
    restOfBlock kind (t :: rest) = ⟨.error (.character t), rest⟩ := by
  rw [restOfBlock]
  simp only [ht]

theorem restOfBlock_stray (h₁ : t.kind ≠ .newline) (h₂ : t.kind ≠ .rightBrace) (h₃ : t.kind ≠ .identifier)
    (h₄ : t.kind ≠ .error) :
    restOfBlock kind (t :: rest) = ⟨.error (.grammar (.strayInBlock t)), rest⟩ := by
  rw [restOfBlock]
  cases ht : t.kind <;> first | rfl | exact absurd ht ‹_›

/-- A closing brace, to end a block with. -/
def brace : Token := { kind := .rightBrace }

/-- What an assignment takes in a block begins with a word, so that the loop comes to the assignment. -/
theorem exists_cons_of_assignment {a : Assignment} {used : List Token}
    (h : ∀ other, assignment (used ++ other) = ⟨.ok a, other⟩) :
    ∃ t ts, used = t :: ts ∧ t.kind = .identifier := by
  obtain ⟨t, ts, split, ht⟩ := head?_of_assignment (h [])
  exact ⟨t, ts, by rw [← split, List.append_nil], ht⟩

/-- The loop in a block stays successful, whatever follows the closing brace. -/
theorem restOfBlock_taken {as : List Assignment} (h : restOfBlock kind tokens = ⟨.ok as, rest⟩) :
    ∃ used, tokens = used ++ rest ∧ ∀ other, restOfBlock kind (used ++ other) = ⟨.ok as, other⟩ := by
  fun_induction restOfBlock kind tokens generalizing as with
  | case1 => exact absurd h (by simp)
  | case2 t ts ht ih =>
    obtain ⟨used, rfl, same⟩ := ih h
    exact ⟨t :: used, rfl, fun other => (restOfBlock_newline ht).trans (same other)⟩
  | case3 t ts ht =>
    obtain ⟨rfl, rfl⟩ := ok_inj h
    exact ⟨[t], rfl, fun other => restOfBlock_brace ht⟩
  | case4 t ts ht problem left hf => exact absurd h (by simp)
  | case5 t ts ht a left ha problem left' hr ih => exact absurd h (by simp)
  | case6 t ts ht a left ha as' left' hr ih =>
    obtain ⟨rfl, rfl⟩ := ok_inj h
    obtain ⟨first, split, sameFirst⟩ := prompt_assignment.taken ha
    obtain ⟨u, us, rfl, hu⟩ := exists_cons_of_assignment sameFirst
    obtain ⟨second, rfl, sameSecond⟩ := ih hr
    refine ⟨u :: us ++ second, by rw [split, List.append_assoc], fun other => ?_⟩
    rw [List.append_assoc]
    exact restOfBlock_cons hu (sameFirst _) (sameSecond other)
  | case7 t ts ht => exact absurd h (by simp)
  | case8 t ts => exact absurd h (by simp)

/-- The loop in a block fails at a token that shows the problem, and waits for more without it. -/
theorem restOfBlock_stopped (h : restOfBlock kind tokens = ⟨.error problem, rest⟩)
    (inside : ¬ problem.atEnd) :
    ∃ used last, tokens = used ++ last :: rest ∧ problem.ShownBy last ∧
      (∀ other, restOfBlock kind (used ++ last :: other) = ⟨.error problem, other⟩) ∧
      ∃ waiting : TextProblem, waiting.atEnd ∧ restOfBlock kind used = ⟨.error waiting, []⟩ := by
  have waits : ∃ waiting : TextProblem, waiting.atEnd ∧ restOfBlock kind [] = ⟨.error waiting, []⟩ :=
    ⟨_, rfl, restOfBlock_nil⟩
  fun_induction restOfBlock kind tokens generalizing problem with
  | case1 =>
    exact absurd ((error_inj h).1 ▸ rfl) inside
  | case2 t ts ht ih =>
    obtain ⟨used, last, rfl, shown, same, waiting, atEnd, waits⟩ := ih h inside
    exact ⟨t :: used, last, rfl, shown, fun other => (restOfBlock_newline ht).trans (same other), waiting,
      atEnd, (restOfBlock_newline ht).trans waits⟩
  | case3 t ts ht => exact absurd h (by simp)
  | case4 t ts ht failed left hf =>
    obtain ⟨rfl, rfl⟩ := error_inj h
    obtain ⟨used, last, split, shown, same, waiting, atEnd, waited⟩ := prompt_assignment.stopped hf inside
    cases used with
    | nil =>
      obtain ⟨rfl, rfl⟩ := List.cons.inj split
      exact ⟨[], t, rfl, shown, fun other => restOfBlock_cons_error ht (same other), waits⟩
    | cons u us =>
      obtain ⟨rfl, rfl⟩ := List.cons.inj split
      exact ⟨t :: us, last, rfl, shown, fun other => restOfBlock_cons_error ht (same other), waiting, atEnd,
        restOfBlock_cons_error ht waited⟩
  | case5 t ts ht a left ha failed left' hr ih =>
    obtain ⟨rfl, rfl⟩ := error_inj h
    obtain ⟨first, split, sameFirst⟩ := prompt_assignment.taken ha
    obtain ⟨u, us, rfl, hu⟩ := exists_cons_of_assignment sameFirst
    obtain ⟨used, last, rfl, shown, same, waiting, atEnd, waited⟩ := ih hr inside
    refine ⟨u :: us ++ used, last, by rw [split, List.append_assoc], shown, fun other => ?_, waiting, atEnd,
      ?_⟩
    · rw [List.append_assoc]
      exact restOfBlock_cons_behind hu (sameFirst _) (same other)
    · exact restOfBlock_cons_behind hu (sameFirst _) waited
  | case6 t ts ht a left ha as' left' hr ih => exact absurd h (by simp)
  | case7 t ts ht =>
    obtain ⟨rfl, rfl⟩ := error_inj h
    exact ⟨[], t, rfl, ⟨rfl, ht⟩, fun other => restOfBlock_error ht, waits⟩
  | case8 t ts h₁ h₂ h₃ h₄ =>
    obtain ⟨rfl, rfl⟩ := error_inj h
    exact ⟨[], t, rfl, h₄, fun other => restOfBlock_stray h₁ h₂ h₃ h₄, waits⟩

/-- Where the loop in a block comes to the end of the tokens, the block can still be closed. -/
theorem restOfBlock_ended (h : restOfBlock kind tokens = ⟨.error problem, rest⟩) (late : problem.atEnd) :
    rest = [] ∧ ∃ more as, restOfBlock kind (tokens ++ more) = ⟨.ok as, []⟩ := by
  fun_induction restOfBlock kind tokens generalizing problem with
  | case1 =>
    exact ⟨(error_inj h).2.symm, [brace], [], restOfBlock_brace rfl⟩
  | case2 t ts ht ih =>
    obtain ⟨left, more, as, read⟩ := ih h late
    exact ⟨left, more, as, (restOfBlock_newline ht).trans read⟩
  | case3 t ts ht => exact absurd h (by simp)
  | case4 t ts ht failed left hf =>
    obtain ⟨rfl, rfl⟩ := error_inj h
    obtain ⟨left, more, a, read⟩ := prompt_assignment.ended hf late
    have closed := prompt_assignment.append read [brace]
    rw [List.append_assoc] at closed
    exact ⟨left, more ++ [brace], [a], restOfBlock_cons ht closed (restOfBlock_brace rfl)⟩
  | case5 t ts ht a left ha failed left' hr ih =>
    obtain ⟨rfl, rfl⟩ := error_inj h
    obtain ⟨first, split, sameFirst⟩ := prompt_assignment.taken ha
    obtain ⟨u, us, rfl, hu⟩ := exists_cons_of_assignment sameFirst
    obtain ⟨nothing, more, as, read⟩ := ih hr late
    refine ⟨nothing, more, a :: as, ?_⟩
    rw [split, List.append_assoc]
    exact restOfBlock_cons hu (sameFirst _) read
  | case6 t ts ht a left ha as' left' hr ih => exact absurd h (by simp)
  | case7 t ts ht =>
    rw [← (error_inj h).1] at late
    exact absurd late Bool.false_ne_true
  | case8 t ts h₁ h₂ h₃ h₄ =>
    rw [← (error_inj h).1] at late
    exact absurd late Bool.false_ne_true

theorem prompt_restOfBlock (kind : String) : (restOfBlock kind).Prompt where
  opens := ⟨[brace], [], restOfBlock_brace rfl⟩
  taken := restOfBlock_taken
  stopped := restOfBlock_stopped
  ended := restOfBlock_ended

end

/-- **Blocks are read promptly.** -/
theorem prompt_block : block.Prompt := by
  refine (prompt_identifier _).bind fun kind => (prompt_expect (by decide) _).bind fun _ =>
    (prompt_expect (by decide) _).bind fun _ => Prompt.skip ?_ ?_
  · exact prompt_assignment.bind fun _ => (prompt_restOfBlock _).bind fun _ => prompt_pure _
  · intro tokens rest b h
    obtain ⟨a, mid, first, -⟩ := bind_eq_ok.1 h
    obtain ⟨t, ts, split, ht⟩ := head?_of_assignment first
    exact ⟨t, ts, split, by rw [ht]; decide⟩

end Reader
end LitSpheres
