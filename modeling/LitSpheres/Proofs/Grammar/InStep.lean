/-
  Two lists of tokens that are read in step.

  1. **Program** — tokens are read as blocks, and each block is given its meaning; a problem tells the token
     or the line where it is found.

  2. **Specification** — lists that differ in the lengths of runs of line ends, and otherwise as far as it is
     allowed for single tokens, hold the same definitions, and their problems differ as far as is allowed
     for problems.  How far that is, is left open (`Leeway`): it has to be kept from tokens to problems.

  3. **The crux** — behind a line end one of the lists may have further line ends.  Wherever the grammar
     takes a line end it skips those too before it takes anything else, and everywhere else a line end
     is refused, whatever follows.
-/
import LitSpheres.Proofs.Definition.Unplaced
import LitSpheres.Proofs.Grammar.FirstProblem
import LitSpheres.Proofs.Token.Replace

namespace LitSpheres

open Text (Place)

/-! ## How far two texts may differ -/

/-- Two assignments of the same value to the same name, at related places. -/
structure Assignment.Near (near : Place → Place → Prop) (a b : Assignment) : Prop where
  name : a.name = b.name
  value : a.value = b.value
  place : near a.place b.place

/-- Two blocks of one kind with the same assignments, at related places. -/
structure Block.Near (near : Place → Place → Prop) (b c : Block) : Prop where
  kind : b.kind = c.kind
  assignments : List.Forall₂ (Assignment.Near near) b.assignments c.assignments
  place : near b.place c.place

/-- How far tokens, places and problems may differ when two texts are read in step. -/
structure Leeway where
  /-- Which tokens may stand for each other, if they have the same content or are both line ends. -/
  same : Token → Token → Prop
  near : Place → Place → Prop
  alike : TextProblem → TextProblem → Prop
  place {t u : Token} : same t u → near t.place u.place
  refl (p : TextProblem) : alike p p
  character {t u : Token} : same t u → alike (.character t) (.character u)
  grammar {t u : Token} (g : Token → GrammarProblem) : same t u → alike (.grammar (g t)) (.grammar (g u))
  meaning {b c : Block} {p q : MeaningProblem} : b.Near near c → Definition.ofBlock b = .error p →
    Definition.ofBlock c = .error q → alike (.meaning p) (.meaning q)

namespace Reader

variable {w : Leeway} {α β : Type} {t u : Token} {ts us : List Token}

/-- Two lists of tokens that begin with tokens of the same content, or both with a line end.  Behind a line
    end the rests have to be in step only where their line ends stop. -/
inductive InStep (w : Leeway) : List Token → List Token → Prop
  | nil : InStep w [] []
  | token {t u : Token} {ts us : List Token} : t.kind ≠ .newline → t.content = u.content → w.same t u →
      InStep w ts us → InStep w (t :: ts) (u :: us)
  | lineEnd {t u : Token} {ts us : List Token} : t.kind = .newline → u.kind = .newline → w.same t u →
      InStep w (afterNewlines ts) (afterNewlines us) → InStep w (t :: ts) (u :: us)

/-- Two lists of tokens that are in step behind the line ends at their fronts. -/
def InStepBehind (w : Leeway) (ts us : List Token) : Prop := InStep w (afterNewlines ts) (afterNewlines us)

theorem kind_of_content (h : t.content = u.content) : t.kind = u.kind := congrArg Content.kind h

theorem value_of_content (h : t.content = u.content) : t.text = u.text ∧ t.number = u.number := by
  have value : t.value = u.value := congrArg Content.value h
  unfold Token.text Token.number
  rw [value]
  exact ⟨rfl, rfl⟩

theorem InStep.behind (h : InStep w ts us) : InStepBehind w ts us := by
  unfold InStepBehind
  cases h with
  | nil => exact .nil
  | token ht hc same rest =>
    rw [afterNewlines_cons_of_ne ht, afterNewlines_cons_of_ne (by rwa [← kind_of_content hc])]
    exact .token ht hc same rest
  | lineEnd ht hu _ rest =>
    rw [afterNewlines_cons ht, afterNewlines_cons hu]
    exact rest

/-! ## Steps that agree -/

/-- Two outcomes agree: both are results that are related, with related tokens behind them, or both are
    problems that are alike. -/
inductive Agree (w : Leeway) (same : α → α → Prop) (left : List Token → List Token → Prop) :
    Step α → Step α → Prop
  | ok {a b : α} {ts us : List Token} : same a b → left ts us → Agree w same left ⟨.ok a, ts⟩ ⟨.ok b, us⟩
  | error {p q : TextProblem} {ts us : List Token} :
      w.alike p q → Agree w same left ⟨.error p, ts⟩ ⟨.error q, us⟩

variable {same : α → α → Prop} {same' : β → β → Prop} {left left' : List Token → List Token → Prop}

/-- **Steps in a row** agree if each of them does. -/
theorem Agree.bind {r : Reader α} {f g : α → Reader β} (first : Agree w same left (r ts) (r us))
    (second : ∀ {a b ts us}, same a b → left ts us → Agree w same' left' (f a ts) (g b us)) :
    Agree w same' left' ((r >>= f) ts) ((r >>= g) us) := by
  show Agree w same' left' (andThen r f ts) (andThen r g us)
  unfold andThen
  generalize r ts = x at first
  generalize r us = y at first
  cases first with
  | ok ha hl => exact second ha hl
  | error hp => exact .error hp

/-- **A choice by the next token** agrees if it does for the same token and for line ends. -/
theorem agree_next {f : Option Token → Reader α} (h : InStep w ts us) {m : TextProblem} (none : f none = fail m)
    (token : ∀ {t u ts us}, t.kind ≠ .newline → t.kind ≠ .error → t.content = u.content → w.same t u →
      InStep w ts us → Agree w same left (f (some t) ts) (f (some u) us))
    (lineEnd : ∀ {t u ts us}, t.kind = .newline → u.kind = .newline → w.same t u → InStepBehind w ts us →
      Agree w same left (f (some t) ts) (f (some u) us)) :
    Agree w same left ((next >>= f) ts) ((next >>= f) us) := by
  cases h with
  | nil =>
    rw [next_bind_nil none]
    exact .error (w.refl m)
  | @token t u ts us ht hc near rest =>
    by_cases wrong : t.kind = .error
    · rw [next_bind_error wrong, next_bind_error ((kind_of_content hc).symm.trans wrong)]
      exact .error (w.character near)
    · have proper : u.kind ≠ .error := by
        rw [← kind_of_content hc]
        exact wrong
      rw [next_bind_cons wrong, next_bind_cons proper]
      exact token ht wrong hc near rest
  | @lineEnd t u ts us ht hu near rest =>
    have first : t.kind ≠ .error := by
      rw [ht]
      decide
    have second : u.kind ≠ .error := by
      rw [hu]
      decide
    rw [next_bind_cons first, next_bind_cons second]
    exact lineEnd ht hu near rest

/-! ## Single tokens -/

/-- Two tokens of the same content that may stand for each other. -/
structure Twins (w : Leeway) (t u : Token) : Prop where
  content : t.content = u.content
  same : w.same t u

/-- A token that is no line end. -/
theorem agree_expect {kind : TokenKind} (hk : kind ≠ .newline) (demand : String) (h : InStep w ts us) :
    Agree w (Twins w) (InStep w) (expect kind demand ts) (expect kind demand us) := by
  apply agree_next h (m := .grammar (.missing kind)) rfl
  · intro t u ts us _ _ hc near rest
    dsimp only
    rw [← kind_of_content hc]
    split
    · exact .ok ⟨hc, near⟩ rest
    · exact .error (w.grammar (.unexpected demand) near)
  · intro t u ts us ht hu near _
    dsimp only
    rw [if_neg (by rw [ht]; exact hk.symm), if_neg (by rw [hu]; exact hk.symm)]
    exact .error (w.grammar (.unexpected demand) near)

/-- A line end: behind it there may be others. -/
theorem agree_lineEnd (demand : String) (h : InStep w ts us) :
    Agree w (fun _ _ => True) (InStepBehind w) (expect .newline demand ts) (expect .newline demand us) := by
  apply agree_next h (m := .grammar (.missing .newline)) rfl
  · intro t u ts us ht _ hc near _
    dsimp only
    rw [if_neg ht, if_neg (by rw [← kind_of_content hc]; exact ht)]
    exact .error (w.grammar (.unexpected demand) near)
  · intro t u ts us ht hu _ rest
    dsimp only
    rw [if_pos ht, if_pos hu]
    exact .ok trivial rest

theorem agree_number (demand : String) (h : InStep w ts us) :
    Agree w Eq (InStep w) (number demand ts) (number demand us) := by
  apply (agree_expect (by decide) demand h).bind
  intro t u ts us twins rest
  exact .ok (value_of_content twins.content).2 rest

/-! ## Values and assignments -/

theorem agree_triple (h : InStep w ts us) : Agree w Eq (InStep w) (triple ts) (triple us) := by
  apply (agree_number _ h).bind
  rintro x _ ts us rfl h
  apply (agree_expect (by decide) _ h).bind
  intro _ _ ts us _ h
  apply (agree_number _ h).bind
  rintro y _ ts us rfl h
  apply (agree_expect (by decide) _ h).bind
  intro _ _ ts us _ h
  apply (agree_number _ h).bind
  rintro z _ ts us rfl h
  apply (agree_expect (by decide) _ h).bind
  intro _ _ ts us _ h
  exact .ok rfl h

theorem agree_value (h : InStep w ts us) : Agree w Eq (InStep w) (value ts) (value us) := by
  apply agree_next h (m := .grammar .noValue) rfl
  · intro t u ts us _ _ hc near rest
    have kind := kind_of_content hc
    obtain ⟨text, number⟩ := value_of_content hc
    dsimp only
    rw [← kind, ← text, ← number]
    cases t.kind with
    | number | string | identifier => exact .ok rfl rest
    | leftParen =>
      apply (agree_triple rest).bind
      rintro v _ ts us rfl rest
      exact .ok rfl rest
    | newline | equal | comma | rightParen | leftBrace | rightBrace | error =>
      exact .error (w.grammar .notAValue near)
  · intro t u ts us ht hu near _
    dsimp only
    rw [ht, hu]
    exact .error (w.grammar .notAValue near)

/-- **Assignments**: the name and the value are the same, and behind the line end there may be others. -/
theorem agree_assignment (h : InStep w ts us) :
    Agree w (Assignment.Near w.near) (InStepBehind w) (assignment ts) (assignment us) := by
  apply (agree_expect (by decide) _ h).bind
  intro t u ts us twins h
  apply (agree_expect (by decide) _ h).bind
  intro _ _ ts us _ h
  apply (agree_value h).bind
  rintro v _ ts us rfl h
  apply (agree_lineEnd _ h).bind
  intro _ _ ts us _ h
  exact .ok ⟨(value_of_content twins.content).1, rfl, w.place twins.same⟩ h

/-! ## Blocks -/

/-- Line ends at the front of the rest of a block are skipped. -/
theorem restOfBlock_afterNewlines (kind : String) (ts : List Token) :
    restOfBlock kind (afterNewlines ts) = restOfBlock kind ts := by
  induction ts with
  | nil => rfl
  | cons t ts ih =>
    by_cases ht : t.kind = .newline
    · rw [afterNewlines_cons ht, restOfBlock_newline ht]
      exact ih
    · rw [afterNewlines_cons_of_ne ht]

/-- One round of the loop in a block, when the later rounds agree. -/
theorem agree_round {kind : String} (h : InStep w ts us) (due : ∀ t ∈ ts.head?, t.kind ≠ .newline)
    (later : ∀ {rest other : List Token}, rest.length < ts.length → InStepBehind w rest other →
      Agree w (List.Forall₂ (Assignment.Near w.near)) (InStep w) (restOfBlock kind rest)
        (restOfBlock kind other)) :
    Agree w (List.Forall₂ (Assignment.Near w.near)) (InStep w) (restOfBlock kind ts) (restOfBlock kind us) := by
  cases h with
  | nil =>
    rw [restOfBlock_nil]
    exact .error (w.refl _)
  | lineEnd ht _ _ _ => exact absurd ht (due _ rfl)
  | @token t u ts us ht hc near rest =>
    have hu := kind_of_content hc
    by_cases brace : t.kind = .rightBrace
    · rw [restOfBlock_brace brace, restOfBlock_brace (hu.symm.trans brace)]
      exact .ok .nil rest
    · by_cases word : t.kind = .identifier
      · have suffix := rest_assignment_suffix (t :: ts)
        have first := agree_assignment (.token ht hc near rest)
        generalize read : assignment (t :: ts) = x at first suffix
        generalize readOther : assignment (u :: us) = y at first
        cases first with
        | error same =>
          rw [restOfBlock_cons_error word read, restOfBlock_cons_error (hu.symm.trans word) readOther]
          exact .error same
        | @ok a b ts' us' pair behind =>
          have shorter : ts'.length < (t :: ts).length := Nat.lt_succ_of_le suffix.length_le
          have others := later shorter behind
          generalize readLeft : restOfBlock kind ts' = x at others
          generalize readOtherLeft : restOfBlock kind us' = y at others
          cases others with
          | error same =>
            rw [restOfBlock_cons_behind word read readLeft,
              restOfBlock_cons_behind (hu.symm.trans word) readOther readOtherLeft]
            exact .error same
          | ok pairs rest =>
            rw [restOfBlock_cons word read readLeft,
              restOfBlock_cons (hu.symm.trans word) readOther readOtherLeft]
            exact .ok (.cons pair pairs) rest
      · by_cases wrong : t.kind = .error
        · rw [restOfBlock_error wrong, restOfBlock_error (hu.symm.trans wrong)]
          exact .error (w.character near)
        · rw [restOfBlock_stray ht brace word wrong,
            restOfBlock_stray (by rwa [← hu]) (by rwa [← hu]) (by rwa [← hu]) (by rwa [← hu])]
          exact .error (w.grammar .strayInBlock near)

/-- **The loop in a block**: what it takes is the same, however many line ends stand in between.  The
    induction is on the number of tokens of the one list, of which an assignment takes some. -/
theorem agree_restOfBlock (kind : String) (h : InStepBehind w ts us) :
    Agree w (List.Forall₂ (Assignment.Near w.near)) (InStep w) (restOfBlock kind ts) (restOfBlock kind us) := by
  induction length : ts.length using Nat.strongRecOn generalizing ts us with
  | ind n ih =>
    have shorter := (afterNewlines_suffix ts).length_le
    rw [← restOfBlock_afterNewlines kind ts, ← restOfBlock_afterNewlines kind us]
    apply agree_round h (head?_afterNewlines ts)
    intro rest other less behind
    apply ih rest.length _ behind rfl
    omega

/-- **Blocks**: the kind, the names and their values are the same. -/
theorem agree_block (h : InStep w ts us) : Agree w (Block.Near w.near) (InStep w) (block ts) (block us) := by
  apply (agree_expect (by decide) _ h).bind
  intro t u ts us twins h
  obtain ⟨text, -⟩ := value_of_content twins.content
  rw [← text]
  apply (agree_expect (by decide) _ h).bind
  intro _ _ ts us _ h
  apply (agree_lineEnd _ h).bind
  intro _ _ ts us _ h
  have skipped : Agree w (fun _ _ => True) (InStep w) (skipNewlines ts) (skipNewlines us) := .ok trivial h
  apply skipped.bind
  intro _ _ ts us _ h
  apply (agree_assignment h).bind
  intro a b ts us pair h
  apply (agree_restOfBlock t.text h).bind
  intro as bs ts us pairs h
  exact .ok ⟨rfl, .cons pair pairs, w.place twins.same⟩ h

end Reader

/-! ## Meanings -/

/-- Blocks that differ in places only have the same pairs. -/
theorem Block.Near.pairs {near : Place → Place → Prop} {b c : Block} (h : b.Near near c) : b.pairs = c.pairs := by
  have all := h.assignments
  unfold Block.pairs
  generalize b.assignments = as at all
  generalize c.assignments = bs at all
  induction all with
  | nil => rfl
  | cons pair _ ih => rw [List.map_cons, List.map_cons, pair.name, pair.value, ih]

/-- They mean the same definition, or both mean none. -/
theorem Block.Near.meaning {near : Place → Place → Prop} {b c : Block} (h : b.Near near c) :
    (∃ d, Definition.ofBlock b = .ok d ∧ Definition.ofBlock c = .ok d) ∨
      ∃ p q, Definition.ofBlock b = .error p ∧ Definition.ofBlock c = .error q := by
  have same := Definition.toOption_ofBlock h.kind h.pairs
  cases hb : Definition.ofBlock b with
  | error p =>
    cases hc : Definition.ofBlock c with
    | error q => exact .inr ⟨p, q, rfl, rfl⟩
    | ok e =>
      rw [hb, hc] at same
      exact absurd same nofun
  | ok d =>
    cases hc : Definition.ofBlock c with
    | error q =>
      rw [hb, hc] at same
      exact absurd same nofun
    | ok e =>
      rw [hb, hc] at same
      exact .inl ⟨d, rfl, congrArg Except.ok (Option.some.inj same).symm⟩

/-! ## Whole texts -/

namespace Reading

open Reader (InStepBehind)

variable {w : Leeway} {tokens rest ts us : List Token}

/-- A block that is read is given its meaning, and reading goes on behind it. -/
theorem ofTokens_of_block {b : Block} (h : Reader.block (Reader.afterNewlines tokens) = ⟨.ok b, rest⟩) :
    ofTokens tokens = match Definition.ofBlock b with
      | .error problem => { found := [], problem := some (.meaning problem), rest }
      | .ok d => { ofTokens rest with found := d :: (ofTokens rest).found } := by
  obtain ⟨tree, split, rfl⟩ := Reader.block_eq_ok.1 h
  exact ofTokens_block split

/-- The same definitions are found, and problems that are alike or none. -/
structure Agree (w : Leeway) (r s : Reading) : Prop where
  found : r.found = s.found
  problem : Option.Rel w.alike r.problem s.problem

/-- One block, when what is read behind it agrees. -/
theorem agree_round (h : InStepBehind w ts us)
    (later : ∀ {rest other : List Token}, rest.length < ts.length → InStepBehind w rest other →
      Agree w (ofTokens rest) (ofTokens other)) : Agree w (ofTokens ts) (ofTokens us) := by
  have front : Reader.InStep w (Reader.afterNewlines ts) (Reader.afterNewlines us) := h
  have block := Reader.agree_block h
  have shorter := (Reader.afterNewlines_suffix ts).length_le
  have due := Reader.head?_afterNewlines ts
  generalize skipped : Reader.afterNewlines ts = ts' at front block shorter due
  generalize skippedOther : Reader.afterNewlines us = us' at front block
  cases front with
  | nil =>
    rw [ofTokens_nil skipped, ofTokens_nil skippedOther]
    exact ⟨rfl, .none⟩
  | lineEnd ht _ _ _ => exact absurd ht (due _ rfl)
  | @token t u ts' us' _ _ _ _ =>
    have suffix := Reader.rest_block_suffix (t :: ts')
    generalize read : Reader.block (t :: ts') = x at block suffix
    generalize readOther : Reader.block (u :: us') = y at block
    cases block with
    | error same =>
      rw [ofTokens_error skipped read, ofTokens_error skippedOther readOther]
      exact ⟨rfl, .some same⟩
    | @ok b c rest other near behind =>
      have less : rest.length < ts.length := Nat.lt_of_lt_of_le (Nat.lt_succ_of_le suffix.length_le) shorter
      have others := later less behind.behind
      rw [← skipped] at read
      rw [← skippedOther] at readOther
      rw [ofTokens_of_block read, ofTokens_of_block readOther]
      rcases near.meaning with ⟨d, hb, hc⟩ | ⟨p, q, hb, hc⟩
      · rw [hb, hc]
        exact ⟨congrArg (d :: ·) others.found, others.problem⟩
      · rw [hb, hc]
        exact ⟨rfl, .some (w.meaning near hb hc)⟩

/-- **Reading in step**: tokens that are in step behind their first line ends have outcomes that agree. -/
theorem agree_ofTokens (h : InStepBehind w ts us) : Agree w (ofTokens ts) (ofTokens us) := by
  induction length : ts.length using Nat.strongRecOn generalizing ts us with
  | ind n ih =>
    apply agree_round h
    intro rest other less behind
    apply ih rest.length _ behind rfl
    omega

/-- Outcomes that agree are the same definitions, or problems that are alike. -/
theorem Agree.result {r s : Reading} (h : Agree w r s) :
    (∃ definitions, r.result = .ok definitions ∧ s.result = .ok definitions) ∨
      ∃ p q, r.result = .error p ∧ s.result = .error q ∧ w.alike p q := by
  obtain ⟨found, problem⟩ := h
  unfold Reading.result
  rw [← found]
  generalize r.problem = stopped at problem
  generalize s.problem = stoppedOther at problem
  cases problem with
  | some same => exact .inr ⟨_, _, rfl, rfl, same⟩
  | none =>
    cases r.found with
    | nil => exact .inr ⟨_, _, rfl, rfl, w.refl _⟩
    | cons d ds => exact .inl ⟨d :: ds, rfl, rfl⟩

end Reading
end LitSpheres
