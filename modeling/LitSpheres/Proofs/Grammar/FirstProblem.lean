/-
  The first problem in a text is the one that is reported.

  1. **Program** — a text is read block after block, each block is given its meaning as soon as it is
     closed, and the first problem ends the reading; the tokens behind it are not taken.

  2. **Specification** — a problem at a token is reported at the earliest token that shows it: the tokens
     before it begin some scene, and with it they begin none.  A problem of meaning is reported at the
     brace that closes its block.  A problem at the end takes all tokens, which begin a scene and are
     none.  All blocks that were closed before mean something.

  3. **The crux** — blocks are read promptly, so the outcome of a reading depends on the taken tokens
     alone.  That no scene begins with them then needs no look at the grammar: the tokens of a scene
     are read without a problem, or with one of meaning.
-/
import LitSpheres.Proofs.Definition.Writable
import LitSpheres.Proofs.Grammar.Accepting
import LitSpheres.Proofs.Grammar.Prompt

namespace LitSpheres

/-! ## Readings of closed blocks and what follows them -/

namespace Reading

variable {tokens rest : List Token} {found : List Definition}
  {definitions : List (BlockTree × List (Leaf .newline))}

theorem ofTokens_error {problem : TextProblem} {t : Token} {ts : List Token}
    (h : Reader.afterNewlines tokens = t :: ts) (hb : Reader.block (t :: ts) = ⟨.error problem, rest⟩) :
    ofTokens tokens = { found := [], problem := some problem, rest } := by
  rw [ofTokens]
  split
  · next hn => exact absurd (hn.symm.trans h) (by simp)
  · next u us hn =>
    obtain ⟨rfl, rfl⟩ := List.cons.inj (hn.symm.trans h)
    split
    · next other left hf =>
      obtain ⟨rfl, rfl⟩ := Reader.error_inj (hf.symm.trans hb)
      rfl
    · next c left hc => exact absurd (hc.symm.trans hb) (by simp)

/-- A block that cannot be read is the problem. -/
theorem ofTokens_block_error {problem : TextProblem} (due : ∀ t ∈ tokens.head?, t.kind ≠ .newline)
    (nonempty : tokens ≠ []) (h : Reader.block tokens = ⟨.error problem, rest⟩) :
    ofTokens tokens = { found := [], problem := some problem, rest } := by
  cases tokens with
  | nil => exact absurd rfl nonempty
  | cons t ts => exact ofTokens_error (Reader.afterNewlines_of_head? due) h

theorem afterNewlines_idem (tokens : List Token) :
    Reader.afterNewlines (Reader.afterNewlines tokens) = Reader.afterNewlines tokens :=
  Reader.afterNewlines_of_head? (Reader.head?_afterNewlines tokens)

/-- Line ends at the front are not looked at. -/
theorem ofTokens_afterNewlines (tokens : List Token) :
    ofTokens (Reader.afterNewlines tokens) = ofTokens tokens := by
  have same := afterNewlines_idem tokens
  cases h : Reader.afterNewlines tokens with
  | nil =>
    rw [h] at same
    rw [ofTokens_nil h, ofTokens_nil same]
  | cons t ts =>
    rw [h] at same
    match hb : Reader.block (t :: ts) with
    | ⟨.error problem, left⟩ => rw [ofTokens_error h hb, ofTokens_error same hb]
    | ⟨.ok b, left⟩ =>
      obtain ⟨tree, split, rfl⟩ := Reader.block_eq_ok.1 hb
      rw [ofTokens_block (h.trans split), ofTokens_block (same.trans split)]

variable {front : List Token}

/-- The first of several blocks, behind line ends. -/
theorem afterNewlines_body (ns : List (Leaf .newline)) (b : BlockTree) (ms : List (Leaf .newline)) :
    Reader.afterNewlines (Leaf.tokens ns ++ (SceneTree.body ((b, ms) :: definitions) ++ front)) =
      b.tokens ++ (Leaf.tokens ms ++ (SceneTree.body definitions ++ front)) := by
  rw [SceneTree.body, List.flatMap_cons]
  simp only [List.append_assoc]
  exact Reader.afterNewlines_append ns (b.head?_tokens _)

/-- **Behind blocks that mean something** reading goes on as from the start. -/
theorem ofTokens_body_append (meant : meanings (definitions.map (·.1.block)) = .ok found)
    (front : List Token) (ns : List (Leaf .newline)) :
    ofTokens (Leaf.tokens ns ++ (SceneTree.body definitions ++ front)) =
      { ofTokens front with found := found ++ (ofTokens front).found } := by
  induction definitions generalizing ns found with
  | nil =>
    obtain rfl : [] = found := Except.ok.inj meant
    show ofTokens (Leaf.tokens ns ++ front) = ofTokens front
    rw [← ofTokens_afterNewlines, Reader.afterNewlines_skip, ofTokens_afterNewlines]
  | cons definition others ih =>
    obtain ⟨b, ms⟩ := definition
    rw [ofTokens_block (afterNewlines_body ns b ms)]
    cases hb : Definition.ofBlock b.block with
    | error problem => exact absurd ((meanings_cons_error hb).symm.trans meant) (by simp)
    | ok d =>
      obtain ⟨later, hm, rfl⟩ := exists_of_map_ok ((meanings_cons_ok hb).symm.trans meant)
      rw [ih hm ms]
      rfl

/-- A block that means nothing is the problem, whatever follows. -/
theorem problem_of_meaningless {m : MeaningProblem}
    (meant : meanings (definitions.map (·.1.block)) = .error m) (ns : List (Leaf .newline)) (more : List Token) :
    (ofTokens (Leaf.tokens ns ++ (SceneTree.body definitions ++ more))).problem = some (.meaning m) := by
  induction definitions generalizing ns with
  | nil => exact absurd meant nofun
  | cons definition others ih =>
    obtain ⟨b, ms⟩ := definition
    rw [ofTokens_block (afterNewlines_body ns b ms)]
    cases hb : Definition.ofBlock b.block with
    | error problem =>
      obtain rfl := Except.error.inj ((meanings_cons_error hb).symm.trans meant)
      rfl
    | ok d =>
      have later := (meanings_cons_ok hb).symm.trans meant
      cases hm : meanings (others.map (·.1.block)) with
      | error problem =>
        rw [hm] at later
        obtain rfl := Except.error.inj later
        exact ih hm ms
      | ok found =>
        rw [hm] at later
        exact absurd later nofun

/-- **Where reading stops**: behind blocks that mean something, at a block that is not read or that means
    nothing. -/
theorem exists_stop {problem : TextProblem} (h : (ofTokens tokens).problem = some problem) :
    ∃ (ns : List (Leaf .newline)) (definitions : List (BlockTree × List (Leaf .newline)))
      (found : List Definition) (front : List Token),
      tokens = Leaf.tokens ns ++ (SceneTree.body definitions ++ front) ∧
      meanings (definitions.map (·.1.block)) = .ok found ∧
      (∀ t ∈ front.head?, t.kind ≠ .newline) ∧ front ≠ [] ∧
      (Reader.block front = ⟨.error problem, (ofTokens tokens).rest⟩ ∨
        ∃ (b : BlockTree) (m : MeaningProblem), front = b.tokens ++ (ofTokens tokens).rest ∧
          Definition.ofBlock b.block = .error m ∧ problem = .meaning m) := by
  fun_induction ofTokens tokens with
  | case1 tokens hn => exact absurd h (by simp)
  | case2 tokens t ts hn failed left hb =>
    obtain rfl := Option.some.inj h
    obtain ⟨ns, hns⟩ := Reader.exists_newlines tokens
    have due := Reader.head?_afterNewlines tokens
    rw [hn] at hns due
    exact ⟨ns, [], [], t :: ts, hns, rfl, due, by simp, .inl hb⟩
  | case3 tokens t ts hn b left hb m hd =>
    obtain rfl := Option.some.inj h
    obtain ⟨ns, hns⟩ := Reader.exists_newlines tokens
    have due := Reader.head?_afterNewlines tokens
    rw [hn] at hns due
    obtain ⟨tree, split, rfl⟩ := Reader.block_eq_ok.1 hb
    exact ⟨ns, [], [], t :: ts, hns, rfl, due, by simp, .inr ⟨tree, m, split, hd, rfl⟩⟩
  | case4 tokens t ts hn b left hb d hd others ih =>
    obtain ⟨ns, hns⟩ := Reader.exists_newlines tokens
    obtain ⟨tree, split, rfl⟩ := Reader.block_eq_ok.1 hb
    obtain ⟨ms, definitions, found, front, hleft, meant, due, nonempty, stop⟩ := ih h
    refine ⟨ns, (tree, ms) :: definitions, d :: found, front, ?_, ?_, due, nonempty, stop⟩
    · rw [hns, hn, split, hleft, SceneTree.body, SceneTree.body, List.flatMap_cons]
      simp only [List.append_assoc]
    · show meanings (tree.block :: definitions.map (·.1.block)) = _
      rw [meanings_cons_ok hd, meant]
      rfl

theorem suffix_of_block {result : Except TextProblem Block} (h : Reader.block tokens = ⟨result, rest⟩) :
    rest <:+ tokens := by
  have left := Reader.rest_block_suffix tokens
  rw [h] at left
  exact left.trans (List.tail_suffix tokens)

/-- Reading leaves a suffix of its tokens. -/
theorem rest_ofTokens_suffix (tokens : List Token) : (ofTokens tokens).rest <:+ tokens := by
  have skipped := Reader.afterNewlines_suffix tokens
  fun_induction ofTokens tokens with
  | case1 tokens => exact List.nil_suffix
  | case2 tokens t ts hn problem left hb =>
    rw [hn] at skipped
    exact (suffix_of_block hb).trans skipped
  | case3 tokens t ts hn b left hb =>
    rw [hn] at skipped
    exact (suffix_of_block hb).trans skipped
  | case4 tokens t ts hn b left hb d hd others ih =>
    rw [hn] at skipped
    exact (ih (Reader.afterNewlines_suffix left)).trans ((suffix_of_block hb).trans skipped)

end Reading

/-! ## Beginnings of scenes -/

/-- Some scene begins with the tokens. -/
def BeginsScene (tokens : List Token) : Prop := ∃ tree : SceneTree, tokens <+: tree.tokens

/-- Every block that is closed in the tokens means a definition. -/
def ClosedBlocksMean (tokens : List Token) : Prop :=
  ∀ (ns : List (Leaf .newline)) (definitions : List (BlockTree × List (Leaf .newline))) (more : List Token),
    tokens = Leaf.tokens ns ++ (SceneTree.body definitions ++ more) →
      ∀ d ∈ definitions, ∃ definition, Definition.ofBlock d.1.block = .ok definition

section

variable {tokens more : List Token} {ns : List (Leaf .newline)}
  {definitions : List (BlockTree × List (Leaf .newline))}

/-- What waits for more of a block begins a scene. -/
theorem beginsScene_of_block {front : List Token} {b : Block}
    (read : Reader.block (front ++ more) = ⟨.ok b, []⟩) :
    BeginsScene (Leaf.tokens ns ++ (SceneTree.body definitions ++ front)) := by
  obtain ⟨tree, split, -⟩ := Reader.block_eq_ok.1 read
  rw [List.append_nil] at split
  refine ⟨⟨ns, definitions ++ [(tree, [])], by simp⟩, more, ?_⟩
  unfold SceneTree.tokens SceneTree.body
  simp [← split, Leaf.tokens]

/-- A reading that is not stopped by a problem of meaning has given every closed block a meaning. -/
theorem closedBlocksMean_of_problem (more : List Token)
    (h : ∀ m, (Reading.ofTokens (tokens ++ more)).problem ≠ some (.meaning m)) :
    ClosedBlocksMean tokens := by
  intro ns definitions behind split d hd
  have all : ∃ found, meanings (definitions.map (·.1.block)) = .ok found := by
    cases hm : meanings (definitions.map (·.1.block)) with
    | ok found => exact ⟨found, rfl⟩
    | error m =>
      refine absurd (Reading.problem_of_meaningless hm ns (behind ++ more)) ?_
      have whole : tokens ++ more = Leaf.tokens ns ++ (SceneTree.body definitions ++ (behind ++ more)) := by
        rw [split]
        simp only [List.append_assoc]
      rw [← whole]
      exact h m
  exact exists_meanings.1 all d.1.block (List.mem_map_of_mem hd)

/-- The tokens of a scene are read without a problem, or with one of meaning. -/
theorem problem_of_scene (tree : SceneTree) :
    (Reading.ofTokens tree.tokens).problem = none ∨
      ∃ m, (Reading.ofTokens tree.tokens).problem = some (.meaning m) := by
  have skipped : Reader.afterNewlines tree.tokens = SceneTree.body tree.definitions :=
    Reader.afterNewlines_append tree.lineEnds (SceneTree.head?_body tree.definitions)
  have read := Reading.ofTokens_body skipped
  cases hm : meanings (tree.definitions.map (·.1.block)) with
  | ok found =>
    rw [hm] at read
    exact .inl (by rw [read])
  | error m =>
    rw [hm] at read
    exact .inr ⟨m, read⟩

/-! ## The three kinds of problems -/

variable {problem : TextProblem}

/-- **A problem at a token** is shown by that token: what stands before it begins a scene, with it no scene
    begins, and whatever follows, it is the problem. -/
theorem stop_at_token (h : (Reading.ofTokens tokens).problem = some problem) (inside : problem.atEnd = false)
    (plain : ∀ m, problem ≠ .meaning m) :
    ∃ front last, tokens = front ++ [last] ++ (Reading.ofTokens tokens).rest ∧ problem.ShownBy last ∧
      BeginsScene front ∧ ¬ BeginsScene (front ++ [last]) ∧ ClosedBlocksMean front ∧
      ∀ other, (Reading.ofTokens (front ++ [last] ++ other)).problem = some problem := by
  obtain ⟨ns, definitions, found, front, split, meant, due, -, stop | ⟨-, m, -, -, rfl⟩⟩ :=
    Reading.exists_stop h
  case inr => exact absurd rfl (plain m)
  obtain ⟨used, last, rfl, shown, same, waiting, atEnd, waits⟩ :=
    Reader.prompt_block.stopped stop (by rw [inside]; decide)
  obtain ⟨-, more, b, read⟩ := Reader.prompt_block.ended waits atEnd
  have whole (other : List Token) :
      Leaf.tokens ns ++ (SceneTree.body definitions ++ used) ++ [last] ++ other =
        Leaf.tokens ns ++ (SceneTree.body definitions ++ (used ++ last :: other)) := by
    simp only [List.append_assoc, List.singleton_append]
  have everywhere (other : List Token) :
      (Reading.ofTokens (Leaf.tokens ns ++ (SceneTree.body definitions ++ used) ++ [last] ++ other)).problem =
        some problem := by
    have first : ∀ t ∈ (used ++ last :: other).head?, t.kind ≠ .newline := by
      cases used <;> exact due
    rw [whole, Reading.ofTokens_body_append meant, Reading.ofTokens_block_error first (by simp) (same other)]
  refine ⟨Leaf.tokens ns ++ (SceneTree.body definitions ++ used), last, split.trans (whole _).symm, shown,
    beginsScene_of_block read, ?_, ?_, everywhere⟩
  · -- a scene is read without a problem or with one of meaning, and this is neither
    rintro ⟨tree, others, begins⟩
    have stopped := everywhere others
    rw [begins] at stopped
    rcases problem_of_scene tree with none | ⟨m, meaning⟩
    · exact absurd (none.symm.trans stopped) nofun
    · exact plain m (Option.some.inj (stopped.symm.trans meaning))
  · refine closedBlocksMean_of_problem [last] fun m meaning => ?_
    have stopped := everywhere []
    rw [List.append_nil] at stopped
    exact plain m (Option.some.inj (stopped.symm.trans meaning))

/-- The brace that closes a block is its last token. -/
theorem getLast?_block (ns : List (Leaf .newline)) (definitions : List (BlockTree × List (Leaf .newline)))
    (b : BlockTree) :
    (Leaf.tokens ns ++ (SceneTree.body definitions ++ b.tokens)).getLast? = some b.closing.token := by
  unfold BlockTree.tokens BlockTree.tail
  simp only [← List.cons_append, ← List.append_assoc]
  exact List.getLast?_concat ..

/-- **A problem of meaning** is that of a block whose closing brace was taken last, behind blocks that mean
    something, and whatever follows, it is the problem. -/
theorem stop_at_meaning {m : MeaningProblem} (h : (Reading.ofTokens tokens).problem = some (.meaning m)) :
    ∃ (ns : List (Leaf .newline)) (definitions : List (BlockTree × List (Leaf .newline))) (b : BlockTree),
      tokens = Leaf.tokens ns ++ (SceneTree.body definitions ++ b.tokens) ++ (Reading.ofTokens tokens).rest ∧
      (∀ d ∈ definitions, ∃ definition, Definition.ofBlock d.1.block = .ok definition) ∧
      Definition.ofBlock b.block = .error m ∧
      ∀ other,
        (Reading.ofTokens (Leaf.tokens ns ++ (SceneTree.body definitions ++ b.tokens) ++ other)).problem =
          some (.meaning m) := by
  obtain ⟨ns, definitions, found, front, split, meant, -, -, stop | ⟨b, m', rfl, failed, same⟩⟩ :=
    Reading.exists_stop h
  case inl =>
    -- no token shows a problem of meaning
    obtain ⟨-, -, -, ⟨⟩, -⟩ := Reader.prompt_block.stopped stop Bool.false_ne_true
  obtain rfl := TextProblem.meaning.inj same
  have all := exists_meanings.1 ⟨found, meant⟩
  have whole (other : List Token) : Leaf.tokens ns ++ (SceneTree.body definitions ++ b.tokens) ++ other =
      Leaf.tokens ns ++ (SceneTree.body definitions ++ (b.tokens ++ other)) := by
    simp only [List.append_assoc]
  refine ⟨ns, definitions, b, split.trans (whole _).symm,
    fun d hd => all d.1.block (List.mem_map_of_mem hd), failed, fun other => ?_⟩
  -- the block is the next one behind those that mean something
  have first := b.head?_tokens other
  have due : Reader.afterNewlines (b.tokens ++ other) = b.tokens ++ other :=
    Reader.afterNewlines_of_head? first
  have last : Reading.ofTokens (b.tokens ++ other) =
      { found := [], problem := some (.meaning m), rest := other } := by
    rw [Reading.ofTokens_block due, failed]
  rw [whole, Reading.ofTokens_body_append meant, last]

/-- **A problem at the end** takes all tokens; they begin a scene. -/
theorem stop_at_end (h : (Reading.ofTokens tokens).problem = some problem) (late : problem.atEnd) :
    (Reading.ofTokens tokens).rest = [] ∧ BeginsScene tokens := by
  obtain ⟨ns, definitions, found, front, split, meant, -, -, stop | ⟨-, m, -, -, rfl⟩⟩ :=
    Reading.exists_stop h
  case inr => exact absurd late Bool.false_ne_true
  obtain ⟨nothing, more, b, read⟩ := Reader.prompt_block.ended stop late
  exact ⟨nothing, split ▸ beginsScene_of_block read⟩

/-- Without any block there are only line ends, which begin a scene. -/
theorem stop_without_block (h : (Reading.ofTokens tokens).problem = none)
    (empty : (Reading.ofTokens tokens).found = []) :
    (Reading.ofTokens tokens).rest = [] ∧ BeginsScene tokens := by
  have skipped := Reading.afterNewlines_of_empty h empty
  obtain ⟨ns, hns⟩ := Reader.exists_newlines tokens
  obtain ⟨more, b, read⟩ := Reader.prompt_block.opens
  rw [skipped] at hns
  refine ⟨by rw [Reading.ofTokens_nil skipped], ?_⟩
  rw [hns]
  have begun : BeginsScene (Leaf.tokens ns ++ (SceneTree.body [] ++ [])) := beginsScene_of_block read
  exact begun

end

/-! ## Texts -/

/-- The tokens of a text that reading takes. -/
def takenTokens (text : List Char) : List Token :=
  (tokenize text).take ((tokenize text).length - (readText text).rest.length)

section

variable {text : List Char} {problem : TextProblem} {taken : List Token}

theorem takenTokens_of_append (h : tokenize text = taken ++ (readText text).rest) :
    takenTokens text = taken := by
  unfold takenTokens
  rw [h, List.length_append, Nat.add_sub_cancel, List.take_left]

theorem takenTokens_append (text : List Char) : takenTokens text ++ (readText text).rest = tokenize text := by
  obtain ⟨front, split⟩ := Reading.rest_ofTokens_suffix (tokenize text)
  rw [takenTokens_of_append split.symm]
  exact split

theorem parse_of_problem (h : (readText text).problem = some problem) : parse text = .error problem := by
  unfold parse Reading.result
  rw [h]

/-- The problem of a text is that of its reading, or that there was nothing to read. -/
theorem problem_of_parse (h : parse text = .error problem) :
    (readText text).problem = some problem ∨
      (readText text).problem = none ∧ (readText text).found = [] ∧ problem = .grammar .noDefinition := by
  unfold parse Reading.result at h
  cases hp : (readText text).problem with
  | some other =>
    rw [hp] at h
    exact .inl (congrArg some (Except.error.inj h))
  | none =>
    rw [hp] at h
    dsimp only at h
    by_cases hf : (readText text).found = []
    · rw [if_pos (by simpa using hf)] at h
      exact .inr ⟨rfl, hf, (Except.error.inj h).symm⟩
    · rw [if_neg (by simpa using hf)] at h
      exact absurd h (by simp)

/-- What holds however the taken tokens go on, holds for every text that has them in front. -/
theorem parse_of_prefix
    (everywhere : ∀ other, (Reading.ofTokens (taken ++ other)).problem = some problem) {other : List Char}
    (h : taken <+: tokenize other) : parse other = .error problem := by
  obtain ⟨more, split⟩ := h
  refine parse_of_problem ?_
  unfold readText
  rw [← split]
  exact everywhere more

/-- At the end all tokens are taken; they begin a scene. -/
theorem late_of_parse (h : parse text = .error problem) (late : problem.atEnd) :
    (readText text).rest = [] ∧ BeginsScene (tokenize text) ∧
      ∀ m, (readText text).problem ≠ some (.meaning m) := by
  rcases problem_of_parse h with hp | ⟨hp, empty, -⟩
  · obtain ⟨nothing, begun⟩ := stop_at_end hp late
    refine ⟨nothing, begun, fun m meaning => ?_⟩
    obtain rfl := Option.some.inj (hp.symm.trans meaning)
    exact Bool.false_ne_true late
  · obtain ⟨nothing, begun⟩ := stop_without_block hp empty
    exact ⟨nothing, begun, fun m meaning => nomatch hp.symm.trans meaning⟩

/-- A text with a problem at its end is no scene. -/
theorem ne_tree_of_late (h : parse text = .error problem) (late : problem.atEnd) (tree : SceneTree) :
    tree.tokens ≠ tokenize text := by
  intro derives
  have read := (parse_of_tree derives).symm.trans h
  cases hm : meanings tree.blocks with
  | ok found =>
    rw [hm] at read
    exact nomatch read
  | error m =>
    rw [hm] at read
    obtain rfl := Except.error.inj read
    exact Bool.false_ne_true late

/-- A problem that is not at the end is one of reading. -/
theorem problem_of_inside (h : parse text = .error problem) (inside : problem.atEnd = false) :
    (readText text).problem = some problem := by
  rcases problem_of_parse h with hp | ⟨-, -, rfl⟩
  · exact hp
  · exact absurd inside nofun

end

/-- **The first problem is the one that is reported**, at the earliest token that shows it.

    A problem of a character or of grammar that is not at the end is reported at the last token taken: the
    tokens before it begin a scene, with it they begin none, and all blocks closed before mean something;
    it is one of a character exactly when that token is an error token.  A problem of meaning is reported
    at the brace that closes the first block without a meaning.  A problem at the end takes all tokens; they
    begin a scene, are none, and all blocks closed in them mean something.  In the first two cases every
    text that has the taken tokens in front has the same problem. -/
theorem parse_first_problem (text : List Char) (problem : TextProblem) (h : parse text = .error problem) :
    tokenize text = takenTokens text ++ (readText text).rest ∧
    (problem.atEnd = false → (∀ m, problem ≠ .meaning m) →
      ∃ before last, takenTokens text = before ++ [last] ∧ BeginsScene before ∧
        ¬ BeginsScene (takenTokens text) ∧ ClosedBlocksMean before ∧
        ((∃ t, problem = .character t) ↔ last.kind = .error) ∧ ∀ t, problem = .character t → t = last) ∧
    (∀ m, problem = .meaning m →
      ∃ (ns : List (Leaf .newline)) (definitions : List (BlockTree × List (Leaf .newline))) (b : BlockTree),
        takenTokens text = Leaf.tokens ns ++ (SceneTree.body definitions ++ b.tokens) ∧
        (takenTokens text).getLast? = some b.closing.token ∧
        (∀ d ∈ definitions, ∃ definition, Definition.ofBlock d.1.block = .ok definition) ∧
        Definition.ofBlock b.block = .error m) ∧
    (problem.atEnd = true → takenTokens text = tokenize text ∧ BeginsScene (tokenize text) ∧
      (∀ tree : SceneTree, tree.tokens ≠ tokenize text) ∧ ClosedBlocksMean (tokenize text)) ∧
    (problem.atEnd = false →
      ∀ other, takenTokens text <+: tokenize other → parse other = .error problem) := by
  refine ⟨(takenTokens_append text).symm, ?_, ?_, ?_, ?_⟩
  · intro inside plain
    obtain ⟨before, last, split, shown, begun, beyond, closed, -⟩ :=
      stop_at_token (problem_of_inside h inside) inside plain
    have taken := takenTokens_of_append split
    rw [taken]
    refine ⟨before, last, rfl, begun, beyond, closed, ?_⟩
    cases problem with
    | character t =>
      obtain ⟨rfl, isError⟩ := shown
      exact ⟨⟨fun _ => isError, fun _ => ⟨t, rfl⟩⟩, fun u hu => (TextProblem.character.inj hu).symm⟩
    | grammar g => exact ⟨⟨nofun, fun isError => absurd isError shown⟩, nofun⟩
    | meaning m => exact absurd rfl (plain m)
  · rintro m rfl
    obtain ⟨ns, definitions, b, split, others, failed, -⟩ := stop_at_meaning (problem_of_inside h rfl)
    rw [takenTokens_of_append split]
    exact ⟨ns, definitions, b, rfl, getLast?_block ns definitions b, others, failed⟩
  · intro late
    obtain ⟨nothing, begun, plain⟩ := late_of_parse h late
    have all := takenTokens_append text
    rw [nothing, List.append_nil] at all
    refine ⟨all, begun, ne_tree_of_late h late, closedBlocksMean_of_problem [] fun m => ?_⟩
    rw [List.append_nil]
    exact plain m
  · intro inside other front
    have read := problem_of_inside h inside
    by_cases plain : ∀ m, problem ≠ .meaning m
    · obtain ⟨before, last, split, -, -, -, -, everywhere⟩ := stop_at_token read inside plain
      rw [takenTokens_of_append split] at front
      exact parse_of_prefix everywhere front
    · obtain ⟨m, rfl⟩ := Classical.not_forall_not.1 plain
      obtain ⟨ns, definitions, b, split, -, -, everywhere⟩ := stop_at_meaning read
      rw [takenTokens_of_append split] at front
      exact parse_of_prefix everywhere front

/-! ## One text for each kind -/

/-- A window with an unknown character. -/
def strayText : List Char := "window \x7b\n?".toList

/-- A window without width, and what does not follow the grammar behind it. -/
def flatText : List Char := "window \x7b\nwidth = 0\n\x7d\n\x7d".toList

/-- A window that is not closed. -/
def openText : List Char := "window \x7b\n".toList

theorem parse_first_problem_kinds :
    (∃ t, parse strayText = .error (.character t) ∧
      ∃ before last, takenTokens strayText = before ++ [last] ∧ BeginsScene before ∧
        ¬ BeginsScene (takenTokens strayText) ∧ last.kind = .error) ∧
    (∃ m, parse flatText = .error (.meaning m) ∧
      ∀ other, takenTokens flatText <+: tokenize other → parse other = .error (.meaning m)) ∧
    (∃ g, parse openText = .error (.grammar g) ∧ BeginsScene (tokenize openText)) := by
  refine ⟨?_, ?_, ?_⟩
  · have read : parse strayText = .error (.character
        { kind := .error, value := .text "?", place := { line := 2, column := 1 } }) := by
      with_unfolding_all rfl
    obtain ⟨-, shown, -⟩ := parse_first_problem strayText _ read
    obtain ⟨before, last, taken, begun, beyond, -, isError, -⟩ := shown rfl nofun
    exact ⟨_, read, before, last, taken, begun, beyond, isError.1 ⟨_, rfl⟩⟩
  · have read : parse flatText = .error (.meaning (.windowSide "width" 0)) := by with_unfolding_all rfl
    obtain ⟨-, -, -, -, lasts⟩ := parse_first_problem flatText _ read
    exact ⟨_, read, lasts rfl⟩
  · have read : parse openText = .error (.grammar (.missing .identifier)) := by with_unfolding_all rfl
    obtain ⟨-, -, -, late, -⟩ := parse_first_problem openText _ read
    exact ⟨_, read, (late rfl).2.1⟩

end LitSpheres
