/-
  The reader accepts exactly the grammar.

  1. **Program** — a scene is read block after block, and each block is given its meaning as soon as it is
     closed; the first problem ends the reading.

  2. **Specification** — a list of tokens that derives a scene is read to its end, and the result is the
     meanings of its blocks in order, or the first problem of meaning among them.  No other list of
     tokens is read.

  3. **The crux** — a block is read exactly where a tree of one stands, so the loop over the blocks follows
     the derivation.  There is only one, and it leaves no choice where reading could go wrong.
-/
import LitSpheres.Definition.Read
import LitSpheres.Proofs.Grammar.Reading

namespace LitSpheres

/-! ## The meanings of blocks -/

/-- The meanings of blocks in order, as far as the first that has none. -/
def meanings (bs : List Block) : Except MeaningProblem (List Definition) := bs.mapM Definition.ofBlock

theorem meanings_cons_ok {b : Block} {bs : List Block} {d : Definition} (h : Definition.ofBlock b = .ok d) :
    meanings (b :: bs) = (meanings bs).map (d :: ·) := by
  unfold meanings
  rw [List.mapM_cons, h]
  cases bs.mapM Definition.ofBlock with
  | error problem => rfl
  | ok ds => rfl

theorem meanings_cons_error {b : Block} {bs : List Block} {problem : MeaningProblem}
    (h : Definition.ofBlock b = .error problem) : meanings (b :: bs) = .error problem := by
  unfold meanings
  rw [List.mapM_cons, h]
  rfl

/-- All blocks have a meaning exactly if each of them has. -/
theorem exists_meanings {bs : List Block} :
    (∃ ds, meanings bs = .ok ds) ↔ ∀ b ∈ bs, ∃ d, Definition.ofBlock b = .ok d := by
  induction bs with
  | nil => exact ⟨fun _ _ hb => absurd hb (by simp), fun _ => ⟨[], rfl⟩⟩
  | cons b bs ih =>
    rw [List.forall_mem_cons, ← ih]
    cases hb : Definition.ofBlock b with
    | error problem => simp [meanings_cons_error hb]
    | ok d =>
      rw [meanings_cons_ok hb]
      cases meanings bs with
      | error problem => simp [Except.map]
      | ok ds => simp [Except.map]

/-- Each block has one meaning. -/
theorem length_of_meanings {bs : List Block} {ds : List Definition} (h : meanings bs = .ok ds) :
    ds.length = bs.length := by
  induction bs generalizing ds with
  | nil =>
    obtain rfl : [] = ds := Except.ok.inj h
    rfl
  | cons b bs ih =>
    cases hb : Definition.ofBlock b with
    | error problem => exact absurd ((meanings_cons_error hb).symm.trans h) (by simp)
    | ok d =>
      rw [meanings_cons_ok hb] at h
      cases hm : meanings bs with
      | error problem => exact absurd (hm ▸ h) (by simp [Except.map])
      | ok found =>
        rw [hm] at h
        obtain rfl : d :: found = ds := Except.ok.inj h
        exact congrArg (· + 1) (ih hm)

/-! ## Scenes -/

namespace Reading

variable {tokens rest : List Token}

theorem ofTokens_nil (h : Reader.afterNewlines tokens = []) :
    ofTokens tokens = { found := [], problem := none, rest := [] } := by
  rw [ofTokens]
  split
  · rfl
  · next ht => exact absurd (ht.symm.trans h) (by simp)

theorem ofTokens_block {b : BlockTree} (h : Reader.afterNewlines tokens = b.tokens ++ rest) :
    ofTokens tokens = match Definition.ofBlock b.block with
      | .error problem => { found := [], problem := some (.meaning problem), rest }
      | .ok d => { ofTokens rest with found := d :: (ofTokens rest).found } := by
  have read : Reader.block (b.tokens ++ rest) = ⟨.ok b.block, rest⟩ := Reader.block_eq_ok.2 ⟨b, rfl, rfl⟩
  rw [ofTokens]
  split
  · next hn => exact absurd (hn.symm.trans h) (by simp [BlockTree.tokens])
  · next t ts hn =>
    rw [← hn.symm.trans h] at read
    split
    · next problem left hf => exact absurd (hf.symm.trans read) (by simp)
    · next c left hc =>
      injection hc.symm.trans read with same hl
      obtain rfl := Except.ok.inj same
      obtain rfl := hl
      cases Definition.ofBlock b.block with
      | error problem => rfl
      | ok d => rfl

/-- **Completeness**: the tokens of definitions are read to their end if all blocks have a meaning, and
    up to the first problem of meaning if not. -/
theorem ofTokens_body {definitions : List (BlockTree × List (Leaf .newline))}
    (h : Reader.afterNewlines tokens = SceneTree.body definitions) :
    match meanings (definitions.map (·.1.block)) with
    | .ok found => ofTokens tokens = { found, problem := none, rest := [] }
    | .error problem => (ofTokens tokens).problem = some (.meaning problem) := by
  induction definitions generalizing tokens with
  | nil => exact ofTokens_nil h
  | cons definition others ih =>
    obtain ⟨b, ns⟩ := definition
    have here : Reader.afterNewlines tokens = b.tokens ++ (Leaf.tokens ns ++ SceneTree.body others) := by
      rw [h, SceneTree.body, List.flatMap_cons, List.append_assoc]
      rfl
    rw [ofTokens_block here]
    -- the line ends behind a block are skipped before the next one is read
    have behind := ih (Reader.afterNewlines_append ns (SceneTree.head?_body others))
    show match meanings (b.block :: others.map (·.1.block)) with
      | .ok found => _
      | .error problem => _
    cases hb : Definition.ofBlock b.block with
    | error problem =>
      rw [meanings_cons_error hb]
    | ok d =>
      rw [meanings_cons_ok hb]
      cases hm : meanings (others.map (·.1.block)) with
      | error problem =>
        rw [hm] at behind
        exact behind
      | ok found =>
        rw [hm] at behind
        dsimp only [Except.map] at behind ⊢
        rw [behind]

/-- **Soundness**: tokens that are read without a problem are those of definitions with a meaning. -/
theorem exists_body (h : (ofTokens tokens).problem = none) :
    ∃ definitions : List (BlockTree × List (Leaf .newline)),
      Reader.afterNewlines tokens = SceneTree.body definitions ∧
        meanings (definitions.map (·.1.block)) = .ok (ofTokens tokens).found := by
  fun_induction ofTokens tokens with
  | case1 tokens hn => exact ⟨[], hn, rfl⟩
  | case2 tokens t ts hn problem left hb => exact absurd h (by simp)
  | case3 tokens t ts hn b left hb problem hd => exact absurd h (by simp)
  | case4 tokens t ts hn b left hb d hd others ih =>
    obtain ⟨tree, htree, rfl⟩ := Reader.block_eq_ok.1 hb
    obtain ⟨ns, hns⟩ := Reader.exists_newlines left
    obtain ⟨behind, hbehind, hm⟩ := ih h
    refine ⟨(tree, ns) :: behind, ?_, ?_⟩
    · rw [hn, htree, hns, hbehind, SceneTree.body, SceneTree.body, List.flatMap_cons, List.append_assoc]
    · show meanings (tree.block :: behind.map (·.1.block)) = _
      rw [meanings_cons_ok hd, hm]
      rfl

/-- Tokens in which nothing is found and nothing is wrong are line ends. -/
theorem afterNewlines_of_empty (h : (ofTokens tokens).problem = none) (empty : (ofTokens tokens).found = []) :
    Reader.afterNewlines tokens = [] := by
  obtain ⟨definitions, hbody, meant⟩ := exists_body h
  have count := length_of_meanings meant
  rw [empty, List.length_map] at count
  obtain rfl := List.eq_nil_of_length_eq_zero count.symm
  exact hbody

end Reading

/-! ## Texts -/

/-- A text that derives a scene is read to its end if its blocks have meanings, and up to the first that
    has none if not. -/
theorem readText_of_tree {text : List Char} {tree : SceneTree} (h : tree.tokens = tokenize text) :
    match meanings tree.blocks with
    | .ok found => readText text = { found, problem := none, rest := [] }
    | .error problem => (readText text).problem = some (.meaning problem) := by
  have skipped : Reader.afterNewlines (tokenize text) = SceneTree.body tree.definitions := by
    rw [← h]
    exact Reader.afterNewlines_append tree.lineEnds (SceneTree.head?_body tree.definitions)
  exact Reading.ofTokens_body skipped

/-- The result of reading a text that derives a scene is the meanings of its blocks. -/
theorem parse_of_tree {text : List Char} {tree : SceneTree} (h : tree.tokens = tokenize text) :
    parse text = (meanings tree.blocks).mapError TextProblem.meaning := by
  have read := readText_of_tree h
  unfold parse Reading.result
  cases hm : meanings tree.blocks with
  | error problem =>
    rw [hm] at read
    dsimp only at read
    rw [read]
    rfl
  | ok found =>
    rw [hm] at read
    dsimp only at read
    rw [read]
    -- a scene has a block, and so a definition
    have count : found.length = tree.definitions.length := by
      rw [length_of_meanings hm, SceneTree.blocks, List.length_map]
    have some_found : found ≠ [] := by
      rintro rfl
      exact tree.nonempty (List.eq_nil_of_length_eq_zero count.symm)
    dsimp only
    rw [if_neg (by simpa using some_found)]
    rfl

/-- What a reading results in: definitions if there is no problem and any definition. -/
theorem Reading.result_eq_ok {r : Reading} {ds : List Definition} :
    r.result = .ok ds ↔ r.problem = none ∧ r.found = ds ∧ ds ≠ [] := by
  unfold result
  cases r.problem with
  | some problem => exact ⟨nofun, fun h => absurd h.1 nofun⟩
  | none =>
    cases hf : r.found with
    | nil =>
      refine ⟨nofun, ?_⟩
      rintro ⟨-, rfl, some⟩
      exact absurd rfl some
    | cons d others =>
      constructor
      · rintro ⟨⟩
        exact ⟨rfl, rfl, List.cons_ne_nil d others⟩
      · rintro ⟨-, rfl, -⟩
        rfl

/-- A text whose reading gives definitions derives a scene that means them. -/
theorem exists_tree {text : List Char} {ds : List Definition} (h : parse text = .ok ds) :
    ∃ tree : SceneTree, tree.tokens = tokenize text ∧ meanings tree.blocks = .ok ds := by
  obtain ⟨whole, rfl, some⟩ := Reading.result_eq_ok.1 h
  obtain ⟨definitions, hbody, hm⟩ := Reading.exists_body whole
  obtain ⟨ns, hns⟩ := Reader.exists_newlines (tokenize text)
  have nonempty : definitions ≠ [] := by
    rintro rfl
    exact some (Except.ok.inj hm).symm
  refine ⟨⟨ns, definitions, nonempty⟩, ?_, hm⟩
  rw [hbody] at hns
  exact hns.symm

/-- **The reader accepts exactly its grammar.**  A text is read if and only if its tokens derive a scene
    whose blocks all have a meaning.  The derivation is the only one, none of its tokens is an error
    token, the result is the meanings of its blocks in order or the first problem of meaning among
    them, and what is read is read to the last token. -/
theorem parse_iff_derives (text : List Char) :
    ((∃ ds, parse text = .ok ds) ↔
      ∃ tree : SceneTree, tree.tokens = tokenize text ∧
        ∀ b ∈ tree.blocks, ∃ d, Definition.ofBlock b = .ok d) ∧
    ∀ tree : SceneTree, tree.tokens = tokenize text →
      (∀ other : SceneTree, other.tokens = tokenize text → other = tree) ∧
      (∀ t ∈ tokenize text, t.kind ≠ .error) ∧
      parse text = (tree.blocks.mapM Definition.ofBlock).mapError TextProblem.meaning ∧
      ∀ ds, parse text = .ok ds → (readText text).rest = [] := by
  refine ⟨⟨?_, ?_⟩, ?_⟩
  · rintro ⟨ds, h⟩
    obtain ⟨tree, htree, hm⟩ := exists_tree h
    exact ⟨tree, htree, exists_meanings.1 ⟨ds, hm⟩⟩
  · rintro ⟨tree, htree, meant⟩
    obtain ⟨ds, hm⟩ := exists_meanings.2 meant
    refine ⟨ds, ?_⟩
    rw [parse_of_tree htree, hm]
    rfl
  · intro tree htree
    refine ⟨fun other h => SceneTree.tokens_inj (h.trans htree.symm), ?_, parse_of_tree htree, ?_⟩
    · intro t ht
      rw [← htree] at ht
      exact SceneTree.ne_error ht
    · intro ds h
      have read := readText_of_tree htree
      cases hm : meanings tree.blocks with
      | error problem => exact absurd ((parse_of_tree htree).symm.trans h) (by rw [hm]; exact nofun)
      | ok found =>
        rw [hm] at read
        dsimp only at read
        rw [read]

/-! ## A scene of one window -/

/-- A window that sets its title. -/
def titled : List Char := "window \x7b\ntitle = \"a\"\n\x7d".toList

def titledTree : SceneTree where
  lineEnds := []
  definitions := [({
    kind := ⟨{ kind := .identifier, value := .text "window" }, rfl⟩
    opening := ⟨{ kind := .leftBrace, value := .text "\x7b", place := { line := 1, column := 8 } }, rfl⟩
    lineEnd := ⟨{ kind := .newline, place := { line := 1, column := 9 } }, rfl⟩
    lineEnds := []
    first := {
      name := ⟨{ kind := .identifier, value := .text "title", place := { line := 2, column := 1 } }, rfl⟩
      equal := ⟨{ kind := .equal, value := .text "=", place := { line := 2, column := 7 } }, rfl⟩
      value := .string ⟨{ kind := .string, value := .text "a", place := { line := 2, column := 9 } }, rfl⟩
      lineEnd := ⟨{ kind := .newline, place := { line := 2, column := 12 } }, rfl⟩ }
    items := []
    closing := ⟨{ kind := .rightBrace, value := .text "\x7d", place := { line := 3, column := 1 } }, rfl⟩ }, [])]
  nonempty := by decide

theorem parse_iff_derives_titled :
    titledTree.tokens = tokenize titled ∧ (∃ ds, parse titled = .ok ds) ∧ (readText titled).rest = [] := by
  have derives : titledTree.tokens = tokenize titled := by with_unfolding_all rfl
  have meant : ∀ b ∈ titledTree.blocks, ∃ d, Definition.ofBlock b = .ok d := by
    intro b hb
    obtain rfl := List.mem_singleton.1 hb
    exact ⟨.window { title := some "a" }, rfl⟩
  obtain ⟨ds, read⟩ := (parse_iff_derives titled).1.2 ⟨titledTree, derives, meant⟩
  obtain ⟨-, -, -, finished⟩ := (parse_iff_derives titled).2 titledTree derives
  exact ⟨derives, ⟨ds, read⟩, finished ds read⟩

end LitSpheres
