/-
  Writing a scene and reading it back.

  1. **Program** — the blocks of definitions are written one behind the other; a text is read block by block.

  2. **Specification** — every list of definitions that can be written is written, and its text is read as
     the same list if all of them are in range, and refused for its meaning if one is not.  Whatever is
     read can be written, and is in range.

  3. **The crux** — the text that is written derives a scene, whose blocks hold the definitions one by one.
     The reader gives the meanings of the blocks of the derivation, which is the only one.
-/
import LitSpheres.Proofs.Definition.Meaning
import LitSpheres.Proofs.Definition.Written
import LitSpheres.Proofs.Grammar.Accepting

namespace LitSpheres

open Text (Place)

/-! ## What is written derives a scene -/

/-- **Texts of definitions** are scanned as the blocks of the definitions, each with a line end behind it. -/
theorem exists_texts {ds : List Definition} (h : ∀ d ∈ ds, d.Writable) :
    ∃ texts, ds.mapM Definition.write = .ok texts ∧
      (∀ c ∈ (texts.flatMap String.toList).head?, ¬ Shape.isLineEnd c) ∧
      ∀ place, ∃ definitions : List (BlockTree × List (Leaf .newline)),
        List.Forall₂ Block.Holds (definitions.map (·.1.block)) ds ∧
          scan place (texts.flatMap String.toList) = SceneTree.body definitions := by
  induction ds with
  | nil => exact ⟨[], rfl, by simp, fun place => ⟨[], .nil, scan_nil place⟩⟩
  | cons d ds ih =>
    obtain ⟨hd, hds⟩ := List.forall_mem_cons.1 h
    obtain ⟨texts, written, boundary, derives⟩ := ih hds
    obtain ⟨lines, hw, all⟩ := Definition.write_ok hd
    have word := Definition.isWord_kindName hd
    refine ⟨blockText d.kindName lines :: texts, ?_, ?_, ?_⟩
    · rw [List.mapM_cons, hw, written]
      rfl
    · rw [List.flatMap_cons, toList_blockText]
      exact word.boundary _
    · intro place
      obtain ⟨b, n, behind, kind, pairs, scanned⟩ :=
        scan_block word all (Definition.fields_ne_nil hd) boundary place
      obtain ⟨definitions, hold, others⟩ := derives behind
      refine ⟨(b, [n]) :: definitions, .cons ⟨kind, pairs⟩ hold, ?_⟩
      rw [List.flatMap_cons, scanned, others]
      simp [SceneTree.body, Leaf.tokens]

/-! ## What is read can be written -/

/-- Each of the definitions is the meaning of one of the blocks. -/
theorem exists_block_of_mem {bs : List Block} {ds : List Definition} (h : meanings bs = .ok ds)
    {d : Definition} (hd : d ∈ ds) : ∃ b ∈ bs, Definition.ofBlock b = .ok d := by
  induction bs generalizing ds with
  | nil =>
    obtain rfl : [] = ds := Except.ok.inj h
    exact absurd hd (by simp)
  | cons b bs ih =>
    cases hb : Definition.ofBlock b with
    | error problem => exact absurd ((meanings_cons_error hb).symm.trans h) (by simp)
    | ok first =>
      obtain ⟨others, hm, rfl⟩ := exists_of_map_ok ((meanings_cons_ok hb).symm.trans h)
      rcases List.mem_cons.1 hd with rfl | later
      · exact ⟨b, List.mem_cons_self, hb⟩
      · obtain ⟨c, hc, meant⟩ := ih hm later
        exact ⟨c, List.mem_cons_of_mem _ hc, meant⟩

/-- A text on the right of an assignment is that of one of its tokens. -/
theorem ValueTree.exists_token {v : ValueTree} {s : String} (h : v.value = .text s) :
    ∃ t ∈ v.tokens, (t.kind = .identifier ∨ t.kind = .string) ∧ t.text = s := by
  cases v with
  | number n => exact absurd h (by simp [value])
  | string l =>
    obtain rfl : l.token.text = s := Value.text.inj h
    exact ⟨l.token, List.mem_singleton_self _, .inr l.kind_eq, rfl⟩
  | word l =>
    obtain rfl : l.token.text = s := Value.text.inj h
    exact ⟨l.token, List.mem_singleton_self _, .inl l.kind_eq, rfl⟩
  | triple _ _ _ _ _ _ _ => exact absurd h (by simp [value])

/-- The tokens of an assignment are among those of its block. -/
theorem BlockTree.exists_assignment {b : BlockTree} {a : Assignment} (h : a ∈ b.block.assignments) :
    ∃ tree : AssignmentTree, tree.assignment = a ∧ ∀ t ∈ tree.tokens, t ∈ b.tokens := by
  rcases List.mem_cons.1 h with rfl | later
  · exact ⟨b.first, rfl, fun t ht => by simp [tokens, ht]⟩
  · obtain ⟨item, hi, assigned⟩ := List.mem_filterMap.1 later
    cases item with
    | lineEnd n => exact absurd assigned (by simp [ItemTree.assignment?])
    | assignment tree =>
      refine ⟨tree, Option.some.inj assigned, fun t ht => ?_⟩
      have inTail : t ∈ b.items.flatMap ItemTree.tokens := List.mem_flatMap.2 ⟨_, hi, ht⟩
      simp [tokens, tail, inTail]

/-- **What is read can be written, and is in range.** -/
theorem writable_of_parse {text : List Char} {ds : List Definition} (h : parse text = .ok ds) :
    ds ≠ [] ∧ ∀ d ∈ ds, d.Writable ∧ d.InRange := by
  obtain ⟨tree, derives, meant⟩ := exists_tree h
  constructor
  · rintro rfl
    have count := length_of_meanings meant
    rw [SceneTree.blocks, List.length_map] at count
    exact tree.nonempty (List.eq_nil_of_length_eq_zero count.symm)
  · intro d hd
    obtain ⟨b, hb, hd⟩ := exists_block_of_mem meant hd
    obtain ⟨⟨block, lineEnds⟩, hmem, rfl⟩ := List.mem_map.1 hb
    refine Definition.ofBlock_ok hd (List.cons_ne_nil _ _) fun a ha s value => ?_
    -- the text is that of a token of the scene
    obtain ⟨assignment, rfl, among⟩ := BlockTree.exists_assignment ha
    obtain ⟨t, ht, kind, rfl⟩ := ValueTree.exists_token value
    have inBlock : t ∈ block.tokens := among t (by simp [AssignmentTree.tokens, ht])
    have inScene : t ∈ tree.tokens := by
      refine List.mem_append_right _ (List.mem_flatMap.2 ⟨_, hmem, ?_⟩)
      exact List.mem_append_left _ inBlock
    exact plain_of_mem_tokenize (derives ▸ inScene) kind

/-! ## There and back -/

/-- The blocks that hold definitions mean them if all are in range, and one means nothing if not. -/
theorem meanings_of_holds {bs : List Block} {ds : List Definition} (h : List.Forall₂ Block.Holds bs ds)
    (writable : ∀ d ∈ ds, d.Writable) :
    ((∀ d ∈ ds, d.InRange) → meanings bs = .ok ds) ∧
      ((∃ d ∈ ds, ¬ d.InRange) → ∃ problem, meanings bs = .error problem) := by
  induction h with
  | nil => exact ⟨fun _ => rfl, by simp⟩
  | @cons b d bs ds hb hbs ih =>
    obtain ⟨hd, hds⟩ := List.forall_mem_cons.1 writable
    obtain ⟨good, bad⟩ := Definition.ofBlock_of_holds hb hd
    obtain ⟨goods, bads⟩ := ih hds
    constructor
    · intro range
      obtain ⟨here, later⟩ := List.forall_mem_cons.1 range
      rw [meanings_cons_ok (good here), goods later]
      rfl
    · intro range
      by_cases here : d.InRange
      · obtain ⟨e, he, out⟩ := range
        rcases List.mem_cons.1 he with rfl | later
        · exact absurd here out
        · obtain ⟨problem, failed⟩ := bads ⟨e, later, out⟩
          refine ⟨problem, ?_⟩
          rw [meanings_cons_ok (good here), failed]
          rfl
      · obtain ⟨problem, failed⟩ := bad here
        exact ⟨problem, meanings_cons_error failed⟩

/-- Definitions that can be written are, and their text is read back or refused for its meaning. -/
theorem parse_of_writeScene {ds : List Definition} (writable : ∀ d ∈ ds, d.Writable) :
    ∃ text, writeScene ds = .ok text ∧
      (ds ≠ [] → (∀ d ∈ ds, d.InRange) → parse text.toList = .ok ds) ∧
      ((∃ d ∈ ds, ¬ d.InRange) → ∃ problem, parse text.toList = .error (.meaning problem)) := by
  obtain ⟨texts, written, -, derives⟩ := exists_texts writable
  obtain ⟨definitions, hold, scanned⟩ := derives {}
  obtain ⟨good, bad⟩ := meanings_of_holds hold writable
  have result (nonempty : ds ≠ []) : parse (String.join texts).toList =
      (meanings (definitions.map (·.1.block))).mapError TextProblem.meaning := by
    have some_definition : definitions ≠ [] := by
      rintro rfl
      exact nonempty (List.forall₂_nil_left_iff.1 hold)
    have derived : SceneTree.tokens ⟨[], definitions, some_definition⟩ =
        tokenize (String.join texts).toList := by
      rw [tokenize_eq_scan, String.toList_join, scanned]
      rfl
    exact parse_of_tree derived
  refine ⟨String.join texts, ?_, ?_, ?_⟩
  · unfold writeScene
    rw [written]
    rfl
  · intro nonempty range
    rw [result nonempty, good range]
    rfl
  · rintro ⟨d, hd, out⟩
    obtain ⟨problem, failed⟩ := bad ⟨d, hd, out⟩
    refine ⟨problem, ?_⟩
    rw [result (List.ne_nil_of_mem hd), failed]
    rfl

/-- **Writing and reading go together.**  Every list of definitions with finite numbers, titles without double
    quotes, and windows that set something is written; its text is read as the same list, bit for bit, if
    it holds a definition and all of them are in range, and is refused for its meaning if one is not.
    What is read from any text can be written, and is in range. -/
theorem write_parse :
    (∀ ds : List Definition, (∀ d ∈ ds, d.Writable) → ∃ text, writeScene ds = .ok text ∧
      (ds ≠ [] → (∀ d ∈ ds, d.InRange) → parse text.toList = .ok ds) ∧
      ((∃ d ∈ ds, ¬ d.InRange) → ∃ problem, parse text.toList = .error (.meaning problem))) ∧
    ∀ text ds, parse text = .ok ds →
      ds ≠ [] ∧ (∀ d ∈ ds, d.Writable ∧ d.InRange) ∧ ∃ t, writeScene ds = .ok t := by
  refine ⟨fun ds writable => parse_of_writeScene writable, fun text ds h => ?_⟩
  obtain ⟨nonempty, all⟩ := writable_of_parse h
  obtain ⟨t, written, -⟩ := parse_of_writeScene fun d hd => (all d hd).1
  exact ⟨nonempty, all, t, written⟩

/-- A room with a title that would be a comment and a brace, and light of minus zero. -/
def darkRoom : List Definition :=
  [.window { title := some "# \x7b", width := some 640 }, .light (.ambient (-0.0))]

theorem write_parse_darkRoom :
    (∀ d ∈ darkRoom, d.Writable) ∧ (∀ d ∈ darkRoom, d.InRange) ∧
      ∃ text, writeScene darkRoom = .ok text ∧ parse text.toList = .ok darkRoom := by
  have finite : ∀ d ∈ darkRoom, ∀ x ∈ d.numbers, Binary64.isFinite x := by decide +kernel
  have writable : ∀ d ∈ darkRoom, d.Writable := by
    intro d hd
    refine ⟨finite d hd, ?_⟩
    rcases List.mem_cons.1 hd with rfl | hd
    · exact ⟨by decide, .inl rfl⟩
    · rw [List.mem_singleton.1 hd]
      trivial
  have range : ∀ d ∈ darkRoom, d.InRange := by
    intro d hd
    rcases List.mem_cons.1 hd with rfl | hd
    · have wide : (1 : Float) ≤ 640 := by decide +kernel
      exact ⟨by rintro x ⟨⟩; exact wide, by simp⟩
    · rw [List.mem_singleton.1 hd]
      have dark : (0 : Float) ≤ -0.0 := by decide +kernel
      exact dark
  obtain ⟨text, written, reads, -⟩ := write_parse.1 darkRoom writable
  have read := reads (by decide) range
  obtain ⟨-, all, -⟩ := write_parse.2 text.toList darkRoom read
  exact ⟨fun d hd => (all d hd).1, fun d hd => (all d hd).2, text, written, read⟩

end LitSpheres
