/-
  What is written for a definition is scanned as the block of that definition.

  1. **Program** — a definition is written as a block: its kind and an opening brace, one line for each of its
     names, and a closing brace.

  2. **Specification** — every definition that can be written is; and wherever its text stands, its tokens are
     those of a tree, whose block has the kind, the names and the values of the definition.

  3. **The crux** — a value is written so that a line end behind it does not continue it, and so that the
     blank before it ends there.  The rest is line after line.
-/
import Mathlib.Data.List.Forall2
import LitSpheres.Definition.Written
import LitSpheres.Proofs.Definition.Fields
import LitSpheres.Proofs.Token.Scan

namespace LitSpheres

open Text (Place)

variable {rest : List Char}

/-! ## Words -/

/-- A text of letters. -/
structure IsWord (s : String) : Prop where
  nonempty : s.toList ≠ []
  letters : s.toList.all Char.isAlpha

namespace IsWord

variable {s : String}

instance (s : String) : Decidable (IsWord s) :=
  decidable_of_iff (s.toList ≠ [] ∧ s.toList.all Char.isAlpha)
    ⟨fun h => ⟨h.1, h.2⟩, fun h => ⟨h.nonempty, h.letters⟩⟩

theorem isAlpha (h : IsWord s) : ∀ c ∈ s.toList, c.isAlpha := List.all_eq_true.1 h.letters

/-- What begins with a letter does not continue a line end. -/
theorem boundary (h : IsWord s) (cs : List Char) : ∀ c ∈ (s.toList ++ cs).head?, ¬ Shape.isLineEnd c := by
  intro c hc lineEnd
  rw [List.head?_append_of_ne_nil _ h.nonempty] at hc
  have letter := h.isAlpha c (List.mem_of_mem_head? hc)
  have both := Shape.starts_unique (by decide) (by decide) (Shape.starts_of_isAlpha letter)
    (Shape.starts_of_isLineEnd lineEnd)
  exact absurd both (by decide)

end IsWord

/-! ## Values -/

/-- The text stands for the value wherever a blank is before it and a line end behind it. -/
structure Value.WrittenAs (v : Value) (text : List Char) : Prop where
  head : ∀ c ∈ text.head?, ¬ Shape.isBlank c
  scanned : ∀ place rest, ∃ (tree : ValueTree) (behind : Place),
    tree.value = v ∧ scan place (text ++ '\n' :: rest) = tree.tokens ++ scan behind ('\n' :: rest)

/-- What is written for a finite float is scanned as that float. -/
theorem scan_float (place : Place) {x : Float} (finite : Binary64.isFinite x)
    (boundary : ∀ c ∈ rest.head?, ¬ c.isDigit ∧ c ≠ '.') :
    ∃ (l : Leaf .number) (behind : Place), l.token.number = x ∧
      scan place (NumberLayout.scene.writeChars x ++ rest) = l.token :: scan behind rest := by
  obtain ⟨n, written, reads⟩ := NumberLayout.exists_numeral finite
  obtain ⟨l, number, scanned⟩ := Shape.scan_number place n (Binary64.isNegative x) boundary
  rw [written]
  exact ⟨l, _, number.trans reads, scanned⟩

/-- A numeral does not begin with a blank. -/
theorem head?_writeChars {x : Float} (finite : Binary64.isFinite x) (cs : List Char) :
    ∀ c ∈ (NumberLayout.scene.writeChars x ++ cs).head?, ¬ Shape.isBlank c := by
  obtain ⟨n, written, -⟩ := NumberLayout.exists_numeral finite
  obtain ⟨d, ds, chars, digit⟩ := n.exists_chars_eq_cons
  rw [written]
  unfold Numeral.signed
  rw [chars]
  intro c hc blank
  cases hs : Binary64.isNegative x with
  | true =>
    rw [hs] at hc
    obtain rfl : '-' = c := Option.some.inj hc
    exact absurd blank (by decide)
  | false =>
    rw [hs] at hc
    obtain rfl : d = c := Option.some.inj hc
    -- a digit starts a number, and a blank starts blanks
    have both := Shape.starts_unique (by decide) (by decide) (Shape.starts_of_isDigit digit)
      (Shape.starts_of_isBlank blank)
    exact absurd both (by decide)

namespace Value

theorem writtenAs_number {x : Float} (finite : Binary64.isFinite x) :
    (number x).WrittenAs (NumberLayout.scene.writeChars x) := by
  constructor
  · have head := head?_writeChars finite []
    rw [List.append_nil] at head
    exact head
  · intro place rest
    have stop : ∀ c ∈ ('\n' :: rest).head?, ¬ c.isDigit ∧ c ≠ '.' := by
      rintro c ⟨⟩
      decide
    obtain ⟨l, behind, same, scanned⟩ := scan_float place finite stop
    exact ⟨.number l, behind, congrArg number same, scanned⟩

theorem writtenAs_quoted {s : String} (plain : '"' ∉ s.toList) :
    (text s).WrittenAs ('"' :: (s.toList ++ ['"'])) := by
  constructor
  · rintro c ⟨⟩
    decide
  · intro place rest
    obtain ⟨l, same, scanned⟩ := Shape.scan_quoted place plain ('\n' :: rest)
    have shape : '"' :: (s.toList ++ ['"']) ++ '\n' :: rest = '"' :: (s.toList ++ '"' :: '\n' :: rest) := by
      simp
    rw [shape]
    exact ⟨.string l, _, congrArg text (same.trans String.ofList_toList), scanned⟩

theorem writtenAs_word {s : String} (h : IsWord s) : (text s).WrittenAs s.toList := by
  constructor
  · intro c hc blank
    have letter := h.isAlpha c (List.mem_of_mem_head? hc)
    have both := Shape.starts_unique (by decide) (by decide) (Shape.starts_of_isAlpha letter)
      (Shape.starts_of_isBlank blank)
    exact absurd both (by decide)
  · intro place rest
    have stop : ∀ c ∈ ('\n' :: rest).head?, ¬ c.isAlpha := by
      rintro c ⟨⟩
      decide
    obtain ⟨l, same, scanned⟩ := Shape.scan_word place h.nonempty h.isAlpha stop
    exact ⟨.word l, _, congrArg text (same.trans String.ofList_toList), scanned⟩

/-- A number of a triple with what stands between it and the next. -/
theorem scan_component (place : Place) {x : Float} (finite : Binary64.isFinite x)
    (boundary : ∀ c ∈ rest.head?, ¬ Shape.isBlank c) :
    ∃ (l : Leaf .number) (comma : Leaf .comma) (behind : Place), l.token.number = x ∧
      scan place (NumberLayout.scene.writeChars x ++ ',' :: ' ' :: rest) =
        l.token :: comma.token :: scan behind rest := by
  have stop : ∀ c ∈ (',' :: ' ' :: rest).head?, ¬ c.isDigit ∧ c ≠ '.' := by
    rintro c ⟨⟩
    decide
  obtain ⟨l, p, same, h₁⟩ := scan_float place finite stop
  obtain ⟨comma, h₂⟩ := Shape.scan_mark p (c := ',') (by decide) (' ' :: rest)
  have h₃ := Shape.scan_blank (p.advance [',']) boundary
  exact ⟨l, comma, _, same, by rw [h₁, h₂, h₃]⟩

theorem writtenAs_triple {v : Vec3 Float} (finite : v.Finite) :
    (triple v).WrittenAs ('(' :: (NumberLayout.scene.writeChars v.x ++ ',' :: ' ' ::
      (NumberLayout.scene.writeChars v.y ++ ',' :: ' ' ::
        (NumberLayout.scene.writeChars v.z ++ [')'])))) := by
  obtain ⟨hx, hy, hz⟩ := Vec3.finite_iff.1 finite
  constructor
  · rintro c ⟨⟩
    decide
  · intro place rest
    have stop : ∀ c ∈ (')' :: '\n' :: rest).head?, ¬ c.isDigit ∧ c ≠ '.' := by
      rintro c ⟨⟩
      decide
    obtain ⟨opening, h₁⟩ := Shape.scan_mark place (c := '(') (by decide)
      (NumberLayout.scene.writeChars v.x ++ ',' :: ' ' :: (NumberLayout.scene.writeChars v.y ++
        ',' :: ' ' :: (NumberLayout.scene.writeChars v.z ++ ')' :: '\n' :: rest)))
    obtain ⟨x, first, p₁, sameX, h₂⟩ := scan_component (place.advance ['(']) hx
      (head?_writeChars hy (',' :: ' ' :: (NumberLayout.scene.writeChars v.z ++ ')' :: '\n' :: rest)))
    obtain ⟨y, second, p₂, sameY, h₃⟩ := scan_component p₁ hy (head?_writeChars hz (')' :: '\n' :: rest))
    obtain ⟨z, p₃, sameZ, h₄⟩ := scan_float p₂ hz stop
    obtain ⟨closing, h₅⟩ := Shape.scan_mark p₃ (c := ')') (by decide) ('\n' :: rest)
    refine ⟨.triple opening x first y second z closing, p₃.advance [')'], ?_, ?_⟩
    · show triple ⟨x.token.number, y.token.number, z.token.number⟩ = triple v
      rw [sameX, sameY, sameZ]
    · simp only [List.cons_append, List.append_assoc, List.nil_append]
      rw [h₁, h₂, h₃, h₄, h₅]
      rfl

end Value

/-! ## Lines -/

/-- The line that assigns a text to a name. -/
def lineText (line : String × String) : String := line.1 ++ " = " ++ line.2 ++ "\n"

theorem toList_lineText (name text : String) (rest : List Char) :
    (lineText (name, text)).toList ++ rest =
      name.toList ++ ' ' :: '=' :: ' ' :: (text.toList ++ '\n' :: rest) := by
  simp [lineText]

/-- The line assigns to the name of the field a text that its value is written as. -/
structure IsLineOf (line : String × String) (field : String × Value) : Prop where
  name : line.1 = field.1
  word : IsWord line.1
  value : field.2.WrittenAs line.2.toList

/-- What an assignment assigns to its name. -/
def AssignmentTree.pair (a : AssignmentTree) : String × Value := (a.assignment.name, a.assignment.value)

theorem scan_line {line : String × String} {field : String × Value} (h : IsLineOf line field)
    (boundary : ∀ c ∈ rest.head?, ¬ Shape.isLineEnd c) (place : Place) :
    ∃ (a : AssignmentTree) (behind : Place), a.pair = field ∧
      scan place ((lineText line).toList ++ rest) = a.tokens ++ scan behind rest := by
  obtain ⟨name, text⟩ := line
  -- where one piece ends, the next one does not continue it
  have blankEnd : ∀ c ∈ (' ' :: '=' :: ' ' :: (text.toList ++ '\n' :: rest)).head?, ¬ c.isAlpha := by
    rintro c ⟨⟩
    decide
  have equalNext : ∀ c ∈ ('=' :: ' ' :: (text.toList ++ '\n' :: rest)).head?, ¬ Shape.isBlank c := by
    rintro c ⟨⟩
    decide
  have valueNext : ∀ c ∈ (text.toList ++ '\n' :: rest).head?, ¬ Shape.isBlank c := by
    intro c hc
    by_cases ht : text.toList = []
    · rw [ht] at hc
      obtain rfl : '\n' = c := Option.some.inj hc
      decide
    · rw [List.head?_append_of_ne_nil _ ht] at hc
      exact h.value.head c hc
  obtain ⟨nameLeaf, same, h₁⟩ := Shape.scan_word place h.word.nonempty h.word.isAlpha blankEnd
  have h₂ := Shape.scan_blank (place.advance name.toList) equalNext
  obtain ⟨equal, h₃⟩ := Shape.scan_mark ((place.advance name.toList).advance [' ']) (c := '=') (by decide)
    (' ' :: (text.toList ++ '\n' :: rest))
  have h₄ := Shape.scan_blank (((place.advance name.toList).advance [' ']).advance ['=']) valueNext
  obtain ⟨value, p, sameValue, h₅⟩ := h.value.scanned
    ((((place.advance name.toList).advance [' ']).advance ['=']).advance [' ']) rest
  obtain ⟨lineEnd, h₆⟩ := Shape.scan_lineEnd p boundary
  refine ⟨⟨nameLeaf, equal, value, lineEnd⟩, p.advance ['\n'], ?_, ?_⟩
  · exact Prod.ext ((same.trans String.ofList_toList).trans h.name) sameValue
  · rw [toList_lineText, h₁, h₂, h₃, h₄, h₅, h₆]
    unfold AssignmentTree.tokens
    simp

/-- What follows a line does not continue its end. -/
theorem boundary_lines {lines : List (String × String)} {fields : List (String × Value)}
    (h : List.Forall₂ IsLineOf lines fields) (boundary : ∀ c ∈ rest.head?, ¬ Shape.isLineEnd c) :
    ∀ c ∈ (lines.flatMap (fun line => (lineText line).toList) ++ rest).head?, ¬ Shape.isLineEnd c := by
  cases h with
  | nil => exact boundary
  | cons line others =>
    rw [List.flatMap_cons, List.append_assoc, toList_lineText]
    exact line.word.boundary _

/-- **Lines** are scanned as assignments, one after the other. -/
theorem scan_lines {lines : List (String × String)} {fields : List (String × Value)}
    (h : List.Forall₂ IsLineOf lines fields) (boundary : ∀ c ∈ rest.head?, ¬ Shape.isLineEnd c)
    (place : Place) :
    ∃ (as : List AssignmentTree) (behind : Place), as.map AssignmentTree.pair = fields ∧
      scan place (lines.flatMap (fun line => (lineText line).toList) ++ rest) =
        as.flatMap AssignmentTree.tokens ++ scan behind rest := by
  induction h generalizing place with
  | nil => exact ⟨[], place, rfl, rfl⟩
  | cons line others ih =>
    have next : ∀ c ∈ (List.flatMap (fun line => (lineText line).toList) _ ++ rest).head?,
        ¬ Shape.isLineEnd c := boundary_lines others boundary
    obtain ⟨a, p, same, h₁⟩ := scan_line line next place
    obtain ⟨as, behind, sames, h₂⟩ := ih p
    refine ⟨a :: as, behind, ?_, ?_⟩
    · rw [List.map_cons, same, sames]
    · rw [List.flatMap_cons, List.append_assoc, h₁, h₂, List.flatMap_cons, List.append_assoc]

/-! ## Blocks -/

/-- The block of the kind with the given lines. -/
def blockText (kind : String) (lines : List (String × String)) : String :=
  kind ++ " \x7b\n" ++ String.join (lines.map lineText) ++ "\x7d\n"

theorem toList_blockText (kind : String) (lines : List (String × String)) (rest : List Char) :
    (blockText kind lines).toList ++ rest = kind.toList ++ ' ' :: '\x7b' :: '\n' ::
      (lines.flatMap (fun line => (lineText line).toList) ++ '\x7d' :: '\n' :: rest) := by
  simp [blockText, String.toList_join, List.flatMap_map]

/-- **Blocks** are scanned as blocks, with the line end behind them. -/
theorem scan_block {kind : String} {lines : List (String × String)} {fields : List (String × Value)}
    (word : IsWord kind) (h : List.Forall₂ IsLineOf lines fields) (nonempty : fields ≠ [])
    (boundary : ∀ c ∈ rest.head?, ¬ Shape.isLineEnd c) (place : Place) :
    ∃ (b : BlockTree) (n : Leaf .newline) (behind : Place), b.block.kind = kind ∧ b.block.pairs = fields ∧
      scan place ((blockText kind lines).toList ++ rest) = b.tokens ++ n.token :: scan behind rest := by
  have blankEnd : ∀ c ∈ (' ' :: '\x7b' :: '\n' :: (lines.flatMap (fun line => (lineText line).toList) ++
      '\x7d' :: '\n' :: rest)).head?, ¬ c.isAlpha := by
    rintro c ⟨⟩
    decide
  have braceNext : ∀ c ∈ ('\x7b' :: '\n' :: (lines.flatMap (fun line => (lineText line).toList) ++
      '\x7d' :: '\n' :: rest)).head?, ¬ Shape.isBlank c := by
    rintro c ⟨⟩
    decide
  have close : ∀ c ∈ ('\x7d' :: '\n' :: rest).head?, ¬ Shape.isLineEnd c := by
    rintro c ⟨⟩
    decide
  obtain ⟨kindLeaf, sameKind, h₁⟩ := Shape.scan_word place word.nonempty word.isAlpha blankEnd
  have h₂ := Shape.scan_blank (place.advance kind.toList) braceNext
  obtain ⟨opening, h₃⟩ := Shape.scan_mark ((place.advance kind.toList).advance [' '])
    (c := '\x7b') (by decide) ('\n' :: (lines.flatMap (fun line => (lineText line).toList) ++ '\x7d' :: '\n' :: rest))
  obtain ⟨lineEnd, h₄⟩ := Shape.scan_lineEnd (((place.advance kind.toList).advance [' ']).advance ['\x7b'])
    (boundary_lines h close)
  obtain ⟨as, p, sames, h₅⟩ := scan_lines h close
    ((((place.advance kind.toList).advance [' ']).advance ['\x7b']).advance ['\n'])
  obtain ⟨closing, h₆⟩ := Shape.scan_mark p (c := '\x7d') (by decide) ('\n' :: rest)
  obtain ⟨n, h₇⟩ := Shape.scan_lineEnd (p.advance ['\x7d']) boundary
  -- the grammar wants an assignment right behind the opening line
  cases as with
  | nil => exact absurd sames.symm nonempty
  | cons first others =>
    refine ⟨{ kind := kindLeaf, opening, lineEnd, lineEnds := [], first,
              items := others.map .assignment, closing },
      n, (p.advance ['\x7d']).advance ['\n'], ?_, ?_, ?_⟩
    · exact sameKind.trans String.ofList_toList
    · rw [← sames]
      unfold BlockTree.block Block.pairs AssignmentTree.pair
      simp [List.filterMap_map, Function.comp_def, ItemTree.assignment?]
    · rw [toList_blockText, h₁, h₂, h₃, h₄, h₅, h₆, h₇]
      unfold BlockTree.tokens BlockTree.tail
      simp [List.flatMap_map, ItemTree.tokens, Leaf.tokens]

/-! ## Definitions -/

/-- The value has a text, and is written as it. -/
def Value.IsWritten (v : Value) (o : Except WriteProblem String) : Prop :=
  ∃ text, o = .ok text ∧ v.WrittenAs text.toList

theorem isWritten_number {x : Float} (finite : Binary64.isFinite x) :
    (Value.number x).IsWritten (writeNumber x) := by
  refine ⟨NumberLayout.scene.write x, if_pos finite, ?_⟩
  unfold NumberLayout.write
  rw [String.toList_ofList]
  exact Value.writtenAs_number finite

theorem isWritten_text {s : String} (plain : '"' ∉ s.toList) : (Value.text s).IsWritten (writeText s) := by
  refine ⟨"\"" ++ s ++ "\"", if_neg plain, ?_⟩
  have chars : ("\"" ++ s ++ "\"").toList = '"' :: (s.toList ++ ['"']) := by simp
  rw [chars]
  exact Value.writtenAs_quoted plain

theorem isWritten_triple {v : Vec3 Float} (finite : v.Finite) :
    (Value.triple v).IsWritten (writeTriple v) := by
  obtain ⟨hx, hy, hz⟩ := Vec3.finite_iff.1 finite
  refine ⟨"(" ++ NumberLayout.scene.write v.x ++ ", " ++ NumberLayout.scene.write v.y ++ ", " ++
    NumberLayout.scene.write v.z ++ ")", ?_, ?_⟩
  · unfold writeTriple writeNumber
    rw [if_pos hx, if_pos hy, if_pos hz]
    rfl
  · have chars := Value.writtenAs_triple finite
    simpa [NumberLayout.write] using chars

/-- An assignment that stands in the block only if its value is set. -/
theorem writeIfSet_ok {α : Type} {name : String} (write : α → Except WriteProblem String) (value : α → Value)
    {o : Option α} (word : IsWord name) (h : ∀ a ∈ o, (value a).IsWritten (write a)) :
    ∃ lines, writeIfSet name write o = .ok lines ∧
      List.Forall₂ IsLineOf lines (o.map fun a => (name, value a)).toList := by
  cases o with
  | none => exact ⟨[], rfl, .nil⟩
  | some a =>
    obtain ⟨text, written, stands⟩ := h a rfl
    exact ⟨[(name, text)], congrArg (Except.map fun text => [(name, text)]) written,
      .cons ⟨rfl, word, stands⟩ .nil⟩

namespace Definition

/-- The lines of a window are those of what it sets, if there are any. -/
theorem lines_window_eq {w : Window} {title width height : List (String × String)}
    (ht : writeIfSet "title" writeText w.title = .ok title)
    (hw : writeIfSet "width" writeNumber w.width = .ok width)
    (hh : writeIfSet "height" writeNumber w.height = .ok height) :
    (window w).lines = if (title ++ width ++ height).isEmpty then .error .emptyWindow
      else .ok ("window", title ++ width ++ height) := by
  rw [lines, ht, hw, hh]
  rfl

theorem lines_window {w : Window} (h : (window w).Writable) :
    ∃ lines, (window w).lines = .ok ("window", lines) ∧ List.Forall₂ IsLineOf lines (window w).fields := by
  obtain ⟨finite, plain, set⟩ := h
  obtain ⟨title, ht, titleLines⟩ := writeIfSet_ok writeText .text (by decide : IsWord "title")
    fun s hs => isWritten_text (plain s hs)
  obtain ⟨width, hw, widthLines⟩ := writeIfSet_ok writeNumber .number (by decide : IsWord "width")
    fun x hx => isWritten_number (finite x (List.mem_append_left _ (Option.mem_toList.2 hx)))
  obtain ⟨height, hh, heightLines⟩ := writeIfSet_ok writeNumber .number (by decide : IsWord "height")
    fun x hx => isWritten_number (finite x (List.mem_append_right _ (Option.mem_toList.2 hx)))
  have all : List.Forall₂ IsLineOf (title ++ width ++ height) (window w).fields :=
    List.rel_append (List.rel_append titleLines widthLines) heightLines
  -- a window that sets nothing is refused, and this one sets something
  have some_line : ¬ (title ++ width ++ height).isEmpty := by
    intro none
    rw [List.isEmpty_iff.1 none] at all
    exact fields_ne_nil ⟨finite, plain, set⟩ (List.forall₂_nil_left_iff.1 all)
  refine ⟨title ++ width ++ height, ?_, all⟩
  rw [lines_window_eq ht hw hh]
  exact if_neg some_line

theorem lines_light {l : Light} (finite : ∀ x ∈ (light l).numbers, Binary64.isFinite x) :
    ∃ lines, (light l).lines = .ok ("light", lines) ∧ List.Forall₂ IsLineOf lines (light l).fields := by
  have wordType : IsWord "type" := by decide
  have wordIntensity : IsWord "intensity" := by decide
  cases l with
  | ambient i =>
    obtain ⟨text, hi, written⟩ := isWritten_number (finite i List.mem_cons_self)
    have type := Value.writtenAs_word (by decide : IsWord "ambient")
    refine ⟨[("type", "ambient"), ("intensity", text)], ?_,
      .cons ⟨rfl, wordType, type⟩ (.cons ⟨rfl, wordIntensity, written⟩ .nil)⟩
    rw [lines, hi]
    rfl
  | point i v =>
    obtain ⟨text, hi, written⟩ := isWritten_number (finite i List.mem_cons_self)
    obtain ⟨position, hv, placed⟩ := isWritten_triple fun x hx => finite x (List.mem_cons_of_mem _ hx)
    have wordPosition : IsWord "position" := by decide
    have type := Value.writtenAs_word (by decide : IsWord "point")
    refine ⟨[("type", "point"), ("intensity", text), ("position", position)], ?_,
      .cons ⟨rfl, wordType, type⟩
        (.cons ⟨rfl, wordIntensity, written⟩ (.cons ⟨rfl, wordPosition, placed⟩ .nil))⟩
    rw [lines, hi, hv]
    rfl
  | directional i v =>
    obtain ⟨text, hi, written⟩ := isWritten_number (finite i List.mem_cons_self)
    obtain ⟨direction, hv, turned⟩ := isWritten_triple fun x hx => finite x (List.mem_cons_of_mem _ hx)
    have wordDirection : IsWord "direction" := by decide
    have type := Value.writtenAs_word (by decide : IsWord "directional")
    refine ⟨[("type", "directional"), ("intensity", text), ("direction", direction)], ?_,
      .cons ⟨rfl, wordType, type⟩
        (.cons ⟨rfl, wordIntensity, written⟩ (.cons ⟨rfl, wordDirection, turned⟩ .nil))⟩
    rw [lines, hi, hv]
    rfl

theorem lines_sphere {s : SphereSpec} (finite : ∀ x ∈ (sphere s).numbers, Binary64.isFinite x) :
    ∃ lines, (sphere s).lines = .ok ("sphere", lines) ∧ List.Forall₂ IsLineOf lines (sphere s).fields := by
  have wordColor : IsWord "color" := by decide
  have wordCenter : IsWord "center" := by decide
  have wordRadius : IsWord "radius" := by decide
  obtain ⟨color, hc, colored⟩ := isWritten_triple fun x hx =>
    finite x (List.mem_append_left _ (List.mem_append_left _ hx))
  obtain ⟨center, hm, centered⟩ := isWritten_triple fun x hx =>
    finite x (List.mem_append_left _ (List.mem_append_right _ hx))
  obtain ⟨radius, hr, written⟩ :=
    isWritten_number (finite s.radius (List.mem_append_right _ List.mem_cons_self))
  refine ⟨[("color", color), ("center", center), ("radius", radius)], ?_,
    .cons ⟨rfl, wordColor, colored⟩
      (.cons ⟨rfl, wordCenter, centered⟩ (.cons ⟨rfl, wordRadius, written⟩ .nil))⟩
  rw [lines, hc, hm, hr]
  rfl

/-- **What can be written** has lines for its fields, one for each and in their order. -/
theorem lines_ok {d : Definition} (h : d.Writable) :
    ∃ lines, d.lines = .ok (d.kindName, lines) ∧ List.Forall₂ IsLineOf lines d.fields := by
  cases d with
  | window w => exact lines_window h
  | light l => exact lines_light h.1
  | sphere s => exact lines_sphere h.1
  | bare => exact absurd h.2 id

theorem write_ok {d : Definition} (h : d.Writable) :
    ∃ lines, d.write = .ok (blockText d.kindName lines) ∧ List.Forall₂ IsLineOf lines d.fields := by
  obtain ⟨lines, hl, all⟩ := lines_ok h
  refine ⟨lines, ?_, all⟩
  unfold write
  rw [hl]
  rfl

theorem isWord_kindName {d : Definition} (h : d.Writable) : IsWord d.kindName := by
  cases d with
  | window w => exact (by decide : IsWord "window")
  | light l => exact (by decide : IsWord "light")
  | sphere s => exact (by decide : IsWord "sphere")
  | bare => exact absurd h.2 id

end Definition

end LitSpheres
