/-
  What a ray hits is the earliest of the nearest roots.

  1. **Program** — the crossings that count are collected sphere by sphere, and one pass keeps the nearer
     of two, the earlier one unless the later is strictly nearer.

  2. **Specification** — the candidates are the roots of all spheres in the order of their list, the far
     root of each before the near one, as far as they lie in the range.  A ray hits nothing exactly if
     there is no candidate; otherwise the hit is the first candidate that equals the least one.

  3. **The crux** — a candidate passed two comparisons, so it is a number.  Among numbers `¬ d < c` is
     `c ≤ d`, and the pass keeps two things: what it holds is at most every candidate seen so far, and
     strictly below those that came before it.
-/
import Mathlib.Data.List.Induction
import LitSpheres.Proofs.Binary64.Order
import LitSpheres.Scene

namespace LitSpheres

open Binary64

/-! ## One pass over crossings -/

namespace Crossing

/-- The crossing stands in the list, strictly before all earlier ones in space, and no later one is
    before it. -/
def EarliestOf (c : Crossing) (cs : List Crossing) : Prop :=
  ∃ before after, cs = before ++ c :: after ∧ (∀ e ∈ before, c.t < e.t) ∧ ∀ e ∈ after, c.t ≤ e.t

variable {c : Crossing} {cs : List Crossing}

theorem EarliestOf.least (h : c.EarliestOf cs) (number : isNumber c.t) : ∀ e ∈ cs, c.t ≤ e.t := by
  obtain ⟨before, after, rfl, earlier, later⟩ := h
  intro e he
  rcases List.mem_append.1 he with he | he
  · obtain ⟨hc, hd, below⟩ := lt_iff_level.1 (earlier e he)
    exact le_iff_level.2 ⟨hc, hd, Int.le_of_lt below⟩
  · rcases List.mem_cons.1 he with rfl | he
    · exact le_iff_level.2 ⟨number, number, Int.le_refl _⟩
    · exact later e he

/-- **What the pass keeps**, when one crossing more is looked at. -/
theorem EarliestOf.nearer (h : c.EarliestOf cs) {d : Crossing} (hc : isNumber c.t) (hd : isNumber d.t) :
    (c.nearer d).EarliestOf (cs ++ [d]) := by
  unfold Crossing.nearer
  by_cases closer : d.t < c.t
  · rw [if_pos closer]
    refine ⟨cs, [], rfl, fun e he => ?_, by simp⟩
    obtain ⟨-, hn, atMost⟩ := le_iff_level.1 (h.least hc e he)
    obtain ⟨-, -, below⟩ := lt_iff_level.1 closer
    exact lt_iff_level.2 ⟨hd, hn, Int.lt_of_lt_of_le below atMost⟩
  · rw [if_neg closer]
    obtain ⟨before, after, rfl, earlier, later⟩ := h
    have atMost : c.t ≤ d.t := le_of_not_lt hd hc closer
    refine ⟨before, after ++ [d], by simp, earlier, fun e he => ?_⟩
    rcases List.mem_append.1 he with he | he
    · exact later e he
    · rw [List.mem_singleton.1 he]
      exact atMost

/-- **The whole pass** ends with the earliest of the nearest crossings. -/
theorem earliestOf_foldl (numbers : ∀ e ∈ c :: cs, isNumber e.t) :
    (cs.foldl Crossing.nearer c).EarliestOf (c :: cs) := by
  induction cs using List.reverseRecOn with
  | nil => exact ⟨[], [], rfl, by simp, by simp⟩
  | append_singleton cs d ih =>
    have seen := ih fun e he => numbers e (List.mem_append_left [d] he)
    have held : isNumber (cs.foldl Crossing.nearer c).t := by
      obtain ⟨before, after, split, -, -⟩ := seen
      refine numbers _ (List.mem_append_left [d] (?_ : _ ∈ c :: cs))
      rw [split]
      exact List.mem_append_right before List.mem_cons_self
    rw [List.foldl_append]
    exact seen.nearer held (numbers d (List.mem_append_right (c :: cs) (List.mem_singleton_self d)))

theorem nearest?_eq_none_iff : nearest? cs = none ↔ cs = [] := by
  cases cs <;> simp [nearest?]

theorem earliestOf_of_nearest? (numbers : ∀ e ∈ cs, isNumber e.t) (h : nearest? cs = some c) :
    c.EarliestOf cs := by
  cases cs with
  | nil => exact absurd h (by simp [nearest?])
  | cons first others =>
    obtain rfl := Option.some.inj h
    exact earliestOf_foldl numbers

/-- The crossing without the position of its sphere. -/
def unplaced (c : Crossing) : Crossing := { c with index := 0 }

/-- The pass looks at `t` alone, so it may be made before or after other data is changed. -/
theorem nearest?_map (f : Crossing → Crossing) (same : ∀ c, (f c).t = c.t) (cs : List Crossing) :
    nearest? (cs.map f) = (nearest? cs).map f := by
  cases cs with
  | nil => rfl
  | cons first others =>
    refine congrArg some (?_ : (others.map f).foldl Crossing.nearer (f first) = _)
    rw [List.foldl_map]
    refine List.foldl_hom f fun c d => ?_
    unfold Crossing.nearer
    rw [same, same]
    split <;> rfl

end Crossing

/-- What is seen of a hit: all but the position of its sphere. -/
def Hit.seen (h : Hit) : Float × Vec3 Float × Vec3 Float × Sphere := (h.t, h.point, h.normal, h.sphere)

/-! ## Candidates -/

/-- The roots of a ray on a sphere, the far one first; there are none if it misses. -/
def Sphere.roots (sphere : Sphere) (camera direction : Vec3 Float) : List Float :=
  match sphere.intersect camera direction with
  | none => []
  | some (far, near) => [far, near]

namespace Scene

/-- The roots of all spheres in the order of their list. -/
def roots (s : Scene) (direction : Vec3 Float) : List Crossing :=
  s.spheres.zipIdx.flatMap fun (sphere, index) =>
    (sphere.roots s.camera direction).map fun t => { t, sphere, index }

/-- The roots that lie in the range. -/
def candidates (s : Scene) (direction : Vec3 Float) (span : Span) : List Crossing :=
  (s.roots direction).filter fun c => span.least ≤ c.t ∧ c.t ≤ span.greatest

variable {s : Scene} {direction : Vec3 Float} {span : Span} {c : Crossing}

/-- The crossings that the program collects are the candidates. -/
theorem crossings_eq (s : Scene) (direction : Vec3 Float) (span : Span) :
    s.crossings direction span = s.candidates direction span := by
  unfold crossings candidates roots
  rw [List.filter_flatMap]
  congr 1
  funext ⟨sphere, index⟩
  unfold Sphere.roots
  dsimp only
  cases sphere.intersect s.camera direction with
  | none => rfl
  | some both =>
    dsimp only
    rw [List.filter_map]
    refine congrArg (List.map _) (List.filter_congr fun t _ => ?_)
    simp [Span.holds]

theorem isNumber_of_mem_candidates (h : c ∈ s.candidates direction span) : isNumber c.t := by
  have inside := (List.mem_filter.1 h).2
  simp only [decide_eq_true_eq] at inside
  exact (le_iff_level.1 inside.1).2.1

/-- A candidate is a root of the sphere at its position. -/
theorem getElem?_of_mem_candidates (h : c ∈ s.candidates direction span) :
    s.spheres[c.index]? = some c.sphere := by
  obtain ⟨⟨sphere, index⟩, member, root⟩ := List.mem_flatMap.1 (List.mem_filter.1 h).1
  obtain ⟨t, -, rfl⟩ := List.mem_map.1 root
  exact List.mem_zipIdx_iff_getElem?.1 member

/-- Candidates are listed in the order of their spheres. -/
theorem pairwise_candidates (s : Scene) (direction : Vec3 Float) (span : Span) :
    (s.candidates direction span).Pairwise fun c d => c.index ≤ d.index := by
  unfold candidates roots
  refine List.Pairwise.filter _ (List.pairwise_flatMap.2 ⟨fun ⟨sphere, index⟩ _ => ?_, ?_⟩)
  · exact List.pairwise_map.2 (List.pairwise_of_forall fun _ _ => Nat.le_refl index)
  · rw [List.pairwise_iff_getElem]
    intro i j hi hj before c hc d hd
    simp only [List.getElem_zipIdx, List.mem_map] at hc hd
    obtain ⟨-, -, rfl⟩ := hc
    obtain ⟨-, -, rfl⟩ := hd
    dsimp only
    omega

theorem intersect_eq_none_iff : s.intersect direction span = none ↔ s.candidates direction span = [] := by
  unfold intersect
  rw [Option.map_eq_none_iff, Crossing.nearest?_eq_none_iff, crossings_eq]

/-- What is hit is the earliest of the nearest candidates. -/
theorem earliestOf_of_intersect {hit : Hit} (h : s.intersect direction span = some hit) :
    ∃ c : Crossing, c.EarliestOf (s.candidates direction span) ∧
      hit = { t := c.t, point := s.camera + direction.scale c.t
              normal := c.sphere.normalAt (s.camera + direction.scale c.t)
              sphere := c.sphere, index := c.index } := by
  unfold intersect at h
  obtain ⟨c, nearest, rfl⟩ := Option.map_eq_some_iff.1 h
  rw [crossings_eq] at nearest
  exact ⟨c, Crossing.earliestOf_of_nearest? (fun e => isNumber_of_mem_candidates) nearest, rfl⟩

/-! ## Spheres without candidates -/

/-- Whether a sphere has a root in the range. -/
def counts (s : Scene) (direction : Vec3 Float) (span : Span) (sphere : Sphere) : Bool :=
  (sphere.roots s.camera direction).any span.holds

/-- The scene without the spheres that have no root in the range. -/
def counting (s : Scene) (direction : Vec3 Float) (span : Span) : Scene :=
  { s with spheres := s.spheres.filter (s.counts direction span) }

/-- The candidates of one sphere, without its position. -/
def candidatesOf (s : Scene) (direction : Vec3 Float) (span : Span) (sphere : Sphere) : List Crossing :=
  ((sphere.roots s.camera direction).filter span.holds).map fun t => { t, sphere, index := 0 }

theorem map_candidates (s : Scene) (direction : Vec3 Float) (span : Span) :
    (s.candidates direction span).map Crossing.unplaced =
      s.spheres.flatMap (s.candidatesOf direction span) := by
  unfold candidates roots
  rw [List.filter_flatMap, List.map_flatMap]
  have spheres : s.spheres = s.spheres.zipIdx.map Prod.fst := by simp
  conv_rhs => rw [spheres, List.flatMap_map]
  congr 1
  funext ⟨sphere, index⟩
  unfold candidatesOf
  rw [List.filter_map, List.map_map]
  refine congrArg (List.map _) (List.filter_congr fun t _ => ?_)
  simp [Span.holds]

theorem candidatesOf_eq_nil {sphere : Sphere} (h : ¬ s.counts direction span sphere) :
    s.candidatesOf direction span sphere = [] := by
  unfold candidatesOf
  rw [List.map_eq_nil_iff, List.filter_eq_nil_iff]
  exact fun t ht held => h (List.any_eq_true.2 ⟨t, ht, held⟩)

/-- Spheres without a root in the range leave the candidates as they are. -/
theorem map_candidates_counting (s : Scene) (direction : Vec3 Float) (span : Span) :
    ((s.counting direction span).candidates direction span).map Crossing.unplaced =
      (s.candidates direction span).map Crossing.unplaced := by
  rw [map_candidates, map_candidates]
  show (s.spheres.filter (s.counts direction span)).flatMap (s.candidatesOf direction span) = _
  induction s.spheres with
  | nil => rfl
  | cons sphere others ih =>
    by_cases h : s.counts direction span sphere
    · rw [List.filter_cons_of_pos h, List.flatMap_cons, List.flatMap_cons, ih]
    · rw [List.filter_cons_of_neg h, List.flatMap_cons, candidatesOf_eq_nil h, ih, List.nil_append]

/-- Spheres without a root in the range change nothing but the positions of the others. -/
theorem seen_intersect_counting (s : Scene) (direction : Vec3 Float) (span : Span) :
    ((s.counting direction span).intersect direction span).map Hit.seen =
      (s.intersect direction span).map Hit.seen := by
  have nearest :
      (Crossing.nearest? ((s.counting direction span).candidates direction span)).map Crossing.unplaced =
        (Crossing.nearest? (s.candidates direction span)).map Crossing.unplaced := by
    rw [← Crossing.nearest?_map Crossing.unplaced fun _ => rfl,
      ← Crossing.nearest?_map Crossing.unplaced fun _ => rfl, map_candidates_counting]
  -- all that is seen of a hit comes from its crossing, without the position
  have view (t : Scene) (camera : t.camera = s.camera) :
      (t.intersect direction span).map Hit.seen =
        ((Crossing.nearest? (t.candidates direction span)).map Crossing.unplaced).map
          fun c => (c.t, s.camera + direction.scale c.t,
            c.sphere.normalAt (s.camera + direction.scale c.t), c.sphere) := by
    unfold intersect
    rw [crossings_eq, Option.map_map, Option.map_map, ← camera]
    rfl
  rw [view s rfl, view (s.counting direction span) rfl, nearest]

/-! ## The hit -/

/-- **A ray hits the first of its nearest candidates.**  It hits nothing exactly if there is none.  The hit
    is made of a candidate that is at most every candidate, and equal to none that is listed before it,
    so of several equal ones the sphere that is listed first is hit.  Spheres that have no root in the
    range, or none that is a number, could as well be missing. -/
theorem intersect_earliest (s : Scene) (direction : Vec3 Float) (span : Span) :
    (s.intersect direction span = none ↔ s.candidates direction span = []) ∧
    (∀ hit, s.intersect direction span = some hit →
      ∃ before c after, s.candidates direction span = before ++ c :: after ∧
        hit = { t := c.t, point := s.camera + direction.scale c.t
                normal := c.sphere.normalAt (s.camera + direction.scale c.t)
                sphere := c.sphere, index := c.index } ∧
        s.spheres[c.index]? = some c.sphere ∧
        (∀ e ∈ s.candidates direction span, c.t ≤ e.t) ∧
        (∀ e ∈ before, ¬ e.t == c.t) ∧
        ∀ e ∈ s.candidates direction span, e.t == c.t → c.index ≤ e.index) ∧
    ((s.counting direction span).intersect direction span).map Hit.seen =
      (s.intersect direction span).map Hit.seen := by
  refine ⟨intersect_eq_none_iff, fun hit h => ?_, seen_intersect_counting s direction span⟩
  obtain ⟨c, earliest, made⟩ := earliestOf_of_intersect h
  obtain ⟨before, after, split, earlier, -⟩ := id earliest
  have member : c ∈ s.candidates direction span := by
    rw [split]
    exact List.mem_append_right before List.mem_cons_self
  have distinct : ∀ e ∈ before, ¬ e.t == c.t := by
    intro e he same
    obtain ⟨-, -, below⟩ := lt_iff_level.1 (earlier e he)
    obtain ⟨-, -, equal⟩ := beq_iff_level.1 same
    omega
  refine ⟨before, c, after, split, made, getElem?_of_mem_candidates member,
    earliest.least (isNumber_of_mem_candidates member), distinct, fun e he same => ?_⟩
  -- an equal candidate is not listed before, and what is listed behind has no lower position
  rw [split] at he
  rcases List.mem_append.1 he with he | he
  · exact absurd same (distinct e he)
  · rcases List.mem_cons.1 he with rfl | he
    · exact Nat.le_refl _
    · have ordered := pairwise_candidates s direction span
      rw [split, List.pairwise_append] at ordered
      exact List.rel_of_pairwise_cons ordered.2.1 he

/-- A ball on the axis. -/
def ballAt (z : Float) (color : Color) : Sphere :=
  { center := ⟨0, 0, z⟩, radius := 2, color, radius_pos := by decide }

/-- Two balls in the same place, behind one that the camera has passed. -/
def twins : Scene :=
  { canvas := { width := 5, height := 4 }
    spheres := [ballAt (-5) .pureRed, ballAt 5 .pureGreen, ballAt 5 .pureBlue]
    lights := []
    viewport := .unit
    background := .white
    title := "Twins"
    camera := .origin }

theorem intersect_earliest_twins :
    ∃ hit, twins.intersect ⟨0, 0, 1⟩ {} = some hit ∧ hit.index = 1 ∧
      ∀ e ∈ twins.candidates ⟨0, 0, 1⟩ {}, hit.t ≤ e.t ∧ (e.t == hit.t → hit.index ≤ e.index) := by
  obtain ⟨hit, found⟩ : ∃ hit, twins.intersect ⟨0, 0, 1⟩ {} = some hit :=
    Option.isSome_iff_exists.1 (by decide +kernel)
  have index : (twins.intersect ⟨0, 0, 1⟩ {}).map Hit.index = some 1 := by decide +kernel
  obtain ⟨-, hits, -⟩ := intersect_earliest twins ⟨0, 0, 1⟩ {}
  obtain ⟨before, c, after, -, rfl, -, least, -, ties⟩ := hits hit found
  rw [found] at index
  exact ⟨_, found, Option.some.inj index, fun e he => ⟨least e he, ties e he⟩⟩

end Scene
end LitSpheres
