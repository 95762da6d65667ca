/-
  Rendering by several workers, under any schedule.

  1. **Program** — all row tasks are under way at once and share one frame.  A step is a step of one
     task: its next point is shaded, and either its color is put into the frame or the task ends with
     the problem.  Which task makes the next step is left open; inside a task the points keep their
     order.

  2. **Specification** — whichever steps are made, in whichever order, once all tasks have ended the
     frame is the one that one task after another leaves, and the failure is that of the first row
     that has one.

  3. **The crux** — the strokes that a pool has still to make, painted onto its frame, give the same
     frame before and after a step, because a stroke may be made before others that agree with it.
     When nothing is left to be made, that frame is the frame of the pool.
-/
import LitSpheres.Proofs.Render.Serial

namespace LitSpheres

/-! ## Tasks under way -/

/-- What is left of a row task: the points that it has still to shade, and the problem if it has ended
    with one. -/
structure Work where
  pending : List CanvasPoint
  failure : Option ValueProblem

namespace Work

/-- A task that has not begun. -/
def ofPoints (points : List CanvasPoint) : Work := { pending := points, failure := none }

/-- The strokes that the task has still to make. -/
def strokes (s : Scene) (w : Work) : List Stroke := (Task.ofPoints s.shade w.pending).strokes

/-- The problem that the task has ended with or will end with. -/
def outcome (s : Scene) (w : Work) : Option ValueProblem :=
  w.failure.or (Task.ofPoints s.shade w.pending).failure

end Work

/-- The tasks of a rendering and the frame that they share. -/
structure Pool where
  frame : Frame
  tasks : List Work

namespace Pool

variable {s : Scene}

/-- The pool in which no task has begun, one for each row of the canvas. -/
def start (s : Scene) (frame : Frame) : Pool :=
  { frame, tasks := s.canvas.rows.map fun y => Work.ofPoints (s.canvas.row y) }

/-- One step of one of the tasks. -/
inductive Step (s : Scene) : Pool → Pool → Prop
  /-- The task shades its next point and puts the color into the frame. -/
  | paint {frame : Frame} {before after : List Work} {p : CanvasPoint} {ps : List CanvasPoint}
      {failure : Option ValueProblem} {color : Color} (shaded : s.shade p = .ok color) :
      Step s { frame, tasks := before ++ { pending := p :: ps, failure } :: after }
        { frame := frame.put s.canvas p color, tasks := before ++ { pending := ps, failure } :: after }
  /-- The task cannot shade its next point and ends. -/
  | stop {frame : Frame} {before after : List Work} {p : CanvasPoint} {ps : List CanvasPoint}
      {failure : Option ValueProblem} {problem : ValueProblem} (failed : s.shade p = .error problem) :
      Step s { frame, tasks := before ++ { pending := p :: ps, failure } :: after }
        { frame, tasks := before ++ { pending := [], failure := failure.or (some problem) } :: after }

/-- Any number of steps. -/
inductive Steps (s : Scene) : Pool → Pool → Prop
  | none {pool : Pool} : Steps s pool pool
  | more {a b c : Pool} (first : Step s a b) (others : Steps s b c) : Steps s a c

/-- All tasks have ended. -/
def Ended (pool : Pool) : Prop := ∀ w ∈ pool.tasks, w.pending = []

/-- The strokes that are still to be made, task by task. -/
def strokes (s : Scene) (pool : Pool) : List Stroke := pool.tasks.flatMap (Work.strokes s)

/-- The first failure in the order of the tasks, of those that were met and those that will be. -/
def outcome (s : Scene) (pool : Pool) : Option ValueProblem := pool.tasks.findSome? (Work.outcome s)

/-- What the caller of an ended pool gets: the frame, and of the failures that of the first row. -/
def rendering (pool : Pool) : Rendering Frame :=
  { frame := pool.frame, failure := pool.tasks.findSome? (·.failure) }

/-- The frame if the strokes that are still to be made were made now, and the failure that will be
    reported. -/
def forecast (s : Scene) (pool : Pool) : Rendering Frame :=
  { frame := pool.frame.paint s.canvas (pool.strokes s), failure := pool.outcome s }

/-! ## What a step keeps -/

theorem shade_of_mem_strokes {pool : Pool} {t : Stroke} (h : t ∈ pool.strokes s) :
    s.shade t.point = .ok t.color := by
  obtain ⟨w, -, ht⟩ := List.mem_flatMap.1 h
  exact Task.shade_of_mem_strokes ht

/-- A step does not change the size of the frame. -/
theorem Step.size_frame {a b : Pool} (h : Step s a b) : b.frame.size = a.frame.size := by
  cases h with
  | paint => exact Frame.size_put _ _ _ _
  | stop => rfl

/-- **A step does not change the forecast.** -/
theorem Step.forecast_eq {a b : Pool} (h : Step s a b) (fits : a.frame.size = s.canvas.frameSize) :
    b.forecast s = a.forecast s := by
  cases h with
  | @paint frame before after p ps failure color shaded =>
    have task := Task.ofPoints_cons_ok shaded ps
    -- the stroke of this step stands somewhere among the strokes to be made, and may be made first
    have moved : (strokes s { frame, tasks := before ++ { pending := p :: ps, failure } :: after }).Perm
        ({ point := p, color } ::
          strokes s { frame, tasks := before ++ { pending := ps, failure } :: after }) := by
      unfold strokes
      rw [List.flatMap_append, List.flatMap_append, List.flatMap_cons, List.flatMap_cons]
      unfold Work.strokes
      dsimp only
      rw [task]
      exact List.perm_middle
    have sameFrame := Frame.paint_perm fits moved
      (Scene.agree_of_shaded fun t ht => shade_of_mem_strokes ht)
    have sameFailure : outcome s { frame, tasks := before ++ { pending := p :: ps, failure } :: after } =
        outcome s { frame, tasks := before ++ { pending := ps, failure } :: after } := by
      unfold outcome Work.outcome
      rw [List.findSome?_append, List.findSome?_append, List.findSome?_cons, List.findSome?_cons]
      dsimp only
      rw [task]
    unfold forecast
    rw [sameFailure, sameFrame]
    rfl
  | @stop frame before after p ps failure problem failed =>
    -- the task makes no further stroke, and its failure was foreseen
    have task := Task.ofPoints_cons_error failed ps
    unfold forecast strokes outcome
    rw [List.flatMap_append, List.flatMap_append, List.flatMap_cons, List.flatMap_cons,
      List.findSome?_append, List.findSome?_append, List.findSome?_cons, List.findSome?_cons]
    unfold Work.strokes Work.outcome
    dsimp only
    rw [task, Task.ofPoints, Option.or_none]

/-- **No run changes the forecast**, whatever its steps and their order. -/
theorem Steps.forecast_eq {a b : Pool} (h : Steps s a b) (fits : a.frame.size = s.canvas.frameSize) :
    b.forecast s = a.forecast s := by
  induction h with
  | none => rfl
  | more first others ih =>
    rw [ih (first.size_frame.trans fits), first.forecast_eq fits]

/-! ## Ended pools -/

theorem findSome?_outcome_of_ended {ws : List Work} (h : ∀ w ∈ ws, w.pending = []) :
    ws.findSome? (Work.outcome s) = ws.findSome? (·.failure) := by
  induction ws with
  | nil => rfl
  | cons w ws ih =>
    have same : w.outcome s = w.failure := by
      unfold Work.outcome
      rw [h w List.mem_cons_self]
      exact Option.or_none
    rw [List.findSome?_cons, List.findSome?_cons, same, ih fun v hv => h v (List.mem_cons_of_mem w hv)]

/-- The forecast of an ended pool is what its caller gets. -/
theorem Ended.forecast_eq {pool : Pool} (h : pool.Ended) : pool.forecast s = pool.rendering := by
  have nothing : pool.strokes s = [] := by
    refine List.flatMap_eq_nil_iff.2 fun w hw => ?_
    unfold Work.strokes
    rw [h w hw]
    rfl
  unfold forecast outcome rendering
  rw [nothing, findSome?_outcome_of_ended h]
  rfl

/-- The number of points that are still to be shaded, or to be dropped by a task that fails. -/
def left (pool : Pool) : Nat := (pool.tasks.flatMap (·.pending)).length

/-- Every step takes one point at least, so no run goes on forever. -/
theorem Step.left_lt {a b : Pool} (h : Step s a b) : b.left < a.left := by
  cases h with
  | paint =>
    unfold left
    simp only [List.flatMap_append, List.flatMap_cons, List.length_append, List.length_cons]
    omega
  | stop =>
    unfold left
    simp only [List.flatMap_append, List.flatMap_cons, List.length_append, List.length_cons,
      List.length_nil]
    omega

/-- As long as a task has not ended, it can make a step. -/
theorem exists_step {a : Pool} (h : ¬ a.Ended) : ∃ b, Step s a b := by
  obtain ⟨w, hw⟩ := Classical.not_forall.1 h
  obtain ⟨mem, unfinished⟩ := Classical.not_imp.1 hw
  obtain ⟨frame, tasks⟩ := a
  obtain ⟨before, after, rfl⟩ := List.append_of_mem mem
  obtain ⟨pending, failure⟩ := w
  cases pending with
  | nil => exact absurd rfl unfinished
  | cons p ps =>
    cases hp : s.shade p with
    | ok color => exact ⟨_, .paint hp⟩
    | error problem => exact ⟨_, .stop hp⟩

/-- **Every pool can be run to its end.** -/
theorem exists_ended (s : Scene) (a : Pool) : ∃ b, Steps s a b ∧ b.Ended := by
  by_cases ended : a.Ended
  · exact ⟨a, .none, ended⟩
  · obtain ⟨b, first⟩ := exists_step (s := s) ended
    have shorter := first.left_lt
    obtain ⟨c, others, done⟩ := exists_ended s b
    exact ⟨c, .more first others, done⟩
  termination_by a.left

/-! ## The rendering of a pool -/

/-- Several workers paint all rows, up to where each fails, and report the first failure. -/
theorem foldl_addRow_parallel (ys : List Int) (r : Rendering Frame) :
    ys.foldl (Rendering.addRow s false) r =
      { frame := r.frame.paint s.canvas (ys.flatMap fun y => (s.task y).strokes)
        failure := r.failure.or (ys.findSome? fun y => (s.task y).failure) } := by
  induction ys generalizing r with
  | nil => simp
  | cons y ys ih =>
    rw [List.foldl_cons, ih, List.flatMap_cons, Frame.paint_append, List.findSome?_cons]
    unfold Rendering.addRow
    simp only [Bool.false_and, Bool.false_eq_true, if_false, Option.or_assoc]
    cases (s.task y).failure with
    | none => rfl
    | some problem => rfl

/-- **One task after another is as good as any schedule**: whatever run ends the pool, its frame and
    failure are those of painting the rows in order. -/
theorem rendering_eq_render {frame : Frame} (fits : frame.size = s.canvas.frameSize)
    {workers : Option Int} (several : isSerial workers = false) {pool : Pool}
    (run : Steps s (start s frame) pool) (ended : pool.Ended) : pool.rendering = s.render frame workers := by
  rw [← ended.forecast_eq (s := s), run.forecast_eq fits, Scene.render_of_fits (b := frame) fits, several,
    foldl_addRow_parallel]
  unfold forecast strokes outcome start
  rw [List.flatMap_map, List.findSome?_map]
  rfl

end Pool

/-! ## Renderings with any number of workers -/

namespace Scene

/-- What a rendering may leave: one worker leaves one thing; of several, whatever run they make decides.
    A frame of the wrong size is not worked on. -/
def Renders (s : Scene) (frame : Frame) (workers : Option Int) (r : Rendering Frame) : Prop :=
  if s.fits frame = true ∧ isSerial workers = false then
    ∃ pool, Pool.Steps s (Pool.start s frame) pool ∧ pool.Ended ∧ r = pool.rendering
  else r = s.render frame workers

/-- **The schedule leaves no trace.**  Whatever number of workers is asked for, there is a rendering; and
    whichever steps they make in whichever order, the frame is byte for byte the one that a single
    worker leaves, and nothing fails. -/
theorem renders_as_one_worker (s : Scene) (frame : Frame) (fits : frame.size = s.canvas.frameSize)
    (shades : s.Shades) (workers : Option Int) :
    (∃ r, s.Renders frame workers r) ∧
    ∀ r, s.Renders frame workers r →
      r.frame = (s.render frame (some 1)).frame ∧ r.failure = none := by
  have alone := shades.render_eq fits (some 1)
  have all := shades.render_eq fits workers
  unfold Renders
  split
  · next several =>
    obtain ⟨pool, run, ended⟩ := Pool.exists_ended s (Pool.start s frame)
    refine ⟨⟨_, pool, run, ended, rfl⟩, ?_⟩
    rintro r ⟨pool, run, ended, rfl⟩
    rw [Pool.rendering_eq_render fits several.2 run ended, all, alone]
    exact ⟨rfl, rfl⟩
  · refine ⟨⟨_, rfl⟩, ?_⟩
    rintro r rfl
    rw [all, alone]
    exact ⟨rfl, rfl⟩

/-- Two workers on the ball: whatever they do, they leave what one leaves. -/
theorem renders_as_one_worker_ball :
    (Frame.filled 24 7).size = ball.canvas.frameSize ∧ ball.Shades ∧
    ∀ r, ball.Renders (Frame.filled 24 7) (some 2) r →
      r.frame = (ball.render (Frame.filled 24 7) (some 1)).frame ∧ r.failure = none := by
  have fits : (Frame.filled 24 7).size = ball.canvas.frameSize := by decide
  have shades : ball.Shades := by decide +kernel
  exact ⟨fits, shades, (renders_as_one_worker ball (Frame.filled 24 7) fits shades (some 2)).2⟩

end Scene
end LitSpheres
