/-
The worker tasks of the engine: counting them by where they stand, spawning
them, and the single thread of the event loop.
-/

import BatchInference.EngineSteps

set_option autoImplicit false

namespace BatchInference

theorem Loc.eq_done {loc : Loc} (ended : loc.isDone = true) : loc = .done := by
  cases loc with
  | done => rfl
  | _ => cases ended

theorem Loc.eq_waiting {loc : Loc} (waits : loc.isWaiting = true) : loc = .waiting := by
  cases loc with
  | waiting => rfl
  | _ => cases waits

namespace Engine

/-- How many workers stand at a place that passes the test. -/
def count (test : Loc → Bool) (e : Engine) : Nat := e.workers.count (fun w => test w.loc)

/-- The tasks that are not done. -/
def live (e : Engine) : Nat := e.count (fun loc => !loc.isDone)

/-- The number of tasks that `ensureWorkers` creates. -/
def missing (p : Params) (e : Engine) : Nat :=
  (min p.settings.workerPoolSize (max 1 e.scheduler.pending) - e.live).toNat

/-- A stretch of worker code leaves every record but its own worker's alone. -/
theorem WorkStep.workers {p : Params} {e g : Engine} {task : TaskId} {w : Worker}
    {action : Action} {loc : Loc} {emitted : List Event}
    (work : WorkStep p e task w action g loc emitted) :
    g.workers = e.workers ∧ g.nextTask = e.nextTask := by
  cases work with
  | recorded => simp
  | _ => exact ⟨rfl, rfl⟩

/-- The moved worker is counted at its new place instead of its old one. -/
theorem count_moveTo (test : Loc → Bool) {e g : Engine} (task : TaskId) {w : Worker}
    (flag : Bool) (loc : Loc) (same : g.workers = e.workers)
    (found : e.workers.get? task = some w) :
    (g.moveTo task
          { w with cancelRequested := flag } loc).count test + (if test w.loc then 1 else 0) =
      e.count test + if test loc then 1 else 0 := by
  unfold moveTo count
  rw [same]
  exact Dict.count_set_of_get?_some _ _ _ found

theorem get?_moveTo (e : Engine) (task other : TaskId) (w : Worker) (loc : Loc) :
    (e.moveTo task w loc).workers.get? other =
      if other = task then some
        { w with loc := loc }
      else e.workers.get? other :=
  Dict.get?_set _ _ _ _

/-! ### Spawning -/

/-- Every task has an identity below the next free one. -/
def TasksNumbered (e : Engine) : Prop :=
  ∀ (task : Nat) w, e.workers.get? task = some w → task < e.nextTask

private theorem get?_next {e : Engine} (numbered : e.TasksNumbered) :
    e.workers.get? e.nextTask = none := by
  rw [Option.eq_none_iff_forall_ne_some]
  intro w found
  exact lt_irrefl _ (numbered e.nextTask w found)

theorem spawn_spec (amount : Nat) (e : Engine) (numbered : e.TasksNumbered) :
    (spawn amount e).TasksNumbered ∧
      (∀ test, (spawn amount e).count test =
        e.count test + if test .created then amount else 0) ∧
      ∀ (task : Nat) w, (spawn amount e).workers.get? task = some w ↔
        e.workers.get? task = some w ∨
          e.nextTask ≤ task ∧ task < e.nextTask + amount ∧ w = { loc := .created } := by
  induction amount generalizing e with
  | zero =>
      refine ⟨numbered, fun test => ?_, fun task w => ?_⟩
      · simp [spawn]
      · simp only [spawn, add_zero]
        constructor
        · exact Or.inl
        · rintro (found | ⟨lower, upper, _⟩)
          · exact found
          · omega
  | succ amount ih =>
      have absent := get?_next numbered
      have more : TasksNumbered
          { e with
            workers := e.workers.set e.nextTask { loc := .created }
            nextTask := e.nextTask + 1 } := by
        intro task w found
        simp only [Dict.get?_set] at found
        by_cases new : task = e.nextTask
        · simp only
          omega
        · rw [if_neg new] at found
          exact Nat.lt_succ_of_lt (numbered task w found)
      rcases ih _ more with ⟨numberedAfter, counts, tasks⟩
      refine ⟨numberedAfter, fun test => ?_, fun task w => ?_⟩
      · have one := Dict.count_set_of_get?_none (fun w => test w.loc) e.workers
          { loc := .created } absent
        have rest := counts test
        unfold count at rest ⊢
        rw [one] at rest
        simp only [spawn, rest]
        split <;> omega
      · simp only [spawn]
        rw [tasks task w]
        simp only [Dict.get?_set]
        by_cases new : task = e.nextTask
        · subst new
          simp only [if_true, Option.some.injEq, absent, reduceCtorEq, false_or, eq_comm]
          constructor
          · rintro (same | ⟨lower, _⟩)
            · exact ⟨le_refl _, by omega, same⟩
            · omega
          · rintro ⟨_, _, same⟩
            exact Or.inl same
        · rw [if_neg new]
          constructor
          · rintro (found | ⟨lower, upper, same⟩)
            · exact Or.inl found
            · exact Or.inr ⟨by omega, by omega, same⟩
          · rintro (found | ⟨lower, upper, same⟩)
            · exact Or.inl found
            · exact Or.inr ⟨by omega, by omega, same⟩

/-- Filling the pool forgets finished tasks and adds new ones. -/
theorem ensureWorkers_spec (p : Params) (e : Engine) (numbered : e.TasksNumbered) :
    (ensureWorkers p e).TasksNumbered ∧
      (∀ test, test .done = false → (ensureWorkers p e).count test =
        e.count test + if test .created then e.missing p else 0) ∧
      ∀ (task : Nat) w, (ensureWorkers p e).workers.get? task = some w ↔
        e.workers.get? task = some w ∧ w.loc.isDone = false ∨
          e.nextTask ≤ task ∧ task < e.nextTask + e.missing p ∧ w = { loc := .created } := by
  have kept : ∀ task w,
      (e.workers.keep (fun _ w => !w.loc.isDone)).get? task = some w ↔
        e.workers.get? task = some w ∧ w.loc.isDone = false := by
    intro task w
    rw [Dict.get?_keep, Option.filter_eq_some_iff, Bool.not_eq_true']
  have numberedKept : TasksNumbered
      { e with workers := e.workers.keep (fun _ w => !w.loc.isDone) } :=
    fun task w found => numbered task w ((kept task w).mp found).1
  have size : (e.workers.keep (fun _ w => !w.loc.isDone)).size = e.live :=
    Dict.size_keep (fun w => !w.loc.isDone) e.workers
  unfold ensureWorkers
  simp only [size]
  rcases spawn_spec (e.missing p) _ numberedKept with ⟨numberedAfter, counts, tasks⟩
  refine ⟨numberedAfter, fun test ended => ?_, fun task w => ?_⟩
  · have same : (e.workers.keep (fun _ w => !w.loc.isDone)).count (fun w => test w.loc) =
        e.count test := by
      apply Dict.count_keep
      intro _ w out
      have isDone : w.loc.isDone = true := by simpa using out
      rw [Loc.eq_done isDone]
      exact ended
    rw [← same]
    exact counts test
  · rw [← kept]
    exact tasks task w

/-- The tasks after an admitted submission: the finished ones are forgotten and
the pool is filled for the longer queue. -/
theorem register_spec (p : Params) (prompts : List PromptItem) (priority : Priority)
    (key : Option String) (newId : JobId) (e : Engine) (numbered : e.TasksNumbered) :
    ∃ added : Nat,
      (added : Int) = max 0 (min p.settings.workerPoolSize
        (max 1 (e.scheduler.pending + prompts.length)) - e.live) ∧
      (e.register p prompts priority key newId).TasksNumbered ∧
      (∀ test, test .done = false →
        (e.register p prompts priority key newId).count test =
          e.count test + if test .created then added else 0) ∧
      ∀ (task : Nat) w,
        (e.register p prompts priority key newId).workers.get? task = some w ↔
          e.workers.get? task = some w ∧ w.loc.isDone = false ∨
            e.nextTask ≤ task ∧ task < e.nextTask + added ∧ w = { loc := .created } := by
  unfold register
  simp only
  generalize queued : refreshGauges _ = g
  have sameWorkers : g.workers = e.workers := by
    rw [← queued]
    rfl
  have sameNext : g.nextTask = e.nextTask := by
    rw [← queued]
    rfl
  have pending : g.scheduler.pending = e.scheduler.pending + prompts.length := by
    rw [← queued]
    simp [FairScheduler.addJob, workItems]
  have sameLive : g.live = e.live := by
    unfold live count
    rw [sameWorkers]
  have numberedNow : g.TasksNumbered := by
    intro task w found
    rw [sameNext]
    rw [sameWorkers] at found
    exact numbered task w found
  rcases ensureWorkers_spec p g numberedNow with ⟨numberedAfter, counts, tasks⟩
  refine ⟨g.missing p, ?_, numberedAfter, ?_, ?_⟩
  · unfold missing
    rw [pending, sameLive]
    omega
  · intro test ended
    rw [counts test ended]
    unfold count
    rw [sameWorkers]
  · intro task w
    rw [tasks task w, sameWorkers, sameNext]

/-- Every new task adds what a task has at its start. -/
theorem total_spawn_add {M : Type} [AddCommMonoid M] (amount : Loc → M) (number : Nat) (e : Engine)
    (numbered : e.TasksNumbered) :
    (spawn number e).workers.total (fun _ w => amount w.loc) =
      e.workers.total (fun _ w => amount w.loc) + number • amount .created := by
  induction number generalizing e with
  | zero => rw [zero_nsmul, add_zero, spawn]
  | succ number ih =>
      have one := Dict.total_set_of_get?_none (fun _ w => amount w.loc) e.workers
        { loc := .created } (get?_next numbered)
      rw [succ_nsmul', ← add_assoc, ← one]
      apply ih
      intro task w found
      simp only [Dict.get?_set] at found
      by_cases new : task = e.nextTask
      · simp only
        omega
      · rw [if_neg new] at found
        exact Nat.lt_succ_of_lt (numbered task w found)

/-- What new and finished tasks do not have is the same in sum after spawning. -/
theorem total_spawn {M : Type} [AddCommMonoid M] (amount : Loc → M) (created : amount .created = 0)
    (number : Nat) (e : Engine) (numbered : e.TasksNumbered) :
    (spawn number e).workers.total (fun _ w => amount w.loc) =
      e.workers.total (fun _ w => amount w.loc) := by
  rw [total_spawn_add amount number e numbered, created, nsmul_zero, add_zero]

/-- Forgetting the finished tasks keeps the sums to which they do not contribute. -/
theorem total_live {M : Type} [AddCommMonoid M] (amount : Loc → M) (ended : amount .done = 0)
    (e : Engine) :
    (e.workers.keep (fun _ w => !w.loc.isDone)).total (fun _ w => amount w.loc) =
      e.workers.total (fun _ w => amount w.loc) := by
  apply Dict.total_keep
  intro _ w _ out
  have isDone : w.loc.isDone = true := by simpa using out
  rw [Loc.eq_done isDone]
  exact ended

theorem TasksNumbered.live {e : Engine} (numbered : e.TasksNumbered) :
    TasksNumbered { e with workers := e.workers.keep (fun _ w => !w.loc.isDone) } := by
  intro task w found
  rw [Dict.get?_keep, Option.filter_eq_some_iff] at found
  exact numbered task w found.1

theorem total_register {M : Type} [AddCommMonoid M] (amount : Loc → M)
    (created : amount .created = 0) (ended : amount .done = 0) (p : Params)
    (prompts : List PromptItem) (priority : Priority) (key : Option String) (newId : JobId)
    (e : Engine) (numbered : e.TasksNumbered) :
    (e.register p prompts priority key newId).workers.total (fun _ w => amount w.loc) =
      e.workers.total (fun _ w => amount w.loc) := by
  rw [← total_live amount ended e]
  unfold register ensureWorkers
  exact total_spawn amount created _ _ numbered.live

/-- An admitted submission adds no more tasks than the pool has. -/
theorem total_register_add (amount : Loc → Nat) (ended : amount .done = 0) (p : Params)
    (prompts : List PromptItem) (priority : Priority) (key : Option String) (newId : JobId)
    (e : Engine) (numbered : e.TasksNumbered) :
    (e.register p prompts priority key newId).workers.total (fun _ w => amount w.loc) ≤
      e.workers.total (fun _ w => amount w.loc) +
        p.settings.workerPoolSize.toNat * amount .created := by
  rw [← total_live amount ended e]
  unfold register ensureWorkers
  refine le_trans (le_of_eq (total_spawn_add amount _ _ numbered.live)) ?_
  refine Nat.add_le_add_left (Nat.mul_le_mul_right (amount .created) ?_) _
  omega

/-! ### The event loop -/

theorem atAwait_iff (e : Engine) :
    e.atAwait = true ↔ ∀ task w, e.workers.get? task = some w → w.loc.running = false := by
  unfold atAwait
  rw [List.all_eq_true]
  constructor
  · intro quiet task w found
    have idle := quiet w ((e.workers.mem_values_iff w).mpr ⟨task, found⟩)
    simpa using idle
  · intro idle w member
    rcases (e.workers.mem_values_iff w).mp member with ⟨task, found⟩
    rw [idle task w found]
    rfl

theorem count_of_atAwait {e : Engine} (quiet : e.atAwait = true) (test : Loc → Bool)
    (inside : ∀ loc, test loc = true → loc.running = true) : e.count test = 0 := by
  apply Dict.count_eq_zero
  intro task w found
  have idle := (e.atAwait_iff.mp quiet) task w found
  cases passed : test w.loc with
  | false => rfl
  | true =>
      rw [inside _ passed] at idle
      cases idle

/-- The numbering of the tasks and the single thread: at most one worker is
inside a stretch of code. -/
structure EventLoop (e : Engine) : Prop where
  numbered : e.TasksNumbered
  alone : e.count Loc.running ≤ 1

/-- The locations of the workers survive the step. -/
private theorem eventLoop_of_same {e e' : Engine} (loop : e.EventLoop)
    (workers : e'.workers = e.workers) (next : e'.nextTask = e.nextTask) : e'.EventLoop where
  numbered := by
    intro task w found
    rw [workers] at found
    rw [next]
    exact loop.numbered task w found
  alone := by
    unfold count
    rw [workers]
    exact loop.alone

private theorem moveTo_numbered {e g : Engine} {task : TaskId} {w : Worker} (w' : Worker)
    (loc : Loc) (numbered : e.TasksNumbered) (workers : g.workers = e.workers)
    (next : g.nextTask = e.nextTask) (found : e.workers.get? task = some w) :
    (g.moveTo task w' loc).TasksNumbered := by
  intro other w'' read
  rw [get?_moveTo] at read
  change other < g.nextTask
  rw [next]
  by_cases same : other = task
  · subst same
    exact numbered other w found
  · rw [if_neg same, workers] at read
    exact numbered other w'' read

/-- A stretch of code starts when no other one is going on, or continues one. -/
private theorem WorkStep.resumes {p : Params} {e g : Engine} {task : TaskId} {w : Worker}
    {action : Action} {loc : Loc} {emitted : List Event}
    (work : WorkStep p e task w action g loc emitted) :
    w.loc.running = true ∨ e.atAwait = true := by
  cases work with
  | started at_ quiet => exact Or.inr quiet
  | woken at_ quiet marked => exact Or.inr quiet
  | granted at_ free => exact Or.inl (by rw [at_]; rfl)
  | slept at_ full => exact Or.inl (by rw [at_]; rfl)
  | drained at_ scheduler popped => exact Or.inl (by rw [at_]; rfl)
  | skipped at_ scheduler jobId item popped gone => exact Or.inl (by rw [at_]; rfl)
  | taken at_ scheduler jobId item job popped found alive => exact Or.inl (by rw [at_]; rfl)
  | called f at_ bucket grant => exact Or.inl (by rw [at_]; rfl)
  | throttled f at_ bucket seconds refused => exact Or.inl (by rw [at_]; rfl)
  | tokenWoken f seconds at_ quiet => exact Or.inr quiet
  | suspended f at_ => exact Or.inl (by rw [at_]; rfl)
  | retried f before at_ alone reply jitter seconds settled =>
      cases before with
      | false => exact Or.inl (by rw [at_]; rfl)
      | true => exact Or.inr (alone rfl)
  | recorded f before at_ alone reply jitter result cost credited exhausted settled =>
      cases before with
      | false => exact Or.inl (by rw [at_]; rfl)
      | true => exact Or.inr (alone rfl)
  | lost f before at_ alone reply jitter credited settled =>
      cases before with
      | false => exact Or.inl (by rw [at_]; rfl)
      | true => exact Or.inr (alone rfl)
  | callCancelled f before at_ alone reply jitter settled =>
      cases before with
      | false => exact Or.inl (by rw [at_]; rfl)
      | true => exact Or.inr (alone rfl)
  | backoffEnded f seconds at_ quiet => exact Or.inr quiet
  | left again at_ => exact Or.inl (by rw [at_]; rfl)
  | killed at_ requested quiet => exact Or.inr quiet
  | gaveUp at_ requested quiet => exact Or.inr quiet
  | sleepCancelled f seconds at_ requested quiet => exact Or.inr quiet

theorem Step.eventLoop {p : Params} {e e' : Engine} {label : Label} {emitted : List Event}
    (loop : e.EventLoop) (step : Step p e label e' emitted) : e'.EventLoop := by
  cases step with
  | tick loopTime wallTime later => exact eventLoop_of_same loop rfl rfl
  | unchanged label serves => exact loop
  | submitted label prompts priority key newId requested quiet named fresh =>
      rcases submit_cases p prompts priority key newId e with ⟨⟨_, _, same⟩, _⟩ | admitted
      · rw [same]
        exact eventLoop_of_same loop rfl rfl
      · rw [admitted.2.2.2.2]
        rcases register_spec p prompts priority key newId e loop.numbered with
          ⟨added, _, numbered, counts, _⟩
        refine { numbered := numbered, alone := ?_ }
        simp only [counts Loc.running rfl, Loc.running, Bool.false_eq_true, if_false, add_zero]
        exact loop.alone
  | cancelled jobId job quiet found unfinished => exact eventLoop_of_same loop rfl rfl
  | worked task action w g flag loc emitted found lowered work =>
      rcases work.workers with ⟨workers, next⟩
      refine
        { numbered := moveTo_numbered _ loc loop.numbered workers next found
          alone := ?_ }
      have moved := count_moveTo Loc.running task flag loc workers found
      have atMost : (if loc.running = true then 1 else 0) ≤ 1 := by split <;> omega
      rcases work.resumes with inside | quiet
      · have alone := loop.alone
        rw [if_pos inside] at moved
        omega
      · have idle := count_of_atAwait quiet Loc.running (fun _ inside => inside)
        omega
  | shutdownStarted quiet phase => exact eventLoop_of_same loop rfl rfl
  | graceExpired quiet phase =>
      constructor
      · intro task w found
        unfold requestCancels at found
        simp only [Dict.get?_mapValues, Option.map_eq_some_iff] at found
        rcases found with ⟨old, read, _⟩
        exact loop.numbered task old read
      · unfold count requestCancels
        rw [Dict.count_mapValues]
        exact loop.alone
  | shutdownReturned ended phase =>
      exact eventLoop_of_same loop (interruptJobs_frame e).2.2.1 (interruptJobs_frame e).2.2.2.1

theorem reachable_eventLoop {p : Params} {ok : Engine → Label → Engine → Prop}
    {events : List Event} {e : Engine} (run : (engineMachine p).Reaches ok events e) :
    e.EventLoop := by
  refine Machine.Run.invariant run (fun _ e => e.EventLoop) ?_ ?_
  · exact
      { numbered := fun _ _ impossible => by cases impossible
        alone := Nat.zero_le 1 }
  · intro _ _ _ _ _ loop _ stepped
    exact (step_cases stepped).eventLoop loop

/-- The induction rule for runs of the engine: one step at a time, with what the
event loop guarantees at hand. -/
theorem run_invariant {p : Params} {ok : Engine → Label → Engine → Prop}
    {events : List Event} {e : Engine} (run : (engineMachine p).Reaches ok events e)
    (holds : List Event → Engine → Prop) (start : holds [] (Engine.new p))
    (next : ∀ {events emitted : List Event} {e e' : Engine} {label : Label},
      holds events e → e.EventLoop → ok e label e' → Step p e label e' emitted →
        holds (events ++ emitted) e') :
    holds events e := by
  have both : holds events e ∧ e.EventLoop := by
    refine Machine.Run.invariant run (fun events e => holds events e ∧ e.EventLoop) ?_ ?_
    · exact ⟨start, @reachable_eventLoop p ok _ _ .refl⟩
    · intro _ _ _ _ _ before admissible stepped
      have step := step_cases stepped
      exact ⟨next before.1 before.2 admissible step, step.eventLoop before.2⟩
  exact both.1

theorem others_idle {e : Engine} (loop : e.EventLoop) {task other : TaskId} {w w' : Worker}
    (found : e.workers.get? task = some w) (inside : w.loc.running = true)
    (found' : e.workers.get? other = some w') (different : other ≠ task) :
    w'.loc.running = false := by
  have alone := loop.alone
  unfold count at alone
  have rest := Dict.count_erase_of_get?_some (fun w => w.loc.running) e.workers found
  rw [if_pos inside] at rest
  cases running : w'.loc.running with
  | false => rfl
  | true =>
      have remaining : (e.workers.erase task).get? other = some w' := by
        rw [Dict.get?_erase, if_neg different]
        exact found'
      have second := Dict.count_pos (fun w => w.loc.running) _ remaining running
      omega

/-- A stretch of worker code finds every other worker suspended. -/
theorem WorkStep.others_idle {p : Params} {e g : Engine} {task other : TaskId} {w w' : Worker}
    {action : Action} {loc : Loc} {emitted : List Event} (loop : e.EventLoop)
    (work : WorkStep p e task w action g loc emitted) (found : e.workers.get? task = some w)
    (found' : e.workers.get? other = some w') (different : other ≠ task) :
    w'.loc.running = false := by
  rcases work.resumes with inside | quiet
  · exact Engine.others_idle loop found inside found' different
  · exact e.atAwait_iff.mp quiet other w' found'

/-! ### Before shutdown -/

/-- The label is not a call of `shutdown`. -/
def BeforeShutdown : Label → Prop
  | .shutdown => False
  | _ => True

def isShutdown : Label → Bool
  | .shutdown => true
  | _ => false

theorem beforeShutdown_of_check {label : Label} (checked : (!isShutdown label) = true) :
    BeforeShutdown label := by
  cases label with
  | shutdown => cases checked
  | _ => trivial

/-- The engine accepts submissions and no worker has been cancelled. -/
structure Serving (e : Engine) : Prop where
  accepting : e.accepting = true
  phase : e.shutdownPhase = .notStarted
  uncancelled : ∀ task w, e.workers.get? task = some w → w.cancelRequested = false

theorem WorkStep.phase {p : Params} {e g : Engine} {task : TaskId} {w : Worker}
    {action : Action} {loc : Loc} {emitted : List Event}
    (work : WorkStep p e task w action g loc emitted) :
    g.accepting = e.accepting ∧ g.shutdownPhase = e.shutdownPhase := by
  cases work with
  | recorded => simp
  | _ => exact ⟨rfl, rfl⟩

theorem register_phase (p : Params) (prompts : List PromptItem) (priority : Priority)
    (key : Option String) (newId : JobId) (e : Engine) :
    (e.register p prompts priority key newId).accepting = e.accepting ∧
      (e.register p prompts priority key newId).shutdownPhase = e.shutdownPhase := by
  simp only [register_frame, and_self]

/-- Without a call of `shutdown` the engine goes on serving. -/
theorem Step.serving {p : Params} {e e' : Engine} {label : Label} {emitted : List Event}
    (loop : e.EventLoop) (serving : e.Serving) (before : BeforeShutdown label)
    (step : Step p e label e' emitted) : e'.Serving ∧ Serves label := by
  rcases serving with ⟨accepting, phase, uncancelled⟩
  cases step with
  | tick loopTime wallTime later =>
      exact ⟨⟨accepting, phase, uncancelled⟩, trivial⟩
  | unchanged label serves => exact ⟨⟨accepting, phase, uncancelled⟩, serves⟩
  | submitted label prompts priority key newId requested quiet named fresh =>
      have serves : Serves label := by
        cases requested with
        | submit => trivial
        | replay => trivial
      rcases submit_cases p prompts priority key newId e with ⟨⟨_, _, same⟩, _⟩ | admitted
      · rw [same]
        exact ⟨⟨accepting, phase, uncancelled⟩, serves⟩
      · rw [admitted.2.2.2.2]
        rcases register_phase p prompts priority key newId e with ⟨sameAccepting, samePhase⟩
        rcases register_spec p prompts priority key newId e loop.numbered with
          ⟨_, _, _, _, tasks⟩
        refine ⟨⟨sameAccepting.trans accepting, samePhase.trans phase, ?_⟩, serves⟩
        intro task w found
        rcases (tasks task w).mp found with ⟨known, _⟩ | ⟨_, _, rfl⟩
        · exact uncancelled task w known
        · rfl
  | cancelled jobId job quiet found unfinished =>
      exact ⟨⟨accepting, phase, uncancelled⟩, trivial⟩
  | worked task action w g flag loc emitted found lowered work =>
      rcases work.phase with ⟨sameAccepting, samePhase⟩
      have unrequested := uncancelled task w found
      refine ⟨⟨sameAccepting.trans accepting, samePhase.trans phase, ?_⟩, ?_⟩
      · intro other w' read
        rw [get?_moveTo] at read
        by_cases mine : other = task
        · rw [if_pos mine, Option.some.injEq] at read
          rw [← read]
          cases flag with
          | false => rfl
          | true => exact (lowered rfl).symm.trans unrequested
        · rw [if_neg mine, work.workers.1] at read
          exact uncancelled other w' read
      · cases work with
        | killed at_ requested quiet =>
            rw [unrequested] at requested
            cases requested
        | gaveUp at_ requested quiet =>
            rw [unrequested] at requested
            cases requested
        | sleepCancelled f seconds at_ requested quiet =>
            rw [unrequested] at requested
            cases requested
        | _ => trivial
  | shutdownStarted quiet started => cases before
  | graceExpired quiet draining =>
      rw [phase] at draining
      cases draining
  | shutdownReturned ended draining =>
      rw [phase] at draining
      rcases draining with impossible | impossible
      · cases impossible
      · cases impossible

/-- The induction rule for runs before shutdown. -/
theorem serving_invariant {p : Params} {ok : Engine → Label → Engine → Prop}
    (before : ∀ e label e', ok e label e' → BeforeShutdown label) {events : List Event}
    {e : Engine} (run : (engineMachine p).Reaches ok events e)
    (holds : List Event → Engine → Prop) (start : holds [] (Engine.new p))
    (next : ∀ {events emitted : List Event} {e e' : Engine} {label : Label},
      holds events e → e.EventLoop → e.Serving → Serves label → ok e label e' →
        Step p e label e' emitted → holds (events ++ emitted) e') :
    holds events e ∧ e.Serving := by
  refine run_invariant run (fun events e => holds events e ∧ e.Serving) ?_ ?_
  · refine ⟨start, rfl, rfl, ?_⟩
    intro _ _ impossible
    cases impossible
  · intro events emitted e e' label held loop admissible step
    rcases step.serving loop held.2 (before e label e' admissible) with ⟨serving, serves⟩
    exact ⟨next held.1 loop held.2 serves admissible step, serving⟩

end Engine
end BatchInference
