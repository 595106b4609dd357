/-
Permits of the adaptive limiter in the engine.

`in_use` is the number of workers that hold a permit, the waiters of the
condition are the workers in `Condition.wait`, and the limit stays between the
bounds of the constructor as long as a throttle does not raise it. Together with
the bound on the pool this limits the provider calls in flight.
-/

import BatchInference.EngineWorkers
import Mathlib.Tactic.Linarith

set_option autoImplicit false

namespace BatchInference
namespace EnginePermits

open Engine

/-! ### What a stretch of worker code does to the limiter -/

/-- The places of one worker and the limiter before and after a stretch.
`lowers` is what is known whenever a throttle is recorded, `cancels` whenever a
cancelled task ends. -/
inductive PermitStep (lowers cancels : Prop) (task : TaskId) (l : AdaptiveConcurrencyLimiter) :
    Loc → Loc → AdaptiveConcurrencyLimiter → Prop where
  | begin : PermitStep lowers cancels task l .created .acquiring l
  | wake (marked : l.cond.waiters.get? task = some true) :
      PermitStep lowers cancels task l .waiting .acquiring (l.leave task)
  | grant (free : l.inUse < l.limit) :
      PermitStep lowers cancels task l .acquiring .popping { l with inUse := l.inUse + 1 }
  | sleep (full : l.limit ≤ l.inUse) :
      PermitStep lowers cancels task l .acquiring .waiting { l with cond := l.cond.wait task }
  | idle : PermitStep lowers cancels task l .popping (.releasing false) l
  | skip : PermitStep lowers cancels task l .popping (.releasing true) l
  | take (target : Loc) (working : target.flight.isSome = true) :
      PermitStep lowers cancels task l .popping target l
  | carry (source target : Loc) (working : source.flight.isSome = true)
      (stays : target.flight.isSome = true) : PermitStep lowers cancels task l source target l
  | throttle (source target : Loc) (working : source.flight.isSome = true)
      (stays : target.flight.isSome = true) (known : lowers) :
      PermitStep lowers cancels task l source target l.recordThrottle
  | finish (source : Loc) (again : Bool) (working : source.flight.isSome = true) :
      PermitStep lowers cancels task l source (.releasing again) l
  | credit (source : Loc) (working : source.flight.isSome = true) :
      PermitStep lowers cancels task l source (.releasing true) l.recordSuccess
  | leave (again : Bool) :
      PermitStep lowers cancels task l (.releasing again) (if again then .acquiring else .done)
        l.release
  | kill (known : cancels) : PermitStep lowers cancels task l .created .done l
  | giveUp (known : cancels) : PermitStep lowers cancels task l .waiting .done (l.leave task)

theorem permitStep {p : Params} {e g : Engine} {task : TaskId} {w : Worker}
    {action : Action} {loc : Loc} {emitted : List Event} {lowers cancels : Prop}
    (known : ∀ f suspended reply jitter seconds, action = .reply reply jitter →
      w.loc = .calling f suspended →
      settle p.settings f.item f.attempt jitter reply = .retry seconds → lowers)
    (interrupted : action = .interrupt → cancels)
    (work : WorkStep p e task w action g loc emitted) :
    PermitStep lowers cancels task e.limiter w.loc loc g.limiter := by
  cases work with
  | started at_ quiet =>
      rw [at_]
      exact .begin
  | woken at_ quiet marked =>
      rw [at_]
      exact .wake marked
  | granted at_ free =>
      rw [at_]
      exact .grant free
  | slept at_ full =>
      rw [at_]
      exact .sleep full
  | drained at_ scheduler popped =>
      rw [at_]
      exact .idle
  | skipped at_ scheduler jobId item popped gone =>
      rw [at_]
      exact .skip
  | taken at_ scheduler jobId item job popped found alive =>
      rw [at_]
      exact .take _ rfl
  | called f at_ bucket grant => exact .carry _ _ (by rw [at_]; rfl) rfl
  | throttled f at_ bucket seconds refused => exact .carry _ _ (by rw [at_]; rfl) rfl
  | tokenWoken f seconds at_ quiet => exact .carry _ _ (by rw [at_]; rfl) rfl
  | suspended f at_ => exact .carry _ _ (by rw [at_]; rfl) rfl
  | retried f before at_ alone reply jitter seconds settled =>
      exact .throttle _ _ (by rw [at_]; rfl) rfl
        (known f before reply jitter seconds rfl at_ settled)
  | recorded f before at_ alone reply jitter result cost credited exhausted settled =>
      simp only [record_frame]
      cases credited with
      | true => exact .credit _ (by rw [at_]; rfl)
      | false => exact .finish _ _ (by rw [at_]; rfl)
  | lost f before at_ alone reply jitter credited settled =>
      simp only [credit_frame]
      cases credited with
      | true => exact .credit _ (by rw [at_]; rfl)
      | false => exact .finish _ _ (by rw [at_]; rfl)
  | callCancelled f before at_ alone reply jitter settled =>
      exact .finish _ _ (by rw [at_]; rfl)
  | backoffEnded f seconds at_ quiet => exact .carry _ _ (by rw [at_]; rfl) rfl
  | left again at_ =>
      rw [at_]
      exact .leave again
  | killed at_ requested quiet =>
      rw [at_]
      exact .kill (interrupted rfl)
  | gaveUp at_ requested quiet =>
      rw [at_]
      exact .giveUp (interrupted rfl)
  | sleepCancelled f seconds at_ requested quiet =>
      rcases at_ with at_ | at_
      · exact .finish _ _ (by rw [at_]; rfl)
      · exact .finish _ _ (by rw [at_]; rfl)

/-- The view without any assumption about throttles and cancellation. -/
theorem permitStep_any {p : Params} {e g : Engine} {task : TaskId} {w : Worker}
    {action : Action} {loc : Loc} {emitted : List Event}
    (work : WorkStep p e task w action g loc emitted) :
    PermitStep True True task e.limiter w.loc loc g.limiter :=
  permitStep (fun _ _ _ _ _ _ _ _ => trivial) (fun _ => trivial) work

/-- A worker with an item holds a permit and neither waits nor leaves. -/
theorem working_spec {loc : Loc} (working : loc.flight.isSome = true) :
    loc.holdsPermit = true ∧ loc.isWaiting = false ∧ loc.isDone = false := by
  cases loc with
  | gating f => exact ⟨rfl, rfl, rfl⟩
  | tokenSleep f seconds => exact ⟨rfl, rfl, rfl⟩
  | calling f suspended => exact ⟨rfl, rfl, rfl⟩
  | backoff f seconds => exact ⟨rfl, rfl, rfl⟩
  | created => cases working
  | acquiring => cases working
  | waiting => cases working
  | popping => cases working
  | releasing again => cases working
  | done => cases working

/-! ### Who holds a permit and who waits -/

structure Permits (e : Engine) : Prop where
  held : e.limiter.inUse = e.count Loc.holdsPermit
  waiting : ∀ task, (e.limiter.cond.waiters.get? task).isSome = true ↔
    ∃ w, e.workers.get? task = some w ∧ w.loc.isWaiting = true

private theorem held_step {lowers cancels : Prop} {task : TaskId}
    {l l' : AdaptiveConcurrencyLimiter} {source target : Loc}
    (step : PermitStep lowers cancels task l source target l') :
    l'.inUse + (if source.holdsPermit then 1 else 0) =
      l.inUse + if target.holdsPermit then 1 else 0 := by
  cases step with
  | begin => rfl
  | wake marked => rfl
  | grant free => simp [Loc.holdsPermit]
  | sleep full => rfl
  | idle => rfl
  | skip => rfl
  | take target working =>
      rw [(working_spec working).1]
      rfl
  | carry source target working stays => rw [(working_spec working).1, (working_spec stays).1]
  | throttle source target working stays known =>
      rw [(working_spec working).1, (working_spec stays).1]
      rfl
  | finish source again working =>
      rw [(working_spec working).1]
      rfl
  | credit source working =>
      rw [(working_spec working).1]
      rcases l.recordSuccess_cases with ⟨_, raised⟩ | ⟨_, counted⟩
      · rw [raised]
        rfl
      · rw [counted]
        rfl
  | leave again =>
      cases again with
      | true => simp [AdaptiveConcurrencyLimiter.release, Loc.holdsPermit]
      | false => simp [AdaptiveConcurrencyLimiter.release, Loc.holdsPermit]
  | kill known => rfl
  | giveUp known => rfl

/-- The stepping worker is among the waiters exactly when it waits, and the
other waiters stay. -/
private theorem waiting_step {lowers cancels : Prop} {task : TaskId}
    {l l' : AdaptiveConcurrencyLimiter} {source target : Loc}
    (step : PermitStep lowers cancels task l source target l')
    (before : (l.cond.waiters.get? task).isSome = source.isWaiting) (other : TaskId) :
    (l'.cond.waiters.get? other).isSome =
      if other = task then target.isWaiting else (l.cond.waiters.get? other).isSome := by
  have unchanged : target.isWaiting = source.isWaiting →
      (l.cond.waiters.get? other).isSome =
        if other = task then target.isWaiting else (l.cond.waiters.get? other).isSome := by
    intro same
    by_cases mine : other = task
    · rw [if_pos mine, same, mine, before]
    · rw [if_neg mine]
  have left : target.isWaiting = false →
      ((l.leave task).cond.waiters.get? other).isSome =
        if other = task then target.isWaiting else (l.cond.waiters.get? other).isSome := by
    intro awake
    unfold AdaptiveConcurrencyLimiter.leave
    rw [WaitQueue.get?_leave]
    by_cases mine : other = task
    · rw [if_pos mine, if_pos mine, awake]
      rfl
    · rw [if_neg mine, if_neg mine]
  cases step with
  | begin => exact unchanged rfl
  | wake marked => exact left rfl
  | grant free => exact unchanged rfl
  | sleep full =>
      rw [WaitQueue.get?_wait]
      by_cases mine : other = task
      · rw [if_pos mine, if_pos mine]
        rfl
      · rw [if_neg mine, if_neg mine]
  | idle => exact unchanged rfl
  | skip => exact unchanged rfl
  | take target working => exact unchanged (working_spec working).2.1
  | carry source target working stays =>
      exact unchanged ((working_spec stays).2.1.trans (working_spec working).2.1.symm)
  | throttle source target working stays known =>
      exact unchanged ((working_spec stays).2.1.trans (working_spec working).2.1.symm)
  | finish source again working => exact unchanged (working_spec working).2.1.symm
  | credit source working =>
      have same := unchanged (working_spec working).2.1.symm
      rcases l.recordSuccess_cases with ⟨_, raised⟩ | ⟨_, counted⟩
      · rw [raised]
        exact same
      · rw [counted]
        exact same
  | leave again =>
      have same : (if again = true then Loc.acquiring else Loc.done).isWaiting = false := by
        cases again <;> rfl
      have notified := l.cond.contains_notify other
      unfold AdaptiveConcurrencyLimiter.release
      simp only
      rw [notified]
      exact unchanged same
  | kill known => exact unchanged rfl
  | giveUp known => exact left rfl

theorem permits_worked {e g : Engine} {task : TaskId} {w : Worker} (flag : Bool)
    {loc : Loc} {lowers cancels : Prop}
    (permits : Permits e) (workers : g.workers = e.workers)
    (found : e.workers.get? task = some w)
    (step : PermitStep lowers cancels task e.limiter w.loc loc g.limiter) :
    Permits (g.moveTo task
      { w with cancelRequested := flag } loc) where
  held := by
    have moved := count_moveTo Loc.holdsPermit task flag loc workers found
    have taken := held_step step
    have held := permits.held
    change g.limiter.inUse = _
    have cast := congrArg (Nat.cast : Nat → Int) moved
    simp only [Nat.cast_add, Nat.cast_ite, Nat.cast_one, Nat.cast_zero] at cast
    omega
  waiting := by
    have before : (e.limiter.cond.waiters.get? task).isSome = w.loc.isWaiting := by
      rw [Bool.eq_iff_iff, permits.waiting task]
      constructor
      · rintro ⟨w', found', waits⟩
        rw [found, Option.some.injEq] at found'
        rw [found']
        exact waits
      · exact fun waits => ⟨w, found, waits⟩
    intro other
    change (g.limiter.cond.waiters.get? other).isSome = true ↔ _
    rw [waiting_step step before other, get?_moveTo]
    by_cases mine : other = task
    · simp [mine]
    · simp only [if_neg mine, workers]
      exact permits.waiting other

private theorem permits_of_same {e e' : Engine} (permits : Permits e)
    (workers : e'.workers = e.workers) (limiter : e'.limiter = e.limiter) : Permits e' where
  held := by
    unfold count
    rw [workers, limiter]
    exact permits.held
  waiting := by
    rw [workers, limiter]
    exact permits.waiting

private theorem permits_registered {p : Params} {e : Engine} (permits : Permits e)
    (numbered : e.TasksNumbered) (prompts : List PromptItem) (priority : Priority)
    (key : Option String) (newId : JobId) :
    Permits (e.register p prompts priority key newId) := by
  rcases register_spec p prompts priority key newId e numbered with
    ⟨added, _, _, counts, tasks⟩
  have limiter : (e.register p prompts priority key newId).limiter = e.limiter := by
    simp [register]
  constructor
  · have same := counts Loc.holdsPermit rfl
    simp only [Loc.holdsPermit, Bool.false_eq_true, if_false, add_zero] at same
    rw [limiter, same]
    exact permits.held
  · intro task
    rw [limiter, permits.waiting task]
    constructor
    · rintro ⟨w, found, waits⟩
      refine ⟨w, (tasks task w).mpr (Or.inl ⟨found, ?_⟩), waits⟩
      rw [Loc.eq_waiting waits]
      rfl
    · rintro ⟨w, found, waits⟩
      rcases (tasks task w).mp found with ⟨known, _⟩ | ⟨_, _, rfl⟩
      · exact ⟨w, known, waits⟩
      · cases waits

theorem permits_step {p : Params} {e e' : Engine} {label : Label} {emitted : List Event}
    (loop : e.EventLoop) (permits : Permits e) (step : Step p e label e' emitted) :
    Permits e' := by
  cases step with
  | tick loopTime wallTime later => exact permits_of_same permits rfl rfl
  | unchanged label serves => exact permits
  | submitted label prompts priority key newId requested quiet named fresh =>
      rcases submit_cases p prompts priority key newId e with ⟨⟨_, _, same⟩, _⟩ | admitted
      · rw [same]
        exact permits_of_same permits rfl rfl
      · rw [admitted.2.2.2.2]
        exact permits_registered permits loop.numbered prompts priority key newId
  | cancelled jobId job quiet found unfinished => exact permits_of_same permits rfl rfl
  | worked task action w g flag loc emitted found lowered work =>
      exact permits_worked flag permits work.workers.1 found (permitStep_any work)
  | shutdownStarted quiet phase => exact permits_of_same permits rfl rfl
  | graceExpired quiet phase =>
      constructor
      · unfold count requestCancels
        rw [Dict.count_mapValues]
        exact permits.held
      · intro task
        change (e.limiter.cond.waiters.get? task).isSome = true ↔ _
        rw [permits.waiting task]
        simp only [requestCancels, Dict.get?_mapValues, Option.map_eq_some_iff]
        constructor
        · rintro ⟨w, found, waits⟩
          exact ⟨_, ⟨w, found, rfl⟩, waits⟩
        · rintro ⟨_, ⟨w, found, rfl⟩, waits⟩
          exact ⟨w, found, waits⟩
  | shutdownReturned ended phase =>
      exact permits_of_same permits (interruptJobs_frame e).2.2.1 (interruptJobs_frame e).1

theorem reachable_permits {p : Params} {ok : Engine → Label → Engine → Prop}
    {events : List Event} {e : Engine} (run : (engineMachine p).Reaches ok events e) :
    Permits e := by
  refine run_invariant run (fun _ e => Permits e) ?_ ?_
  · refine { held := rfl, waiting := fun task => ?_ }
    simp [Engine.new, AdaptiveConcurrencyLimiter.new, WaitQueue.empty]
  · intro _ _ _ _ _ permits loop _ step
    exact permits_step loop permits step

/-! ### The bounds of the limiter -/

theorem pyInt_le {x : ℚ} {bound : Int} (nonneg : 0 ≤ bound) (below : x ≤ bound) :
    pyInt x ≤ bound := by
  unfold pyInt
  split
  · exact_mod_cast (Int.floor_le x).trans below
  · rename_i negative
    have nonpos : x ≤ (0 : Int) := by
      rw [Int.cast_zero]
      exact (not_le.mp negative).le
    exact (Int.ceil_le.mpr nonpos).trans nonneg

theorem throttle_lowers {factor : ℚ} (factor_nonneg : 0 ≤ factor) (factor_le : factor ≤ 1)
    (limit : Int) : pyInt (limit * factor) ≤ max 0 limit := by
  apply pyInt_le (le_max_left _ _)
  rcases le_total 0 limit with nonneg | nonpos
  · rw [max_eq_right nonneg]
    have cast : (0 : ℚ) ≤ limit := by exact_mod_cast nonneg
    exact mul_le_of_le_one_right cast factor_le
  · rw [max_eq_left nonpos]
    have cast : (limit : ℚ) ≤ 0 := by exact_mod_cast nonpos
    rw [Int.cast_zero]
    exact mul_nonpos_of_nonpos_of_nonneg cast factor_nonneg

/-- The limiter that the settings ask for; the limit never falls below its minimum. -/
structure Configured (s : Settings) (l : AdaptiveConcurrencyLimiter) : Prop where
  minimum : l.minimum = min s.adaptiveMinConcurrency s.globalMaxConcurrency
  maximum : l.maximum = s.globalMaxConcurrency
  decrease : l.decrease = s.adaptiveDecreaseFactor
  floor : l.minimum ≤ l.limit

theorem configured_step {s : Settings} {lowers cancels : Prop} {task : TaskId}
    {l l' : AdaptiveConcurrencyLimiter} {source target : Loc}
    (configured : Configured s l) (step : PermitStep lowers cancels task l source target l') :
    Configured s l' := by
  rcases configured with ⟨minimum, maximum, decrease, floor⟩
  cases step with
  | throttle source target working stays known =>
      exact ⟨minimum, maximum, decrease, le_max_left _ _⟩
  | credit source working =>
      rcases l.recordSuccess_cases with ⟨_, raised⟩ | ⟨_, counted⟩
      · rw [raised]
        exact ⟨minimum, maximum, decrease, floor.trans (Int.le_add_one le_rfl)⟩
      · rw [counted]
        exact ⟨minimum, maximum, decrease, floor⟩
  | _ => exact ⟨minimum, maximum, decrease, floor⟩

/-- The limit and the permits in use stay below the configured maximum. -/
structure Capped (s : Settings) (l : AdaptiveConcurrencyLimiter) : Prop where
  limit : l.limit ≤ max 0 s.globalMaxConcurrency
  used : l.inUse ≤ max 0 s.globalMaxConcurrency

theorem capped_step {s : Settings} {task : TaskId} {l l' : AdaptiveConcurrencyLimiter}
    {source target : Loc} (configured : Configured s l) (capped : Capped s l)
    {cancels : Prop}
    (step : PermitStep (pyInt (l.limit * s.adaptiveDecreaseFactor) ≤ max 0 l.limit) cancels
      task l source target l') :
    Capped s l' := by
  rcases configured with ⟨minimum, maximum, decrease, floor⟩
  rcases capped with ⟨limit, used⟩
  cases step with
  | grant free => exact ⟨limit, by simp only; omega⟩
  | throttle source target working stays known =>
      refine ⟨?_, used⟩
      unfold AdaptiveConcurrencyLimiter.recordThrottle
      rw [decrease]
      simp only
      omega
  | credit source working =>
      rcases l.recordSuccess_cases with ⟨⟨_, below⟩, raised⟩ | ⟨_, counted⟩
      · rw [raised]
        exact ⟨by simp only; omega, used⟩
      · rw [counted]
        exact ⟨limit, used⟩
  | leave again =>
      refine ⟨limit, ?_⟩
      simp only [AdaptiveConcurrencyLimiter.release]
      omega
  | _ => exact ⟨limit, used⟩

/-! ### The pool -/

theorem source_live {lowers cancels : Prop} {task : TaskId} {l l' : AdaptiveConcurrencyLimiter}
    {source target : Loc} (step : PermitStep lowers cancels task l source target l') :
    source.isDone = false := by
  cases step with
  | carry source target working stays => exact (working_spec working).2.2
  | throttle source target working stays known => exact (working_spec working).2.2
  | finish source again working => exact (working_spec working).2.2
  | credit source working => exact (working_spec working).2.2
  | _ => rfl

/-- Only the admission of a job creates tasks, and never beyond the pool. -/
theorem live_step {p : Params} {e e' : Engine} {label : Label} {emitted : List Event}
    (loop : e.EventLoop) (step : Step p e label e' emitted)
    (before : (e.live : Int) ≤ max 0 p.settings.workerPoolSize) :
    (e'.live : Int) ≤ max 0 p.settings.workerPoolSize := by
  cases step with
  | submitted label prompts priority key newId requested quiet named fresh =>
      rcases submit_cases p prompts priority key newId e with ⟨⟨_, _, same⟩, _⟩ | admitted
      · rw [same]
        exact before
      · rw [admitted.2.2.2.2]
        rcases register_spec p prompts priority key newId e loop.numbered with
          ⟨added, amount, _, counts, _⟩
        have after : (e.register p prompts priority key newId).live = e.live + added :=
          counts (fun loc => !loc.isDone) rfl
        simp only [after, Nat.cast_add]
        omega
  | worked task action w g flag loc emitted found lowered work =>
      have moved := count_moveTo (fun loc => !loc.isDone) task flag loc work.workers.1 found
      have alive := source_live (permitStep_any work)
      change live _ + _ = e.live + _ at moved
      rw [alive] at moved
      simp only [Bool.not_false, if_true] at moved
      have atMost : (if (!loc.isDone) = true then 1 else 0) ≤ 1 := by split <;> omega
      omega
  | graceExpired quiet phase =>
      unfold live count requestCancels
      rw [Dict.count_mapValues]
      exact before
  | shutdownReturned ended phase =>
      unfold live count
      rw [(interruptJobs_frame e).2.2.1]
      exact before
  | _ => exact before

/-! ### Runs -/

/-- If the step lets a worker back off after a 429, the throttle does not raise
the limit (above zero). The right side is the limit in force before. -/
def ThrottleLowers (p : Params) (e : Engine) (label : Label) : Prop :=
  ∀ task w f suspended reply jitter seconds,
    label = .work task (.reply reply jitter) → e.workers.get? task = some w →
      w.loc = .calling f suspended →
        settle p.settings f.item f.attempt jitter reply = .retry seconds →
          pyInt (e.limiter.limit * p.settings.adaptiveDecreaseFactor) ≤ max 0 e.limiter.limit

theorem throttleLowers_of_factor {p : Params}
    (factor_nonneg : 0 ≤ p.settings.adaptiveDecreaseFactor)
    (factor_le : p.settings.adaptiveDecreaseFactor ≤ 1) (e : Engine) (label : Label) :
    ThrottleLowers p e label :=
  fun _ _ _ _ _ _ _ _ _ _ _ => throttle_lowers factor_nonneg factor_le e.limiter.limit

/-- A step leaves the limiter alone or takes one worker through `PermitStep`. -/
theorem limiter_step {p : Params} {e e' : Engine} {label : Label} {emitted : List Event}
    (lowers : ThrottleLowers p e label) (step : Step p e label e' emitted) :
    e'.limiter = e.limiter ∨ ∃ task source target,
      PermitStep (pyInt (e.limiter.limit * p.settings.adaptiveDecreaseFactor) ≤
        max 0 e.limiter.limit) True task e.limiter source target e'.limiter := by
  cases step with
  | submitted label prompts priority key newId requested quiet named fresh =>
      exact Or.inl (limiter_of_request prompts priority key newId)
  | worked task action w g flag loc emitted found lowered work =>
      have known : ∀ f suspended reply jitter seconds, action = .reply reply jitter →
          w.loc = .calling f suspended →
            settle p.settings f.item f.attempt jitter reply = .retry seconds →
              pyInt (e.limiter.limit * p.settings.adaptiveDecreaseFactor) ≤
                max 0 e.limiter.limit :=
        fun f suspended reply jitter seconds isReply =>
          lowers task w f suspended reply jitter seconds (by rw [isReply]) found
      have moved : PermitStep _ True task e.limiter w.loc loc g.limiter :=
        permitStep known (fun _ => trivial) work
      exact Or.inr ⟨task, w.loc, loc, moved⟩
  | shutdownReturned ended phase => exact Or.inl (interruptJobs_frame e).1
  | _ => exact Or.inl rfl

variable {p : Params} {ok : Engine → Label → Engine → Prop} {events : List Event} {e : Engine}

theorem configured_new (p : Params) : Configured p.settings (Engine.new p).limiter where
  minimum := rfl
  maximum := rfl
  decrease := rfl
  floor := by
    simp only [Engine.new, AdaptiveConcurrencyLimiter.new, Option.getD_some]
    omega

theorem reachable_configured (run : (engineMachine p).Reaches ok events e) :
    Configured p.settings e.limiter := by
  refine run_invariant run (fun _ e => Configured p.settings e.limiter) (configured_new p) ?_
  intro _ _ e e' _ configured _ _ step
  cases step with
  | submitted label prompts priority key newId requested quiet named fresh =>
      rw [limiter_of_request]
      exact configured
  | worked task action w g flag loc emitted found lowered work =>
      have moved := permitStep_any work
      exact configured_step configured moved
  | shutdownReturned ended phase =>
      rw [(interruptJobs_frame e).1]
      exact configured
  | _ => exact configured

theorem reachable_capped (lowers : ∀ e label e', ok e label e' → ThrottleLowers p e label)
    (run : (engineMachine p).Reaches ok events e) : Capped p.settings e.limiter := by
  have both : Configured p.settings e.limiter ∧ Capped p.settings e.limiter := by
    refine run_invariant run
      (fun _ e => Configured p.settings e.limiter ∧ Capped p.settings e.limiter) ?_ ?_
    · refine ⟨configured_new p, ?_⟩
      simp only [Engine.new, AdaptiveConcurrencyLimiter.new, Option.getD_some]
      exact { limit := by simp only; omega, used := le_max_left _ _ }
    · intro _ _ e e' label before _ admissible step
      rcases before with ⟨configured, capped⟩
      rcases limiter_step (lowers e label e' admissible) step with same | ⟨_, _, _, moved⟩
      · rw [same]
        exact ⟨configured, capped⟩
      · exact ⟨configured_step configured moved, capped_step configured capped moved⟩
  exact both.2

theorem reachable_live (run : (engineMachine p).Reaches ok events e) :
    (e.live : Int) ≤ max 0 p.settings.workerPoolSize := by
  refine run_invariant run (fun _ e => (e.live : Int) ≤ max 0 p.settings.workerPoolSize)
    (le_max_left _ _) ?_
  intro _ _ _ _ _ before loop _ step
  exact live_step loop step before

/-- Only `acquire` gives a worker a permit, and only below the limit. -/
theorem acquired_below_limit {e' : Engine} {label : Label} {emitted : List Event}
    (loop : e.EventLoop) (step : Step p e label e' emitted) {task : TaskId} {w' : Worker}
    (after : e'.workers.get? task = some w') (holds : w'.loc.holdsPermit = true)
    (without : ∀ w, e.workers.get? task = some w → w.loc.holdsPermit = false) :
    e.limiter.inUse < e.limiter.limit := by
  have unchanged : ∀ {w}, e.workers.get? task = some w → w.loc = w'.loc →
      e.limiter.inUse < e.limiter.limit := by
    intro w found same
    have none := without w found
    rw [same, holds] at none
    cases none
  cases step with
  | submitted label prompts priority key newId requested quiet named fresh =>
      rcases submit_cases p prompts priority key newId e with ⟨⟨_, _, same⟩, _⟩ | admitted
      · rw [same] at after
        exact unchanged after rfl
      · rw [admitted.2.2.2.2] at after
        rcases register_spec p prompts priority key newId e loop.numbered with
          ⟨_, _, _, _, tasks⟩
        rcases (tasks task w').mp after with ⟨known, _⟩ | ⟨_, _, rfl⟩
        · exact unchanged known rfl
        · cases holds
  | worked other action w g flag loc emitted found lowered work =>
      rw [get?_moveTo] at after
      by_cases mine : task = other
      · rw [if_pos mine, Option.some.injEq] at after
        subst mine
        rw [← after] at holds
        have permit := permitStep_any work
        have none := without w found
        simp only at holds
        generalize w.loc = source at permit none
        generalize g.limiter = l' at permit
        cases permit with
        | grant free => exact free
        | take target working => cases none
        | carry source target working stays =>
            rw [(working_spec working).1] at none
            cases none
        | throttle source target working stays known =>
            rw [(working_spec working).1] at none
            cases none
        | finish source again working =>
            rw [(working_spec working).1] at none
            cases none
        | credit source working =>
            rw [(working_spec working).1] at none
            cases none
        | leave again => cases none
        | begin => cases holds
        | wake marked => cases holds
        | sleep full => cases holds
        | idle => cases none
        | skip => cases none
        | kill known => cases holds
        | giveUp known => cases holds
      · rw [if_neg mine, work.workers.1] at after
        exact unchanged after rfl
  | graceExpired quiet phase =>
      simp only [requestCancels, Dict.get?_mapValues, Option.map_eq_some_iff] at after
      rcases after with ⟨w, found, rfl⟩
      exact unchanged found rfl
  | shutdownReturned ended phase =>
      rw [(interruptJobs_frame e).2.2.1] at after
      exact unchanged after rfl
  | _ => exact unchanged after rfl

/-- In every reachable state the provider calls in flight stay within the pool
and the configured concurrency, `in_use` counts the permits that are held, and
every worker that gets a permit gets it below the limit in force. -/
theorem concurrency_bounded (p : Params) (pool : 1 ≤ p.settings.workerPoolSize)
    (cap : 1 ≤ p.settings.globalMaxConcurrency)
    (factor_nonneg : 0 ≤ p.settings.adaptiveDecreaseFactor)
    (factor_le : p.settings.adaptiveDecreaseFactor ≤ 1) {events : List Event} {e : Engine}
    (run : (engineMachine p).Reaches Machine.anyStep events e) :
    (e.count Loc.inCall : Int) ≤
        min p.settings.workerPoolSize p.settings.globalMaxConcurrency ∧
      e.limiter.inUse = e.count Loc.holdsPermit ∧
      ∀ label e' emitted task w', (engineMachine p).step e label = some (e', emitted) →
        e'.workers.get? task = some w' → w'.loc.holdsPermit = true →
          (∀ w, e.workers.get? task = some w → w.loc.holdsPermit = false) →
            e.limiter.inUse < e.limiter.limit := by
  have permits := reachable_permits run
  have capped := reachable_capped
    (fun e label _ _ => throttleLowers_of_factor factor_nonneg factor_le e label) run
  have pooled := reachable_live run
  refine ⟨?_, permits.held, ?_⟩
  · have callsHold : e.count Loc.inCall ≤ e.count Loc.holdsPermit := by
      apply Dict.count_mono
      intro _ w _ calling
      cases at_ : w.loc with
      | calling f suspended => rfl
      | _ =>
          rw [at_] at calling
          cases calling
    have callsLive : e.count Loc.inCall ≤ e.live := by
      unfold live
      apply Dict.count_mono
      intro _ w _ calling
      cases at_ : w.loc with
      | calling f suspended => rfl
      | _ =>
          rw [at_] at calling
          cases calling
    have used := capped.used
    rw [permits.held] at used
    omega
  · intro label e' emitted task w' stepped after holds without
    exact acquired_below_limit (reachable_eventLoop run) (step_cases stepped) after holds without

/-- The settings as shipped. -/
def shipped : Params :=
  { settings := {}
    fingerprint := fun _ _ => "" }

/-- With the shipped settings one prompt is submitted and its call is suspended. -/
theorem concurrency_bounded_single :
    ∃ events e, (engineMachine shipped).Reaches Machine.anyStep events e ∧
      e.count Loc.inCall = 1 ∧
      ((e.count Loc.inCall : Int) ≤
          min shipped.settings.workerPoolSize shipped.settings.globalMaxConcurrency ∧
        e.limiter.inUse = e.count Loc.holdsPermit ∧
        ∀ label e' emitted task w', (engineMachine shipped).step e label = some (e', emitted) →
          e'.workers.get? task = some w' → w'.loc.holdsPermit = true →
            (∀ w, e.workers.get? task = some w → w.loc.holdsPermit = false) →
              e.limiter.inUse < e.limiter.limit) := by
  rcases Machine.exists_anyRun_of_exec (engineMachine shipped)
      (engineMachine shipped).initial
      [.submit [{ id := none, prompt := "hello" }] .normal none "a",
        .work 0 .start, .work 0 .enter, .work 0 .take, .work 0 .gate, .work 0 .suspend]
      (fun outcome => outcome.2.count Loc.inCall == 1) (by decide +kernel) with
    ⟨events, e, run, calling⟩
  exact ⟨events, e, run, eq_of_beq calling,
    concurrency_bounded shipped (by decide) (by decide) (by decide +kernel) (by decide +kernel)
      run⟩

end EnginePermits
end BatchInference
