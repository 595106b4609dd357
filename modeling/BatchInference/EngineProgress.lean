/-
How much the engine can still do.

Every segment that a worker runs is paid for out of a potential: what its place, its
retry budget, the queue and the pending wake-ups allow. Only submissions add to it, so
the work of a run is linear in what was admitted, whatever the provider answers and
however the workers interleave. Waiting for a rate token is free; how long that takes
depends on the clock alone.
-/

import BatchInference.EngineCancel
import BatchInference.EngineCompletion
import BatchInference.EngineWakeups

set_option autoImplicit false

namespace BatchInference
namespace EngineProgress

open Engine EnginePermits EngineWakeups EngineItems EngineCompletion EngineCancel EngineRate
  TokenBucketRuns

/-! ### The potential -/

/-- The retries that remain after this attempt. -/
def retriesLeft (s : Settings) (attempt : Nat) : Nat := s.maxRetries.toNat + 1 - attempt

/-- The segments that a worker may still run before it asks for another permit. -/
def effort (s : Settings) : Loc → Nat
  | .created => 6
  | .acquiring => 5
  | .waiting => 4
  | .popping => 4
  | .gating f => 4 * retriesLeft s f.attempt + 11
  | .tokenSleep f _ => 4 * retriesLeft s f.attempt + 11
  | .calling f suspended => 4 * retriesLeft s f.attempt + if suspended then 9 else 10
  | .backoff f _ => 4 * retriesLeft s (f.attempt + 1) + 12
  | .releasing again => if again then 8 else 3
  | .done => 0

/-- The segments that one queued prompt may cause. -/
def promptEffort (s : Settings) : Nat := 4 * s.maxRetries.toNat + 8

/-- A notified waiter runs two segments that nobody asked of it before. -/
def effortLeft (p : Params) (e : Engine) : Nat :=
  promptEffort p.settings * e.scheduler.pending.toNat +
    e.workers.total (fun _ w => effort p.settings w.loc) + 2 * e.limiter.cond.notified

/-- The segment ends in front of the token bucket again. -/
def waitsForToken (e : Engine) : Action → Bool
  | .gate => (e.rateLimiter.acquireOnce 1 e.loopTime).2.isSome
  | .tokenWake => true
  | _ => false

/-- The segments that workers run, without the waits for a rate token. -/
def segments (e : Engine) : Label → List (TaskId × Action)
  | .work task action => if waitsForToken e action then [] else [(task, action)]
  | _ => []

/-- The engine with the segments that its workers have run. -/
def withSegments (p : Params) : Machine (Engine × List (TaskId × Action)) Label Event :=
  (engineMachine p).logged segments

/-- What an admitted submission may cause: its prompts, and workers for the whole pool. -/
def admittedEffort (p : Params) : Event → Nat
  | .submitted prompts _ _ (.job _ false) =>
      promptEffort p.settings * prompts.length + 6 * p.settings.workerPoolSize.toNat
  | _ => 0

/-! ### One segment -/

theorem retriesLeft_first (s : Settings) : retriesLeft s 1 = s.maxRetries.toNat := by
  unfold retriesLeft
  omega

/-- A retry is within the budget, so it uses one up. -/
theorem retriesLeft_of_retry {s : Settings} {item : WorkItem} {attempt : Nat} {jitter : ℚ}
    {reply : Reply} {seconds : ℚ} (settled : settle s item attempt jitter reply = .retry seconds) :
    retriesLeft s (attempt + 1) + 1 = retriesLeft s attempt := by
  have within : (attempt : Int) ≤ s.maxRetries := (retry_of_settle settled).2.1
  unfold retriesLeft
  omega

theorem notified_notify_le {Waiter : Type} [DecidableEq Waiter] (q : WaitQueue Waiter) :
    q.notify.notified ≤ q.notified + 1 := by
  obtain ⟨nobody, somebody⟩ := q.notify_counts
  rcases Nat.eq_zero_or_pos q.asleep with none | positive
  · rw [nobody none]
    exact Nat.le_succ _
  · exact le_of_eq (somebody positive).1

theorem pending_toNat_pop {s s' : FairScheduler} (wf : s.WellFormed) {jobId : JobId}
    {item : WorkItem} (popped : s.pop = (s', some (jobId, item))) :
    s'.pending.toNat + 1 = s.pending.toNat := by
  obtain ⟨_, _, fewer, wf'⟩ := s.pop_some_spec s' wf jobId item popped
  have nonneg := wf'.pending_nonneg
  omega

theorem pending_toNat_drained {s s' : FairScheduler} (wf : s.WellFormed)
    (popped : s.pop = (s', none)) : s'.pending.toNat = s.pending.toNat := by
  rw [(s.pop_none_spec s' wf popped).2.2]

@[simp] theorem length_segments (e : Engine) (task : TaskId) (action : Action) :
    (segments e (.work task action)).length = if waitsForToken e action then 0 else 1 := by
  simp only [segments]
  split
  · rfl
  · rfl

/-- A prompt that leaves the queue pays for its first attempt. -/
theorem promptEffort_taken (s : Settings) (f : InFlight) (first : f.attempt = 1) :
    promptEffort s + effort s .popping = effort s (.gating f) + 1 := by
  simp only [promptEffort, effort, first, retriesLeft_first]

/-- A call can be left for the end of the loop body, or for the caller. -/
theorem effort_calling (s : Settings) (f : InFlight) (suspended : Bool) :
    effort s (.releasing true) + 1 ≤ effort s (.calling f suspended) ∧
      effort s (.releasing false) + 1 ≤ effort s (.calling f suspended) := by
  simp only [effort]
  cases suspended with
  | false => simp only [Bool.false_eq_true, if_false, if_true]; omega
  | true => simp only [Bool.false_eq_true, if_false, if_true]; omega

/-- A segment is paid for by what the worker, the queue and the condition give up. -/
theorem segment_paid {p : Params} {e g : Engine} {task : TaskId} {w : Worker} {action : Action}
    {loc : Loc} {emitted : List Event} (stored : e.Stored) (permits : Permits e)
    (found : e.workers.get? task = some w)
    (work : WorkStep p e task w action g loc emitted) :
    promptEffort p.settings * g.scheduler.pending.toNat + effort p.settings loc +
        2 * g.limiter.cond.notified + (segments e (.work task action)).length ≤
      promptEffort p.settings * e.scheduler.pending.toNat + effort p.settings w.loc +
        2 * e.limiter.cond.notified := by
  rw [length_segments]
  cases work with
  | started at_ quiet =>
      simp only [at_, effort, waitsForToken, Bool.false_eq_true, if_false]
      omega
  | woken at_ quiet marked =>
      have counts := e.limiter.cond.leave_counts task marked
      simp only [at_, effort, waitsForToken, AdaptiveConcurrencyLimiter.leave,
        Bool.false_eq_true, if_false]
      omega
  | granted at_ free =>
      simp only [at_, effort, waitsForToken, Bool.false_eq_true, if_false]
      omega
  | slept at_ full =>
      have absent := not_waiting permits found (by rw [at_]; rfl)
      have counts := e.limiter.cond.wait_counts task absent
      simp only [at_, effort, waitsForToken, counts.1, Bool.false_eq_true, if_false]
      omega
  | drained at_ scheduler popped =>
      simp only [at_, effort, waitsForToken, pending_toNat_drained stored.queue popped,
        Bool.false_eq_true, if_false]
      omega
  | skipped at_ scheduler jobId item popped gone =>
      have fewer := pending_toNat_pop stored.queue popped
      simp only [at_, effort, waitsForToken, ← fewer, Nat.mul_add, promptEffort,
        Bool.false_eq_true, if_false, if_true]
      omega
  | taken at_ scheduler jobId item job popped found alive =>
      have fewer := pending_toNat_pop stored.queue popped
      have first := promptEffort_taken p.settings
        { jobId := jobId
          item := item
          start := e.loopTime
          attempt := 1 } rfl
      simp only [at_, waitsForToken, ← fewer, Nat.mul_add, Bool.false_eq_true, if_false]
      omega
  | called f at_ bucket grant =>
      simp only [at_, effort, waitsForToken, grant, Option.isSome_none, Bool.false_eq_true,
        if_false]
      omega
  | throttled f at_ bucket seconds refused =>
      simp only [at_, effort, waitsForToken, refused, Option.isSome_some, if_true]
      omega
  | tokenWoken f seconds at_ quiet =>
      simp only [at_, effort, waitsForToken, if_true]
      omega
  | suspended f at_ =>
      simp only [at_, effort, waitsForToken, Bool.false_eq_true, if_false, if_true]
      omega
  | retried f before at_ alone reply jitter seconds settled =>
      have left := retriesLeft_of_retry settled
      have paid : effort p.settings (.backoff f seconds) + 1 ≤
          effort p.settings (.calling f before) := by
        simp only [effort, ← left]
        split
        · omega
        · omega
      simp only [at_, waitsForToken, onRetry_frame, AdaptiveConcurrencyLimiter.recordThrottle,
        Bool.false_eq_true, if_false]
      omega
  | recorded f before at_ alone reply jitter result cost credited exhausted settled =>
      have paid := (effort_calling p.settings f before).1
      simp only [at_, waitsForToken, record_frame, apply_ite AdaptiveConcurrencyLimiter.cond,
        AdaptiveConcurrencyLimiter.cond_recordSuccess, ite_self, Bool.false_eq_true, if_false]
      omega
  | lost f before at_ alone reply jitter credited settled =>
      have paid := (effort_calling p.settings f before).1
      simp only [at_, waitsForToken, credit_frame, apply_ite AdaptiveConcurrencyLimiter.cond,
        AdaptiveConcurrencyLimiter.cond_recordSuccess, ite_self, Bool.false_eq_true, if_false]
      omega
  | callCancelled f before at_ alone reply jitter settled =>
      have paid := (effort_calling p.settings f before).2
      simp only [at_, waitsForToken, Bool.false_eq_true, if_false]
      omega
  | backoffEnded f seconds at_ quiet =>
      simp only [at_, effort, waitsForToken, Bool.false_eq_true, if_false]
      omega
  | left again at_ =>
      have woken := notified_notify_le e.limiter.cond
      simp only [at_, waitsForToken, release_frame, AdaptiveConcurrencyLimiter.release,
        Bool.false_eq_true, if_false]
      cases again with
      | true =>
          simp only [effort, if_true]
          omega
      | false =>
          simp only [effort, Bool.false_eq_true, if_false]
          omega
  | killed at_ requested quiet =>
      simp only [at_, effort, waitsForToken, Bool.false_eq_true, if_false]
      omega
  | gaveUp at_ requested quiet =>
      obtain ⟨flag, read⟩ := Option.isSome_iff_exists.mp
        ((permits.waiting task).mpr ⟨w, found, by rw [at_]; rfl⟩)
      have woken := e.limiter.cond.notified_leave_le task read
      simp only [at_, effort, waitsForToken, AdaptiveConcurrencyLimiter.leave,
        Bool.false_eq_true, if_false]
      omega
  | sleepCancelled f seconds at_ requested quiet =>
      rcases at_ with at_ | at_
      · simp only [at_, effort, waitsForToken, Bool.false_eq_true, if_false]
        omega
      · simp only [at_, effort, waitsForToken, Bool.false_eq_true, if_false]
        omega

/-! ### One step -/

/-- The potential is read off the queue, the places of the workers and the condition. -/
theorem effortLeft_le {p : Params} {e e' : Engine}
    (fewer : e'.scheduler.pending.toNat ≤ e.scheduler.pending.toNat)
    (workers : e'.workers.total (fun _ w => effort p.settings w.loc) =
      e.workers.total (fun _ w => effort p.settings w.loc))
    (limiter : e'.limiter = e.limiter) : effortLeft p e' ≤ effortLeft p e := by
  unfold effortLeft
  rw [workers, limiter]
  have queued := Nat.mul_le_mul_left (promptEffort p.settings) fewer
  omega

theorem effortLeft_request (p : Params) {e : Engine} (numbered : e.TasksNumbered)
    (stored : e.Stored) (prompts : List PromptItem) (priority : Priority) (key : Option String)
    (newId : JobId) :
    effortLeft p (e.submitWithIdempotency p prompts priority key newId).1 ≤
      effortLeft p e + admittedEffort p (.submitted prompts priority key
        (e.submitWithIdempotency p prompts priority key newId).2) := by
  rcases submit_cases p prompts priority key newId e with
    ⟨⟨_, _, same⟩, _⟩ | ⟨_, _, _, _, admitted⟩
  · refine le_trans ?_ (Nat.le_add_right _ _)
    rw [same]
    exact effortLeft_le (le_refl _) rfl rfl
  · rw [admitted]
    have workers := total_register_add (effort p.settings) rfl p prompts priority key newId e
      numbered
    have nonneg := stored.queue.pending_nonneg
    have queued : (e.register p prompts priority key newId).scheduler.pending.toNat =
        e.scheduler.pending.toNat + prompts.length := by
      simp only [register_frame, FairScheduler.addJob, length_workItems]
      omega
    have started : effort p.settings .created = 6 := rfl
    simp only [effortLeft, admittedEffort, register_frame] at queued ⊢
    rw [queued, Nat.mul_add]
    rw [started] at workers
    omega

/-- Apart from the segments, only admitted submissions add to the potential. -/
theorem effortLeft_step {p : Params} {e e' : Engine} {label : Label} {emitted : List Event}
    (loop : e.EventLoop) (stored : e.Stored)
    (outside : ∀ task action, label ≠ .work task action) (step : Step p e label e' emitted) :
    effortLeft p e' ≤ effortLeft p e + (emitted.map (admittedEffort p)).sum := by
  cases step with
  | submitted label prompts priority key newId requested quiet named fresh =>
      simpa using effortLeft_request p loop.numbered stored prompts priority key newId
  | cancelled jobId job quiet found unfinished =>
      refine le_trans (effortLeft_le ?_ ?_ ?_) (Nat.le_add_right _ _)
      · have fewer := EngineConserving.removeJob_pending_le e.scheduler jobId
        simp only [cancelOpen_frame]
        omega
      · simp only [cancelOpen_frame]
      · simp only [cancelOpen_frame]
  | worked task action w g flag loc emitted found lowered work =>
      exact absurd rfl (outside task action)
  | graceExpired quiet phase =>
      refine effortLeft_le (le_refl _) ?_ rfl
      simp only [requestCancels, Dict.total_mapValues]
  | shutdownReturned ended phase =>
      refine effortLeft_le ?_ ?_ ?_
      · rw [(interruptJobs_keeps e).1]
      · simp only [interruptJobs_frame]
      · simp only [interruptJobs_frame]
  | _ => exact le_refl _

theorem total_moveTo {M : Type} [AddCommMonoid M] (amount : Loc → M) {e g : Engine}
    {task : TaskId} {w : Worker} (flag : Bool) (loc : Loc) (workers : g.workers = e.workers)
    (found : e.workers.get? task = some w) :
    (g.moveTo task
          { w with cancelRequested := flag } loc).workers.total (fun _ w => amount w.loc) +
        amount w.loc =
      e.workers.total (fun _ w => amount w.loc) + amount loc := by
  unfold moveTo
  rw [workers]
  exact Dict.total_set_of_get?_some (fun _ w => amount w.loc) e.workers _ found

/-- Every segment uses up some of the potential. -/
theorem step_paid {p : Params} {e e' : Engine} {label : Label} {emitted : List Event}
    (loop : e.EventLoop) (stored : e.Stored) (permits : Permits e)
    (stepped : (engineMachine p).step e label = some (e', emitted)) :
    effortLeft p e' + (segments e label).length ≤
      effortLeft p e + (emitted.map (admittedEffort p)).sum := by
  cases label with
  | work task action =>
      obtain ⟨w, g, flag, loc, found, rfl, _, work⟩ := work_cases stepped
      have paid := segment_paid stored permits found work
      have moved := total_moveTo (effort p.settings) flag loc work.workers.1 found
      simp only [effortLeft, moveTo_frame] at moved ⊢
      omega
  | _ =>
      refine effortLeft_step loop stored ?_ (step_cases stepped)
      intro task action impossible
      cases impossible

/-! ### Runs -/

/-- From any state that the engine can reach, whatever happens next, the workers run no
more segments than the potential allows and later submissions add. -/
theorem segments_bounded (p : Params) {events later : List Event} {e e' : Engine}
    {ran : List (TaskId × Action)} (run : (engineMachine p).Reaches Machine.anyStep events e)
    (rest : Machine.Run (withSegments p) Machine.anyStep (e, []) later (e', ran)) :
    ran.length ≤ effortLeft p e + (later.map (admittedEffort p)).sum := by
  have paid := rest.paid (fun e => ∃ events, (engineMachine p).Reaches Machine.anyStep events e)
    (effortLeft p) (admittedEffort p) ⟨events, run⟩ (fun sound _ stepped => by
      obtain ⟨events, run⟩ := sound
      refine ⟨⟨_, .tail run trivial stepped⟩, ?_⟩
      exact step_paid (reachable_eventLoop run) (reachable_stored run) (reachable_permits run)
        stepped)
  have least := Nat.le_add_left ran.length (effortLeft p e')
  exact le_trans least paid

/-! ### Who can go on -/

/-- No worker has a segment to run. -/
def Stuck (p : Params) (e : Engine) : Prop :=
  ∀ task action, (engineMachine p).step e (.work task action) = none

/-- Inside a stretch of code there is always a next segment. -/
theorem not_stuck_of_running {p : Params} {e : Engine} {task : TaskId} {w : Worker}
    (found : e.workers.get? task = some w) (inside : w.loc.running = true) : ¬Stuck p e := by
  intro stuck
  have refused : ∀ action, e.workStep p task w action = none := by
    intro action
    have nothing := stuck task action
    change Engine.step p e (.work task action) = none at nothing
    simpa only [Engine.step, found] using nothing
  cases at_ : w.loc with
  | acquiring =>
      have nothing := refused .enter
      simp only [workStep, at_] at nothing
      split at nothing
      · cases nothing
      · cases nothing
  | popping =>
      have nothing := refused .take
      simp only [workStep, at_] at nothing
      cases nothing
  | gating f =>
      have nothing := refused .gate
      simp only [workStep, at_] at nothing
      split at nothing
      · cases nothing
      · cases nothing
  | calling f suspended =>
      have nothing := refused (.reply .cancelled 0)
      rw [at_] at inside
      have awake : suspended = false := by simpa [Loc.running] using inside
      simp [workStep, at_, awake] at nothing
  | releasing again =>
      have nothing := refused .leave
      simp only [workStep, at_] at nothing
      cases nothing
  | created => simp [at_, Loc.running] at inside
  | waiting => simp [at_, Loc.running] at inside
  | tokenSleep f seconds => simp [at_, Loc.running] at inside
  | backoff f seconds => simp [at_, Loc.running] at inside
  | done => simp [at_, Loc.running] at inside

/-- Between two stretches a worker goes on unless it has ended or nobody has woken it. -/
theorem not_stuck_of_quiet {p : Params} {e : Engine} {task : TaskId} {w : Worker}
    (permits : Permits e) (quiet : e.atAwait = true) (found : e.workers.get? task = some w)
    (uncancelled : w.cancelRequested = false) (alive : w.loc.isDone = false)
    (awake : ¬Asleep e task) : ¬Stuck p e := by
  intro stuck
  have idle := e.atAwait_iff.mp quiet task w found
  have resumes : e.mayResume w = true := by
    unfold mayResume
    rw [quiet, uncancelled]
    rfl
  have refused : ∀ action, e.workStep p task w action = none := by
    intro action
    have nothing := stuck task action
    change Engine.step p e (.work task action) = none at nothing
    simpa only [Engine.step, found] using nothing
  cases at_ : w.loc with
  | created =>
      have nothing := refused .start
      simp [workStep, at_, resumes] at nothing
  | waiting =>
      have marked : e.limiter.cond.waiters.get? task = some true := by
        obtain ⟨flag, read⟩ := Option.isSome_iff_exists.mp
          ((permits.waiting task).mpr ⟨w, found, by rw [at_]; rfl⟩)
        cases flag with
        | true => exact read
        | false => exact absurd ⟨⟨w, found, by rw [at_]; rfl⟩, read⟩ awake
      have nothing := refused .wake
      simp [workStep, at_, resumes, marked] at nothing
  | tokenSleep f seconds =>
      have nothing := refused .tokenWake
      simp [workStep, at_, resumes] at nothing
  | backoff f seconds =>
      have nothing := refused .backoffWake
      simp [workStep, at_, resumes] at nothing
  | calling f suspended =>
      have nothing := refused (.reply .cancelled 0)
      simp [workStep, at_, quiet] at nothing
  | acquiring => simp [at_, Loc.running] at idle
  | popping => simp [at_, Loc.running] at idle
  | gating f => simp [at_, Loc.running] at idle
  | releasing again => simp [at_, Loc.running] at idle
  | done => simp [at_, Loc.isDone] at alive

/-- Before shutdown, with permits to give, workers stop only by ending. -/
theorem idle_of_stuck {p : Params} {ok : Engine → Label → Engine → Prop} {events : List Event}
    {e : Engine} (before : ∀ e label e', ok e label e' → BeforeShutdown label)
    (minimum : 1 ≤ p.settings.adaptiveMinConcurrency)
    (maximum : 1 ≤ p.settings.globalMaxConcurrency)
    (run : (engineMachine p).Reaches ok events e) (stuck : Stuck p e) :
    ∀ task w, e.workers.get? task = some w → w.loc.isDone = true := by
  have serving : e.Serving :=
    (serving_invariant before run (fun _ _ => True) trivial (fun _ _ _ _ _ _ => trivial)).2
  have quiet : e.atAwait = true := by
    rw [atAwait_iff]
    intro task w found
    cases inside : w.loc.running with
    | false => rfl
    | true => exact absurd stuck (not_stuck_of_running found inside)
  have permits := reachable_permits run
  by_contra some_
  push Not at some_
  obtain ⟨task, w, found, alive⟩ := some_
  refine not_all_asleep before minimum maximum run quiet ⟨⟨task, w, found, by simpa using alive⟩, ?_⟩
  intro other w' found' alive'
  by_contra awake
  exact not_stuck_of_quiet permits quiet found' (serving.uncancelled other w' found') alive' awake
    stuck

/-! ### Rate tokens -/

/-- A bucket that was never read is still full. -/
def FullUntilRead (b : TokenBucket) : Prop := b.last = none → b.tokens = b.capacity

theorem reachable_fullUntilRead {p : Params} {ok : Engine → Label → Engine → Prop}
    {events : List Event} {e : Engine} (run : (engineMachine p).Reaches ok events e) :
    FullUntilRead e.rateLimiter := by
  refine Machine.Run.invariant run (fun _ e => FullUntilRead e.rateLimiter) (fun _ => rfl) ?_
  intro _ _ e _ _ full _ stepped
  rcases bucket_step (step_cases stepped) with ⟨same, _, _⟩ | ⟨next, _, _⟩
  · rw [same]
    exact full
  · rw [next]
    intro unread
    unfold TokenBucket.acquireOnce at unread ⊢
    split at unread
    · rename_i free
      rw [if_pos free]
      exact full unread
    · dsimp only at unread
      split at unread
      · rw [refill_last] at unread
        cases unread
      · rw [refill_last] at unread
        cases unread

/-- A bucket that can hold a token grants one once enough time has passed. -/
theorem granted_soon {s : Settings} {e : Engine} (bucketed : Bucketed s e)
    (full : FullUntilRead e.rateLimiter) (grants : Grants s) :
    ∃ soon, ∀ now, soon ≤ now → (e.rateLimiter.acquireOnce 1 now).2 = none := by
  by_cases free : e.rateLimiter.rate ≤ 0
  · refine ⟨0, fun now _ => ?_⟩
    unfold TokenBucket.acquireOnce
    rw [if_pos free]
  · have rate : 0 < e.rateLimiter.rate := not_le.mp free
    have large : 1 ≤ e.rateLimiter.capacity := by
      rcases grants with unlimited | large
      · rw [← bucketed.rate] at unlimited
        exact absurd unlimited free
      · rw [bucketed.capacity]
        exact large
    have enough : ∀ now, 1 ≤ (e.rateLimiter.refill now).tokens →
        (e.rateLimiter.acquireOnce 1 now).2 = none := by
      intro now filled
      rcases acquireOnce_cases rate now with ⟨_, granted⟩ | ⟨few, _⟩
      · exact granted
      · exact absurd filled (not_le.mpr few)
    cases read : e.rateLimiter.last with
    | none =>
        refine ⟨0, fun now _ => enough now ?_⟩
        simp only [TokenBucket.refill, read]
        rw [full read]
        exact large
    | some last =>
        refine ⟨last + (1 - e.rateLimiter.tokens) / e.rateLimiter.rate, fun now late => enough now ?_⟩
        have refilled : 1 - e.rateLimiter.tokens ≤ (now - last) * e.rateLimiter.rate := by
          rw [← div_le_iff₀ rate]
          linarith
        simp only [TokenBucket.refill, read]
        exact le_min large (by linarith)

/-! ### Batches finish -/

/-- Where no worker has a segment to run, there is nothing left to do. -/
theorem ended_of_stuck {p : Params} (pool : 1 ≤ p.settings.workerPoolSize)
    (minimum : 1 ≤ p.settings.adaptiveMinConcurrency)
    (maximum : 1 ≤ p.settings.globalMaxConcurrency) {events : List Event} {e : Engine}
    (run : (engineMachine p).Reaches
      (Machine.onLabels (fun label => BeforeShutdown label ∧ WellBehaved label)) events e)
    (stuck : Stuck p e) :
    e.scheduler.pending = 0 ∧
      (∀ task w, e.workers.get? task = some w → w.loc.isDone = true) ∧
      ∀ jobId job, e.store.get jobId = some job → 1 ≤ job.total →
        job.state = .completed ∨ job.state = .cancelled := by
  have before : ∀ (e : Engine) label (e' : Engine), Machine.onLabels
      (fun label => BeforeShutdown label ∧ WellBehaved label) e label e' → BeforeShutdown label :=
    fun _ _ _ allowed => allowed.1
  have idle := idle_of_stuck before minimum maximum run stuck
  have stored := reachable_stored run
  have manned := reachable_manned pool (fun _ _ _ allowed => allowed) run
  refine ⟨no_pending_of_idle stored manned idle, idle, ?_⟩
  intro jobId job found some_
  obtain ⟨prompts, lost, account⟩ :=
    (reachable_ledger True (fun _ _ _ allowed _ => allowed) run).known jobId job found
  have nothing : lost = 0 := account.nothingLost trivial
  subst nothing
  have life := (reachable_lifecycles before run).known jobId job found
  have ended := not_running_of_idle account life some_ stored manned idle
  rcases life.state with running | completed | cancelled
  · exact absurd running ended
  · exact Or.inl completed
  · exact Or.inr cancelled

end EngineProgress
end BatchInference
