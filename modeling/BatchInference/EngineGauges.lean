/-
The gauges of the engine in every state and without workers.

The depth of the queue is set wherever the scheduler changes, and the calls in flight
wherever a permit changes hands before the next suspension. The number of jobs is read
off the scheduler at a submission, a cancellation and a last result only, and the
scheduler keeps a drained queue until some later `pop`.
-/

import BatchInference.EngineCompletion
import BatchInference.EngineRoster

set_option autoImplicit false

namespace BatchInference
namespace EngineGauges

open Engine EngineItems EngineCompletion EnginePermits

variable {p : Params} {ok : Engine → Label → Engine → Prop} {events emitted : List Event}
  {e e' : Engine} {label : Label}

/-! ### The depth of the queue -/

/-- The gauge shows what is queued. -/
def DepthShown (e : Engine) : Prop := e.metrics.queueDepth = e.scheduler.pending

theorem depthShown_record (shown : DepthShown e) (f : InFlight) (result : InferenceResult)
    (cost : ℚ) (credited exhausted : Bool) :
    DepthShown (e.record f result cost credited exhausted) := by
  rw [record_eq]
  split
  · rfl
  · exact shown

theorem depthShown_register (prompts : List PromptItem) (priority : Priority)
    (key : Option String) (newId : JobId) :
    DepthShown (e.register p prompts priority key newId) := by
  unfold DepthShown register ensureWorkers
  simp only [spawn_metrics, spawn_frame]
  rfl

theorem depthShown_worked {task : TaskId} {w : Worker} {action : Action} {g : Engine} {loc : Loc}
    (shown : DepthShown e) (stored : e.Stored)
    (work : WorkStep p e task w action g loc emitted) : DepthShown g := by
  cases work with
  | drained at_ scheduler popped =>
      -- An empty `pop` does not set the gauge, and nothing was queued.
      have none_ := e.scheduler.pop_none_spec scheduler stored.queue popped
      unfold DepthShown
      rw [none_.2.2]
      exact shown
  | skipped at_ scheduler jobId item popped gone => rfl
  | taken at_ scheduler jobId item job popped found alive => rfl
  | recorded f before at_ alone reply jitter result cost credited exhausted settled =>
      exact depthShown_record shown f result cost credited exhausted
  | _ => exact shown

theorem DepthShown.next (shown : DepthShown e) (stored : e.Stored)
    (step : Step p e label e' emitted) : DepthShown e' := by
  cases step with
  | submitted label prompts priority key newId requested quiet named fresh =>
      rcases submit_cases p prompts priority key newId e with ⟨⟨_, _, same⟩, _⟩ | admitted
      · rw [same]
        exact shown
      · rw [admitted.2.2.2.2]
        exact depthShown_register prompts priority key newId
  | cancelled jobId job quiet found unfinished => rfl
  | worked task action w g flag loc emitted found lowered work =>
      have after := depthShown_worked shown stored work
      exact after
  | shutdownReturned ended phase =>
      unfold DepthShown
      rw [(interruptJobs_frame e).2.2.2.2.2.1, (interruptJobs_keeps e).1]
      exact shown
  | _ => exact shown

theorem reachable_depth (run : (engineMachine p).Reaches ok events e) : DepthShown e := by
  have facts := run.along Engine.Stored (fun earlier => reachable_stored earlier)
  refine run_invariant facts (fun _ e => DepthShown e) rfl ?_
  intro _ _ _ _ _ shown _ admissible step
  exact shown.next admissible.2 step

/-! ### The calls in flight -/

/-- A permit has changed hands, and the gauge is set in the same stretch. -/
def changesHands : Loc → Bool
  | .popping => true
  | .releasing _ => true
  | _ => false

theorem running_of_changesHands {loc : Loc} (changes : changesHands loc = true) :
    loc.running = true := by
  cases loc with
  | popping => rfl
  | releasing again => rfl
  | created => cases changes
  | acquiring => cases changes
  | waiting => cases changes
  | gating f => cases changes
  | tokenSleep f seconds => cases changes
  | calling f suspended => cases changes
  | backoff f seconds => cases changes
  | done => cases changes

/-- The gauge shows the permits in use, or is about to. -/
def InflightShown (e : Engine) : Prop :=
  e.metrics.inflight = e.limiter.inUse ∨
    ∃ task w, e.workers.get? task = some w ∧ changesHands w.loc = true

theorem InflightShown.of_atAwait (shown : InflightShown e) (quiet : e.atAwait = true) :
    e.metrics.inflight = e.limiter.inUse := by
  rcases shown with same | ⟨task, w, found, changes⟩
  · exact same
  · have suspended := (atAwait_iff e).mp quiet task w found
    rw [running_of_changesHands changes] at suspended
    cases suspended

/-- One stretch of a worker: the gauge is set, or it is about to be, or neither it nor the
permits have moved and the worker was not about to set it. -/
theorem inflight_worked {task : TaskId} {w : Worker} {action : Action} {g : Engine} {loc : Loc}
    (work : WorkStep p e task w action g loc emitted) :
    g.metrics.inflight = g.limiter.inUse ∨ changesHands loc = true ∨
      g.metrics.inflight = e.metrics.inflight ∧ g.limiter.inUse = e.limiter.inUse ∧
        changesHands w.loc = false := by
  cases work with
  | granted at_ free => exact Or.inr (Or.inl rfl)
  | drained at_ scheduler popped => exact Or.inr (Or.inl rfl)
  | skipped at_ scheduler jobId item popped gone => exact Or.inl rfl
  | taken at_ scheduler jobId item job popped found alive => exact Or.inl rfl
  | recorded f before at_ alone reply jitter result cost credited exhausted settled =>
      exact Or.inr (Or.inl rfl)
  | lost f before at_ alone reply jitter credited settled => exact Or.inr (Or.inl rfl)
  | callCancelled f before at_ alone reply jitter settled => exact Or.inr (Or.inl rfl)
  | left again at_ => exact Or.inl rfl
  | sleepCancelled f seconds at_ requested quiet => exact Or.inr (Or.inl rfl)
  | _ =>
      refine Or.inr (Or.inr ⟨rfl, rfl, ?_⟩)
      simp only [*]
      rfl

/-- Outside the workers' code neither the gauge nor a place of a worker moves. -/
theorem inflightShown_of_same (shown : InflightShown e) (gauge : e'.metrics.inflight =
    e.metrics.inflight) (limiter : e'.limiter = e.limiter) (kept : ∀ task w,
      e.workers.get? task = some w → changesHands w.loc = true →
        ∃ w', e'.workers.get? task = some w' ∧ w'.loc = w.loc) : InflightShown e' := by
  rcases shown with same | ⟨task, w, found, changes⟩
  · left
    rw [gauge, limiter]
    exact same
  · obtain ⟨w', found', same⟩ := kept task w found changes
    exact Or.inr ⟨task, w', found', by rw [same]; exact changes⟩

theorem inflight_register (prompts : List PromptItem) (priority : Priority)
    (key : Option String) (newId : JobId) :
    (e.register p prompts priority key newId).metrics.inflight = e.metrics.inflight := by
  unfold register ensureWorkers
  rw [spawn_metrics]
  rfl

theorem InflightShown.next (shown : InflightShown e) (step : Step p e label e' emitted) : InflightShown e' := by
  cases step with
  | submitted label prompts priority key newId requested quiet named fresh =>
      rcases submit_cases p prompts priority key newId e with ⟨⟨_, _, same⟩, _⟩ | admitted
      · rw [same]
        exact inflightShown_of_same shown rfl rfl (fun _ w found _ => ⟨w, found, rfl⟩)
      · left
        rw [admitted.2.2.2.2, inflight_register]
        simp only [register_frame]
        exact shown.of_atAwait quiet
  | cancelled jobId job quiet found unfinished =>
      exact inflightShown_of_same shown rfl rfl (fun _ w found _ => ⟨w, found, rfl⟩)
  | worked task action w g flag loc emitted found lowered work =>
      rcases inflight_worked work with set | changes | ⟨gauge, inUse, unrelated⟩
      · exact Or.inl set
      · refine Or.inr ⟨task, { loc := loc, cancelRequested := flag }, ?_, changes⟩
        rw [get?_moveTo, if_pos rfl]
      · rcases shown with same | ⟨other, w', found', changes⟩
        · left
          exact gauge.trans (same.trans inUse.symm)
        · have different : other ≠ task := by
            rintro rfl
            rw [found, Option.some.injEq] at found'
            rw [found', changes] at unrelated
            cases unrelated
          refine Or.inr ⟨other, w', ?_, changes⟩
          rw [get?_moveTo, if_neg different, work.workers.1]
          exact found'
  | graceExpired quiet phase =>
      refine inflightShown_of_same shown rfl rfl (fun task w found _ => ?_)
      refine ⟨{ w with cancelRequested := !w.loc.isDone }, ?_, rfl⟩
      unfold requestCancels
      rw [Dict.get?_mapValues, found]
      rfl
  | shutdownReturned ended phase =>
      obtain ⟨limiter, _, workers, _, _, metrics, _⟩ := interruptJobs_frame e
      refine inflightShown_of_same shown (by rw [metrics]) limiter (fun _ w found _ => ?_)
      rw [workers]
      exact ⟨w, found, rfl⟩
  | _ => exact inflightShown_of_same shown rfl rfl (fun _ w found _ => ⟨w, found, rfl⟩)

theorem reachable_inflight (run : (engineMachine p).Reaches ok events e) : InflightShown e := by
  refine run_invariant run (fun _ e => InflightShown e) (Or.inl rfl) ?_
  intro _ _ _ _ _ shown _ _ step
  exact shown.next step

/-! ### The jobs in the scheduler -/

/-- The reply is recorded, and the worker's job has its last result. -/
def LastResult (p : Params) (e : Engine) (f : InFlight) (reply : Reply) (jitter : ℚ) : Prop :=
  completes e f.jobId = true ∧ ∃ result cost credited exhausted,
    settle p.settings f.item f.attempt jitter reply = .record result cost credited exhausted

/-- The step ends the last active job while the scheduler still lists a queue, be it
a drained one, apart from the queue that a cancellation drops. -/
def EndsBeforeDrop (p : Params) (e : Engine) : Label → Prop
  | .cancel jobId => e.active = {jobId} ∧ (e.scheduler.removeJob jobId).1.activeJobs ≠ 0
  | .work task (.reply reply jitter) => ∃ w f suspended, e.workers.get? task = some w ∧
      w.loc = .calling f suspended ∧ e.active = {f.jobId} ∧ LastResult p e f reply jitter ∧
        e.scheduler.activeJobs ≠ 0
  | _ => False

/-- Without active jobs the gauge is at zero. -/
def JobsShown (e : Engine) : Prop := e.active = ∅ → e.metrics.activeJobs = 0

/-- The last active job is the one that ends. -/
theorem active_of_erase {jobId : JobId} (running : jobId ∈ e.active)
    (last : e.active.erase jobId = ∅) : e.active = {jobId} := by
  rw [← Finset.insert_erase running, last]
  rfl

theorem jobsShown_worked {task : TaskId} {w : Worker} {action : Action} {g : Engine} {loc : Loc}
    (shown : JobsShown e) (roster : Roster e) (found : e.workers.get? task = some w)
    (drops : ¬EndsBeforeDrop p e (.work task action))
    (work : WorkStep p e task w action g loc emitted) : JobsShown g := by
  cases work with
  | recorded f before at_ alone reply jitter result cost credited exhausted settled =>
      unfold JobsShown
      rw [record_eq]
      split
      · rename_i last
        intro ended
        -- The gauge is set to what the scheduler lists.
        change e.scheduler.activeJobs = 0
        change e.active.erase f.jobId = ∅ at ended
        by_contra listed
        have running : f.jobId ∈ e.active :=
          (roster.active f.jobId).mpr (stateOf_of_completes last)
        exact drops ⟨w, f, before, found, at_, active_of_erase running ended,
          ⟨last, result, cost, credited, exhausted, settled⟩, listed⟩
      · exact shown
  | _ => exact shown

theorem JobsShown.next (shown : JobsShown e) (roster : Roster e) (serves : Serves label)
    (drops : ¬EndsBeforeDrop p e label) (step : Step p e label e' emitted) : JobsShown e' := by
  cases step with
  | submitted label prompts priority key newId requested quiet named fresh =>
      rcases submit_cases p prompts priority key newId e with ⟨⟨_, _, same⟩, _⟩ | admitted
      · rw [same]
        exact shown
      · intro nobody
        have active : (e.submitWithIdempotency p prompts priority key newId).1.active =
            insert newId e.active := by
          rw [admitted.2.2.2.2]
          simp only [register_frame]
        rw [active] at nobody
        exact absurd nobody (Finset.insert_ne_empty newId e.active)
  | cancelled jobId job quiet found unfinished =>
      intro ended
      change (e.scheduler.removeJob jobId).1.activeJobs = 0
      change e.active.erase jobId = ∅ at ended
      by_contra listed
      have known : e.stateOf jobId = some job.state :=
        Option.map_eq_some_iff.mpr ⟨job, found, rfl⟩
      have running : jobId ∈ e.active := by
        rw [roster.active, known, roster.running_of_open known unfinished]
      exact drops ⟨active_of_erase running ended, listed⟩
  | worked task action w g flag loc emitted found lowered work =>
      have after := jobsShown_worked shown roster found drops work
      exact after
  | shutdownStarted quiet phase => exact serves.elim
  | graceExpired quiet phase => exact serves.elim
  | shutdownReturned ended phase => exact serves.elim
  | _ => exact shown

/-- Along runs in which every job that ends last leaves an empty scheduler behind. -/
theorem reachable_jobsShown
    (allowed : ∀ e label e', ok e label e' → BeforeShutdown label ∧ ¬EndsBeforeDrop p e label)
    (run : (engineMachine p).Reaches ok events e) : JobsShown e := by
  have facts := run.along Roster (fun earlier => reachable_roster earlier)
  refine (serving_invariant (fun e label e' admissible => (allowed e label e' admissible.1).1)
    facts (fun _ e => JobsShown e) (fun _ => rfl) ?_).1
  intro _ _ _ _ _ shown _ _ serves admissible step
  exact shown.next admissible.2 serves (allowed _ _ _ admissible.1).2 step

/-! ### Without workers -/

/-- No worker is live. -/
def Idle (e : Engine) : Prop := ∀ task w, e.workers.get? task = some w → w.loc.isDone = true

/-- Every batch that was submitted has a prompt. -/
def NoneEmpty (events : List Event) : Prop :=
  ∀ prompts priority key result, Event.submitted prompts priority key result ∈ events →
    prompts ≠ []

theorem submitted_of_submissionOf {jobId : JobId} {prompts : List PromptItem}
    (submitted : submissionOf jobId events = some prompts) :
    ∃ priority key result, Event.submitted prompts priority key result ∈ events := by
  unfold submissionOf at submitted
  obtain ⟨event, member, read⟩ := List.exists_of_findSome?_eq_some submitted
  unfold submission at read
  split at read
  · split at read
    · cases read
      exact ⟨_, _, _, member⟩
    · cases read
  · cases read

theorem active_of_idle (pool : 1 ≤ p.settings.workerPoolSize)
    (allowed : ∀ e label e', ok e label e' → BeforeShutdown label ∧ WellBehaved label)
    (run : (engineMachine p).Reaches ok events e) (some_ : NoneEmpty events) (idle : Idle e) :
    e.active = ∅ := by
  have roster := reachable_roster run
  have ledger := reachable_ledger True (fun e label e' admissible _ => allowed e label e' admissible)
    run
  have lives := reachable_lifecycles (fun e label e' admissible => (allowed e label e'
    admissible).1) run
  rw [Finset.eq_empty_iff_forall_notMem]
  intro jobId member
  obtain ⟨job, found, running⟩ := Option.map_eq_some_iff.mp ((roster.active jobId).mp member)
  obtain ⟨prompts, lost, account⟩ := ledger.known jobId job found
  rw [account.nothingLost trivial] at account
  obtain ⟨priority, key, result, asked⟩ := submitted_of_submissionOf account.submitted
  have nonempty : 1 ≤ job.total := by
    rw [account.total]
    exact List.length_pos_iff.mpr (some_ _ _ _ _ asked)
  exact not_running_of_idle account (lives.known jobId job found) nonempty (reachable_stored run)
    (reachable_manned pool allowed run) idle running

theorem inUse_of_idle (permits : Permits e) (idle : Idle e) : e.limiter.inUse = 0 := by
  rw [permits.held]
  apply Int.natCast_eq_zero.mpr
  apply Dict.count_eq_zero
  intro task w found
  rw [Loc.eq_done (idle task w found)]
  rfl

theorem atAwait_of_idle (idle : Idle e) : e.atAwait = true := by
  rw [atAwait_iff]
  intro task w found
  rw [Loc.eq_done (idle task w found)]
  rfl

/-! ### A queue that is left behind -/

/-- No job is active, and the gauge shows some. -/
structure LeftBehind (e : Engine) : Prop where
  active : e.active = ∅
  gauge : e.metrics.activeJobs ≠ 0

theorem recorded_of_settle {task : TaskId} {w : Worker} {g : Engine} {loc : Loc} {f : InFlight}
    {suspended credited exhausted : Bool} {reply : Reply} {jitter cost : ℚ}
    {result : InferenceResult} (at_ : w.loc = .calling f suspended)
    (settled : settle p.settings f.item f.attempt jitter reply =
      .record result cost credited exhausted)
    (work : WorkStep p e task w (.reply reply jitter) g loc emitted) :
    g = e.record f result cost credited exhausted := by
  cases work with
  | retried f' before there alone reply jitter seconds settled' =>
      rw [at_] at there
      cases there
      rw [settled] at settled'
      cases settled'
  | recorded f' before there alone reply jitter result' cost' credited' exhausted' settled' =>
      rw [at_] at there
      cases there
      rw [settled] at settled'
      cases settled'
      rfl
  | lost f' before there alone reply jitter credited' settled' =>
      rw [at_] at there
      cases there
      rw [settled] at settled'
      cases settled'
  | callCancelled f' before there alone reply jitter settled' =>
      rw [at_] at there
      cases there
      rw [settled] at settled'
      cases settled'

theorem leftBehind_of_ends (roster : Roster e) (ends : EndsBeforeDrop p e label)
    (stepped : (engineMachine p).step e label = some (e', emitted)) : LeftBehind e' := by
  cases label with
  | cancel jobId =>
      obtain ⟨last, listed⟩ := ends
      have member : jobId ∈ e.active := by simp [last]
      obtain ⟨job, found, running⟩ := Option.map_eq_some_iff.mp ((roster.active jobId).mp member)
      have unfinished : isOpen job.state = true := by
        rw [running]
        rfl
      have known : e.store.get jobId = some job := found
      change Engine.step p e (.cancel jobId) = some (e', emitted) at stepped
      simp only [Engine.step, Engine.cancel, known, unfinished, if_true] at stepped
      split at stepped
      · cases stepped
        constructor
        · change e.active.erase jobId = ∅
          simp [last]
        · exact listed
      · cases stepped
  | work task action =>
      obtain ⟨w, g, flag, loc, found, rfl, _, work⟩ := work_cases stepped
      cases action with
      | reply reply jitter =>
          obtain ⟨w', f, suspended, found', at_, last, ⟨complete, result, cost, credited,
            exhausted, settled⟩, listed⟩ := ends
          rw [found, Option.some.injEq] at found'
          subst found'
          rw [recorded_of_settle at_ settled work, record_eq, if_pos complete]
          constructor
          · change e.active.erase f.jobId = ∅
            simp [last]
          · exact listed
      | _ => exact ends.elim
  | _ => exact ends.elim

/-- The step admits no new batch. -/
def AdmitsNone (events : List Event) : Prop :=
  ∀ prompts priority key newId,
    Event.submitted prompts priority key (.job newId false) ∉ events

/-- Nothing but a new submission sets the gauge again. -/
theorem LeftBehind.next (left : LeftBehind e) (roster : Roster e) (none_ : AdmitsNone emitted)
    (step : Step p e label e' emitted) : LeftBehind e' := by
  have nobody : ∀ jobId, e.stateOf jobId ≠ some .running := by
    intro jobId running
    have member := (roster.active jobId).mpr running
    rw [left.active] at member
    exact absurd member (Finset.notMem_empty jobId)
  cases step with
  | submitted label prompts priority key newId requested quiet named fresh =>
      rcases submit_cases p prompts priority key newId e with ⟨⟨_, _, same⟩, _⟩ | admitted
      · rw [same]
        exact ⟨left.active, left.gauge⟩
      · rw [admitted.2.2.2.2] at none_
        exact absurd (List.mem_singleton_self _) (none_ prompts priority key newId)
  | cancelled jobId job quiet found unfinished =>
      have known : e.stateOf jobId = some job.state :=
        Option.map_eq_some_iff.mpr ⟨job, found, rfl⟩
      rw [roster.running_of_open known unfinished] at known
      exact absurd known (nobody jobId)
  | worked task action w g flag loc emitted found lowered work =>
      cases work with
      | recorded f before at_ alone reply jitter result cost credited exhausted settled =>
          have open_ : completes e f.jobId = false := by
            rw [Bool.eq_false_iff]
            exact fun last => nobody f.jobId (stateOf_of_completes last)
          rw [record_eq, open_]
          exact ⟨left.active, left.gauge⟩
      | _ => exact ⟨left.active, left.gauge⟩
  | shutdownReturned ended phase =>
      constructor
      · rw [Finset.eq_empty_iff_forall_notMem]
        intro jobId member
        have listed := (((interruptJobs_roster e).1 jobId).mp member).1
        rw [left.active] at listed
        exact absurd listed (Finset.notMem_empty jobId)
      · rw [(interruptJobs_frame e).2.2.2.2.2.1]
        exact left.gauge
  | _ => exact ⟨left.active, left.gauge⟩

theorem leftBehind_lasts {first later : List Event} (before : (engineMachine p).Reaches ok first e)
    (left : LeftBehind e) (run : (engineMachine p).Run Machine.anyStep e later e')
    (none_ : AdmitsNone later) : LeftBehind e' := by
  have facts := run.along Roster (fun earlier => reachable_roster (before.anyStep.trans earlier))
  refine facts.invariant (fun later e' => AdmitsNone later → LeftBehind e') (fun _ => left) ?_ none_
  intro earlier emitted _ _ _ kept admissible stepped silent
  refine (kept ?_).next admissible.2 ?_ (step_cases stepped)
  · exact fun _ _ _ _ member => silent _ _ _ _ (List.mem_append_left _ member)
  · exact fun _ _ _ _ member => silent _ _ _ _ (List.mem_append_right _ member)

/-! ### The gauges -/

theorem depth_of_idle (pool : 1 ≤ p.settings.workerPoolSize)
    (allowed : ∀ e label e', ok e label e' → BeforeShutdown label ∧ WellBehaved label)
    (run : (engineMachine p).Reaches ok events e) (idle : Idle e) :
    e.metrics.queueDepth = 0 ∧ e.metrics.inflight = 0 := by
  have depth := reachable_depth run
  unfold DepthShown at depth
  constructor
  · rw [depth]
    exact no_pending_of_idle (reachable_stored run) (reachable_manned pool allowed run) idle
  · rw [(reachable_inflight run).of_atAwait (atAwait_of_idle idle)]
    exact inUse_of_idle (reachable_permits run) idle

/-- The depth of the queue and the calls in flight are shown in every state. Without live
workers all gauges read zero as long as no step ends the last active job before the
scheduler has dropped its queue; after such a step the number of jobs is wrong until the
next submission. -/
theorem idle_gauges (p : Params) (pool : 1 ≤ p.settings.workerPoolSize) :
    (∀ events e, (engineMachine p).Reaches Machine.anyStep events e →
      e.metrics.queueDepth = e.scheduler.pending ∧
        (e.atAwait = true → e.metrics.inflight = e.limiter.inUse)) ∧
    (∀ events e, (engineMachine p).Reaches (Machine.onLabels
          (fun label => BeforeShutdown label ∧ WellBehaved label)) events e → Idle e →
        e.metrics.queueDepth = 0 ∧ e.metrics.inflight = 0) ∧
    (∀ events e, (engineMachine p).Reaches (fun e label _ =>
          (BeforeShutdown label ∧ WellBehaved label) ∧ ¬EndsBeforeDrop p e label) events e →
      NoneEmpty events → Idle e →
        e.metrics.queueDepth = 0 ∧ e.metrics.inflight = 0 ∧ e.metrics.activeJobs = 0) ∧
    ∀ events e label e' emitted later e'',
      (engineMachine p).Reaches Machine.anyStep events e →
      (engineMachine p).step e label = some (e', emitted) → EndsBeforeDrop p e label →
      (engineMachine p).Run Machine.anyStep e' later e'' → AdmitsNone later →
        e''.metrics.activeJobs ≠ 0 := by
  refine ⟨?_, ?_, ?_, ?_⟩
  · exact fun events e run => ⟨reachable_depth run, (reachable_inflight run).of_atAwait⟩
  · exact fun events e run idle => depth_of_idle pool (fun _ _ _ allowed => allowed) run idle
  · intro events e run some_ idle
    obtain ⟨depth, inflight⟩ := depth_of_idle pool (fun _ _ _ allowed => allowed.1) run idle
    have shown : JobsShown e :=
      reachable_jobsShown (fun _ _ _ allowed => ⟨allowed.1.1, allowed.2⟩) run
    exact ⟨depth, inflight,
      shown (active_of_idle pool (fun _ _ _ allowed => allowed.1) run some_ idle)⟩
  · intro events e label e' emitted later e'' run stepped ends after none_
    have left := leftBehind_of_ends (reachable_roster run) ends stepped
    exact (leftBehind_lasts (run.snoc label trivial stepped) left after none_).gauge

/-- The tests of the conditions on a concrete run. -/
def isIdle (e : Engine) : Bool := e.workers.values.all (fun w => w.loc.isDone)

theorem idle_of_check (checked : isIdle e = true) : Idle e := by
  intro task w found
  exact List.all_eq_true.mp checked w ((e.workers.mem_values_iff w).mpr ⟨task, found⟩)

def hasPrompts : Event → Bool
  | .submitted prompts _ _ _ => !prompts.isEmpty
  | _ => true

theorem noneEmpty_of_check (checked : events.all hasPrompts = true) : NoneEmpty events := by
  rintro _ priority key result member rfl
  exact Bool.false_ne_true (List.all_eq_true.mp checked _ member)

def endsAfterDrop (e : Engine) : Label → Bool
  | .cancel _ => false
  | .work task (.reply _ _) => decide (e.scheduler.activeJobs = 0) ||
      (e.workers.get? task).all (fun w => w.loc.flight.all (fun f => !completes e f.jobId))
  | _ => true

theorem not_endsBeforeDrop_of_check (checked : endsAfterDrop e label = true) :
    ¬EndsBeforeDrop p e label := by
  intro ends
  cases label with
  | cancel jobId => cases checked
  | work task action =>
      cases action with
      | reply reply jitter =>
          obtain ⟨w, f, suspended, found, at_, _, ⟨complete, _⟩, listed⟩ := ends
          simp [endsAfterDrop, found, at_, Loc.flight, complete, listed] at checked
      | _ => exact ends
  | _ => exact ends

/-- Two workers take a prompt each. The first one drains the scheduler before the second
one ends the job. -/
def dropThenEnd : List Label :=
  [.submit [{ id := none, prompt := "hello" }, { id := none, prompt := "again" }] .normal none "a",
    .work 0 .start, .work 0 .enter, .work 0 .take, .work 0 .gate, .work 0 .suspend,
    .work 1 .start, .work 1 .enter, .work 1 .take, .work 1 .gate, .work 1 .suspend,
    .work 0 (.reply (.returned "hi") 0), .work 0 .leave,
    .work 0 .enter, .work 0 .take, .work 0 .leave,
    .work 1 (.reply (.returned "hi") 0), .work 1 .leave,
    .work 1 .enter, .work 1 .take, .work 1 .leave]

theorem idle_gauges_dropped :
    ∃ events e, (engineMachine shipped).Reaches (fun e label _ =>
        (BeforeShutdown label ∧ WellBehaved label) ∧ ¬EndsBeforeDrop shipped e label) events e ∧
      Idle e ∧ e.metrics.jobsCompleted = 1 ∧
      e.metrics.queueDepth = 0 ∧ e.metrics.inflight = 0 ∧ e.metrics.activeJobs = 0 := by
  rcases @Machine.exists_run_of_exec _ _ _ (engineMachine shipped)
      (fun e label _ =>
        (BeforeShutdown label ∧ WellBehaved label) ∧ ¬EndsBeforeDrop shipped e label)
      (engineMachine shipped).initial
      (fun e label _ => isWellBehaved label && endsAfterDrop e label)
      (fun _ _ _ checked => by
        rw [Bool.and_eq_true] at checked
        exact ⟨wellBehaved_of_check checked.1, not_endsBeforeDrop_of_check checked.2⟩)
      dropThenEnd
      (fun outcome => isIdle outcome.2 && outcome.1.all hasPrompts &&
        decide (outcome.2.metrics.jobsCompleted = 1)) (by decide +kernel) with
    ⟨events, e, run, tested⟩
  rw [Bool.and_eq_true, Bool.and_eq_true, decide_eq_true_eq] at tested
  have idle := idle_of_check tested.1.1
  obtain ⟨_, _, gauges, _⟩ := idle_gauges shipped (by decide)
  exact ⟨events, e, run, idle, tested.2,
    gauges events e run (noneEmpty_of_check tested.1.2) idle⟩

/-- With the shipped settings one prompt is answered and its worker ends: the number of
jobs in the scheduler stays at one. -/
theorem idle_gauge_counts_drained :
    ∃ events e, (engineMachine shipped).Reaches
        (Machine.onLabels (fun label => BeforeShutdown label ∧ WellBehaved label)) events e ∧
      NoneEmpty events ∧ Idle e ∧ e.metrics.jobsSubmitted = 1 ∧ e.scheduler.activeJobs = 0 ∧
      e.metrics.activeJobs = 1 := by
  rcases @Machine.exists_run_of_exec _ _ _ (engineMachine shipped)
      (Machine.onLabels (fun label => BeforeShutdown label ∧ WellBehaved label))
      (engineMachine shipped).initial (fun _ label _ => isWellBehaved label)
      (fun _ _ _ checked => wellBehaved_of_check checked)
      [.submit [{ id := none, prompt := "hello" }] .normal none "a",
        .work 0 .start, .work 0 .enter, .work 0 .take, .work 0 .gate, .work 0 .suspend,
        .work 0 (.reply (.returned "hi") 0), .work 0 .leave,
        .work 0 .enter, .work 0 .take, .work 0 .leave]
      (fun outcome => isIdle outcome.2 && outcome.1.all hasPrompts &&
        decide (outcome.2.metrics.jobsSubmitted = 1) &&
        decide (outcome.2.scheduler.activeJobs = 0) &&
        decide (outcome.2.metrics.activeJobs = 1)) (by decide +kernel) with
    ⟨events, e, run, tested⟩
  simp only [Bool.and_eq_true, decide_eq_true_eq] at tested
  obtain ⟨⟨⟨⟨idle, prompts⟩, submitted⟩, dropped⟩, gauge⟩ := tested
  exact ⟨events, e, run, noneEmpty_of_check prompts, idle_of_check idle, submitted, dropped,
    gauge⟩

end EngineGauges
end BatchInference
