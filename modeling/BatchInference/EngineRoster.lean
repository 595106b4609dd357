/-
The active set, the job counters and the states of the jobs through one step.

Admission, the last result, a cancellation and the end of a shutdown are the only
places that touch them. What each of them does is said once here, and the results
about admission, shutdown and accounting are read off it.
-/

import BatchInference.EngineItems

set_option autoImplicit false

namespace BatchInference
namespace Engine

/-- The state of a job of the store. -/
def stateOf (e : Engine) (jobId : JobId) : Option JobState :=
  (e.store.jobs.get? jobId).map Job.state

/-- Jobs submitted, completed and cancelled, as the metrics count them. -/
def jobCounters (e : Engine) : Nat × Nat × Nat :=
  (e.metrics.jobsSubmitted, e.metrics.jobsCompleted, e.metrics.jobsCancelled)

/-- The state of a job after the end of a shutdown. -/
def closed (state : JobState) : JobState := if isOpen state then .cancelled else state

/-- What a step does to the jobs as a whole. -/
inductive RosterStep (p : Params) (e : Engine) (label : Label) (e' : Engine) : Prop where
  | quiet (active : e'.active = e.active) (states : ∀ jobId, e'.stateOf jobId = e.stateOf jobId)
      (counters : e'.jobCounters = e.jobCounters)
      (pending : e'.scheduler.pending ≤ e.scheduler.pending)
  | admitted (newId : JobId) (count : Nat) (fresh : e.stateOf newId = none)
      (below : e.activeJobs < p.settings.maxActiveJobs)
      (room : e.scheduler.pending + count ≤ p.settings.maxQueueSize)
      (active : e'.active = insert newId e.active)
      (states : ∀ jobId, e'.stateOf jobId =
        if jobId = newId then some .running else e.stateOf jobId)
      (counters : e'.jobCounters =
        (e.jobCounters.1 + 1, e.jobCounters.2.1, e.jobCounters.2.2))
      (pending : e'.scheduler.pending = e.scheduler.pending + count)
  | completed (jobId : JobId) (running : e.stateOf jobId = some .running)
      (active : e'.active = e.active.erase jobId)
      (states : ∀ other, e'.stateOf other =
        if other = jobId then some .completed else e.stateOf other)
      (counters : e'.jobCounters =
        (e.jobCounters.1, e.jobCounters.2.1 + 1, e.jobCounters.2.2))
      (pending : e'.scheduler.pending = e.scheduler.pending)
  | cancelled (jobId : JobId) (state : JobState) (known : e.stateOf jobId = some state)
      (unfinished : isOpen state = true) (active : e'.active = e.active.erase jobId)
      (states : ∀ other, e'.stateOf other =
        if other = jobId then some .cancelled else e.stateOf other)
      (counters : e'.jobCounters =
        (e.jobCounters.1, e.jobCounters.2.1, e.jobCounters.2.2 + 1))
      (pending : e'.scheduler.pending ≤ e.scheduler.pending)
  | interrupted (ending : label = .shutdownReturned)
      (active : ∀ jobId, jobId ∈ e'.active ↔ jobId ∈ e.active ∧
        ¬∃ state, e.stateOf jobId = some state ∧ isOpen state = true)
      (states : ∀ jobId, e'.stateOf jobId = (e.stateOf jobId).map closed)
      (counters : e'.jobCounters = e.jobCounters)
      (pending : e'.scheduler.pending = e.scheduler.pending)

/-- Only the named quantities matter. -/
theorem RosterStep.congr {p : Params} {e g e' : Engine} {label : Label}
    (step : RosterStep p e label g) (active : e'.active = g.active)
    (states : ∀ jobId, e'.stateOf jobId = g.stateOf jobId)
    (counters : e'.jobCounters = g.jobCounters)
    (pending : e'.scheduler.pending = g.scheduler.pending) : RosterStep p e label e' := by
  cases step with
  | quiet active' states' counters' pending' =>
      exact .quiet (active.trans active') (fun jobId => (states jobId).trans (states' jobId))
        (counters.trans counters') (pending.le.trans pending')
  | admitted newId count fresh below room active' states' counters' pending' =>
      exact .admitted newId count fresh below room (active.trans active')
        (fun jobId => (states jobId).trans (states' jobId)) (counters.trans counters')
        (pending.trans pending')
  | completed jobId running active' states' counters' pending' =>
      exact .completed jobId running (active.trans active')
        (fun jobId => (states jobId).trans (states' jobId)) (counters.trans counters')
        (pending.trans pending')
  | cancelled jobId state known unfinished active' states' counters' pending' =>
      exact .cancelled jobId state known unfinished (active.trans active')
        (fun jobId => (states jobId).trans (states' jobId)) (counters.trans counters')
        (pending.le.trans pending')
  | interrupted ending active' states' counters' pending' =>
      exact .interrupted ending (fun jobId => by rw [active]; exact active' jobId)
        (fun jobId => (states jobId).trans (states' jobId)) (counters.trans counters')
        (pending.trans pending')

theorem stateOf_update (e e' : Engine) (jobId other : JobId) (change : Job → Job)
    (store : e'.store = e.store.update jobId change) :
    e'.stateOf other = if other = jobId then (e.store.jobs.get? jobId).map (Job.state ∘ change)
      else e.stateOf other := by
  unfold stateOf
  rw [store, InMemoryJobStore.get?_update]
  by_cases same : other = jobId
  · rw [if_pos same, if_pos same, Option.map_map]
  · rw [if_neg same, if_neg same]

theorem stateOf_finalize (jobId other : JobId) (state : JobState) (e : Engine) :
    (e.finalize jobId state).stateOf other =
      if other = jobId then (e.stateOf jobId).map (fun _ => state) else e.stateOf other := by
  rw [stateOf_update e _ jobId other (Job.finish state e.wallTime) (finalize_frame jobId state e).1]
  unfold stateOf
  rw [Option.map_map]
  rfl

theorem jobCounters_finalize (jobId : JobId) (state : JobState) (e : Engine) :
    (e.finalize jobId state).jobCounters =
      (e.jobCounters.1, e.jobCounters.2.1 + (if state = .completed then 1 else 0),
        e.jobCounters.2.2) := by
  unfold finalize jobCounters
  by_cases completes : state = .completed
  · simp only [if_pos completes]
  · simp only [if_neg completes]
    rfl

/-- A result with all its counters, before the job may end. -/
def fileResult (f : InFlight) (result : InferenceResult) (cost : ℚ) (credited exhausted : Bool)
    (e : Engine) : Engine :=
  { e with
    limiter := if credited then e.limiter.recordSuccess else e.limiter
    store := e.store.update f.jobId (Job.record f.item.seq result cost)
    metrics := e.countResult f result cost exhausted }

theorem stateOf_fileResult (f : InFlight) (result : InferenceResult) (cost : ℚ)
    (credited exhausted : Bool) (e : Engine) (jobId : JobId) :
    (e.fileResult f result cost credited exhausted).stateOf jobId = e.stateOf jobId := by
  rw [stateOf_update e _ f.jobId jobId (Job.record f.item.seq result cost) rfl]
  by_cases same : jobId = f.jobId
  · rw [if_pos same, same]
    unfold stateOf
    congr 1
    funext job
    simp only [Function.comp_apply, Job.record]
    split <;> rfl
  · rw [if_neg same]

/-- One more result completes the job. -/
def completes (e : Engine) (jobId : JobId) : Bool :=
  (e.store.get jobId).any
    (fun job => decide (job.total ≤ job.completed + 1) && decide (job.state = .running))

/-- The result is filed, and the last one ends the job and sets the gauges. -/
theorem record_eq (f : InFlight) (result : InferenceResult) (cost : ℚ)
    (credited exhausted : Bool) (e : Engine) :
    e.record f result cost credited exhausted =
      if completes e f.jobId then
        ((e.fileResult f result cost credited exhausted).finalize f.jobId
          .completed).refreshGauges
      else e.fileResult f result cost credited exhausted := by
  have filed : (e.fileResult f result cost credited exhausted).store.get f.jobId =
      (e.store.get f.jobId).map (Job.record f.item.seq result cost) := by
    unfold fileResult InMemoryJobStore.get
    rw [InMemoryJobStore.get?_update, if_pos rfl]
  have ended : ∀ job : Job, (Job.record f.item.seq result cost job).total = job.total ∧
      (Job.record f.item.seq result cost job).completed = job.completed + 1 ∧
      (Job.record f.item.seq result cost job).state = job.state := by
    intro job
    unfold Job.record
    simp only
    split
    · exact ⟨rfl, rfl, rfl⟩
    · exact ⟨rfl, rfl, rfl⟩
  unfold record
  simp only
  split
  · rename_i missing
    have unknown := Option.map_eq_none_iff.mp (filed.symm.trans missing)
    unfold completes
    rw [unknown]
    rfl
  · rename_i job' found'
    obtain ⟨job, found, rfl⟩ := Option.map_eq_some_iff.mp (filed.symm.trans found')
    obtain ⟨total, completed, state⟩ := ended job
    unfold completes
    simp only [found, Option.any_some, total, completed, state, Bool.and_eq_true,
      decide_eq_true_eq]
    rfl

theorem stateOf_of_completes {e : Engine} {jobId : JobId} (last : completes e jobId = true) :
    e.stateOf jobId = some .running := by
  obtain ⟨job, found, complete⟩ := (Option.any_eq_true _ _).mp last
  rw [Bool.and_eq_true, decide_eq_true_eq, decide_eq_true_eq] at complete
  exact Option.map_eq_some_iff.mpr ⟨job, found, complete.2⟩

/-- After a result the job goes on, or this was the last one. -/
theorem record_cases (f : InFlight) (result : InferenceResult) (cost : ℚ)
    (credited exhausted : Bool) (e : Engine) :
    e.record f result cost credited exhausted = e.fileResult f result cost credited exhausted ∨
      e.stateOf f.jobId = some .running ∧
        e.record f result cost credited exhausted =
          ((e.fileResult f result cost credited exhausted).finalize f.jobId
            .completed).refreshGauges := by
  rw [record_eq]
  split
  · rename_i last
    exact Or.inr ⟨stateOf_of_completes last, rfl⟩
  · exact Or.inl rfl

/-- Recording a result leaves the roster alone, or it completes the job. -/
theorem record_roster (p : Params) (label : Label) (f : InFlight) (result : InferenceResult)
    (cost : ℚ) (credited exhausted : Bool) (e : Engine) :
    RosterStep p e label (e.record f result cost credited exhausted) := by
  have states := stateOf_fileResult f result cost credited exhausted e
  rcases record_cases f result cost credited exhausted e with filed | ⟨running, ended⟩
  · rw [filed]
    exact .quiet rfl states rfl (le_refl _)
  · rw [ended]
    refine .completed f.jobId running rfl ?_ ?_ rfl
    · intro other
      change ((e.fileResult f result cost credited exhausted).finalize f.jobId
        .completed).stateOf other = _
      rw [stateOf_finalize, states, states, running]
      rfl
    · change ((e.fileResult f result cost credited exhausted).finalize f.jobId
        .completed).jobCounters = _
      rw [jobCounters_finalize]
      rfl

private theorem roster_work {p : Params} {e g : Engine} {task : TaskId} {w : Worker}
    {action : Action} {loc : Loc} {emitted : List Event} (queue : e.scheduler.WellFormed)
    (label : Label) (work : WorkStep p e task w action g loc emitted) :
    RosterStep p e label g := by
  have popped : ∀ scheduler served, e.scheduler.pop = (scheduler, served) →
      scheduler.pending ≤ e.scheduler.pending := by
    intro scheduler served popped
    cases served with
    | none =>
        rw [(e.scheduler.pop_none_spec scheduler queue popped).2.2]
    | some served =>
        have taken := (e.scheduler.pop_some_spec scheduler queue served.1 served.2 popped).2.2.1
        omega
  cases work with
  | drained at_ scheduler popped' => exact .quiet rfl (fun _ => rfl) rfl (popped _ _ popped')
  | skipped at_ scheduler jobId item popped' gone =>
      exact .quiet rfl (fun _ => rfl) rfl (popped _ _ popped')
  | taken at_ scheduler jobId item job popped' found alive =>
      exact .quiet rfl (fun _ => rfl) rfl (popped _ _ popped')
  | retried f before at_ alone reply jitter seconds settled =>
      refine .quiet rfl ?_ rfl (le_refl _)
      intro jobId
      rw [stateOf_update e _ f.jobId jobId Job.retried (onRetry_frame f.jobId e).1]
      by_cases same : jobId = f.jobId
      · rw [if_pos same, same]
        rfl
      · rw [if_neg same]
  | recorded f before at_ alone reply jitter result cost credited exhausted settled =>
      exact record_roster p label f result cost credited exhausted e
  | _ => exact .quiet rfl (fun _ => rfl) rfl (le_refl _)

theorem spawn_metrics (count : Nat) (e : Engine) : (spawn count e).metrics = e.metrics := by
  induction count generalizing e with
  | zero => rfl
  | succ count ih =>
      rw [spawn, ih]

theorem register_counters (p : Params) (prompts : List PromptItem) (priority : Priority)
    (key : Option String) (newId : JobId) (e : Engine) :
    (e.register p prompts priority key newId).jobCounters =
      (e.jobCounters.1 + 1, e.jobCounters.2.1, e.jobCounters.2.2) := by
  unfold register ensureWorkers jobCounters
  simp only [spawn_metrics]
  rfl

theorem refused_counters (p : Params) (prompts : List PromptItem) (priority : Priority)
    (key : Option String) (newId : JobId) (e : Engine)
    (refused : ∀ jobId, (e.submitWithIdempotency p prompts priority key newId).2 ≠
      .job jobId false) :
    (e.submitWithIdempotency p prompts priority key newId).1.jobCounters = e.jobCounters := by
  rcases submit_cases p prompts priority key newId e with ⟨⟨_, _, same⟩, _⟩ | admitted
  · rw [same]
    rfl
  · rw [admitted.2.2.2.2] at refused
    exact absurd rfl (refused newId)

theorem isOpen_closed (state : JobState) : isOpen (closed state) = false := by
  cases state <;> rfl

theorem closed_closed (state : JobState) : closed (closed state) = closed state := by
  cases state <;> rfl

theorem closed_of_not_open {state : JobState} (ended : isOpen state = false) :
    closed state = state := by
  unfold closed
  rw [ended]
  rfl

/-- Whether a job is listed as active, and its state. -/
def standing (e : Engine) (jobId : JobId) : Bool × Option JobState :=
  (decide (jobId ∈ e.active), e.stateOf jobId)

/-- The standing of a job after its interruption. -/
def closedStanding : Bool × Option JobState → Bool × Option JobState
  | (listed, some state) => (listed && !isOpen state, some (closed state))
  | (listed, none) => (listed, none)

theorem closedStanding_twice (before : Bool × Option JobState) :
    closedStanding (closedStanding before) = closedStanding before := by
  obtain ⟨listed, state⟩ := before
  cases state with
  | none => rfl
  | some state =>
      simp only [closedStanding, isOpen_closed, closed_closed, Bool.not_false, Bool.and_true]

/-- Interrupting one job closes it and leaves the others alone. -/
theorem interruptJob_standing (e : Engine) (interrupted jobId : JobId) :
    (e.interruptJob interrupted).standing jobId =
      if jobId = interrupted then closedStanding (e.standing jobId) else e.standing jobId := by
  have read : e.stateOf interrupted = (e.store.get interrupted).map Job.state := rfl
  unfold interruptJob
  cases found : e.store.get interrupted with
  | none =>
      rw [found] at read
      by_cases same : jobId = interrupted
      · rw [if_pos same, same]
        simp only [standing, read, Option.map_none, closedStanding]
      · rw [if_neg same]
  | some job =>
      rw [found] at read
      simp only
      cases unfinished : isOpen job.state with
      | true =>
          simp only [if_true, standing, stateOf_finalize, finalize_frame, Finset.mem_erase]
          by_cases same : jobId = interrupted
          · simp [same, read, closedStanding, closed, unfinished]
          · simp only [same, ne_eq, not_false_eq_true, true_and, if_false]
      | false =>
          by_cases same : jobId = interrupted
          · simp [same, standing, read, closedStanding, closed_of_not_open unfinished, unfinished]
          · rw [if_neg same]
            rfl

theorem interruptJobs_standing (e : Engine) (jobId : JobId) :
    e.interruptJobs.standing jobId = closedStanding (e.standing jobId) := by
  have folded : ∀ (jobIds : List JobId) (e : Engine),
      (jobIds.foldl interruptJob e).standing jobId =
        if jobId ∈ jobIds then closedStanding (e.standing jobId) else e.standing jobId := by
    intro jobIds
    induction jobIds with
    | nil => exact fun e => (if_neg List.not_mem_nil).symm
    | cons first rest ih =>
        intro e
        rw [List.foldl_cons, ih, interruptJob_standing]
        by_cases same : jobId = first
        · -- A second turn finds the job closed.
          simp only [same, List.mem_cons, true_or, if_true, closedStanding_twice, ite_self]
        · simp only [same, List.mem_cons, false_or, if_false]
  have all := folded e.store.jobs.keys e
  by_cases listed : jobId ∈ e.store.jobs.keys
  · rw [if_pos listed] at all
    exact all
  · have unknown : e.stateOf jobId = none := by
      cases known : e.stateOf jobId with
      | none => rfl
      | some state =>
          obtain ⟨job, found, _⟩ := Option.map_eq_some_iff.mp known
          exact absurd ((e.store.jobs.mem_keys_iff jobId).mpr ⟨job, found⟩) listed
    rw [if_neg listed] at all
    refine all.trans ?_
    simp only [standing, unknown, closedStanding]

/-- The end of a shutdown closes every job of the store, and no counter moves. -/
theorem interruptJobs_roster (e : Engine) :
    (∀ jobId, jobId ∈ e.interruptJobs.active ↔ jobId ∈ e.active ∧
        ¬∃ state, e.stateOf jobId = some state ∧ isOpen state = true) ∧
      (∀ jobId, e.interruptJobs.stateOf jobId = (e.stateOf jobId).map closed) ∧
      e.interruptJobs.jobCounters = e.jobCounters := by
  refine ⟨?_, ?_, ?_⟩
  · intro jobId
    have listed := congrArg Prod.fst (interruptJobs_standing e jobId)
    rw [← decide_eq_true_eq (p := jobId ∈ e.interruptJobs.active)]
    cases known : e.stateOf jobId with
    | none =>
        simp only [standing, known, closedStanding] at listed
        simp [listed]
    | some before =>
        simp only [standing, known, closedStanding] at listed
        simp [listed]
  · intro jobId
    have state := congrArg Prod.snd (interruptJobs_standing e jobId)
    cases known : e.stateOf jobId with
    | none =>
        simp only [standing, known, closedStanding] at state
        exact state
    | some before =>
        simp only [standing, known, closedStanding] at state
        exact state
  · unfold jobCounters
    rw [(interruptJobs_frame e).2.2.2.2.2.1]

theorem Step.roster {p : Params} {e e' : Engine} {label : Label} {emitted : List Event}
    (stored : e.Stored) (step : Step p e label e' emitted) : RosterStep p e label e' := by
  cases step with
  | submitted label prompts priority key newId requested quiet named fresh =>
      rcases submit_cases p prompts priority key newId e with ⟨⟨_, _, same⟩, refused⟩ |
        ⟨_, _, below, room, admitted⟩
      · have counters := refused_counters p prompts priority key newId e refused
        rw [same] at counters ⊢
        exact .quiet rfl (fun _ => rfl) counters (le_refl _)
      · rw [admitted]
        have unknown : e.stateOf newId = none := by
          unfold stateOf
          rw [fresh]
          rfl
        refine .admitted newId prompts.length unknown below room ?_ ?_ ?_ ?_
        · simp only [register_frame]
        · intro jobId
          unfold stateOf
          rw [register_jobs]
          by_cases same : jobId = newId
          · rw [if_pos same, if_pos same]
            rfl
          · rw [if_neg same, if_neg same]
        · exact register_counters p prompts priority key newId e
        · simp only [register_frame, FairScheduler.addJob, EngineItems.length_workItems]
  | cancelled jobId job quiet found unfinished =>
      have known : e.stateOf jobId = some job.state :=
        Option.map_eq_some_iff.mpr ⟨job, found, rfl⟩
      refine .cancelled jobId job.state known unfinished (cancelOpen_frame jobId e).2.2.2.2.1 ?_
        rfl ?_
      · intro other
        rw [stateOf_update e _ jobId other (Job.finish .cancelled e.wallTime)
          (cancelOpen_frame jobId e).1]
        by_cases same : other = jobId
        · rw [if_pos same, if_pos same]
          exact Option.map_eq_some_iff.mpr ⟨job, found, rfl⟩
        · rw [if_neg same, if_neg same]
      · rw [(cancelOpen_frame jobId e).2.1, FairScheduler.removeJob]
        split
        · exact le_refl _
        · simp only
          omega
  | worked task action w g flag loc emitted found lowered work =>
      exact (roster_work stored.queue _ work).congr rfl (fun _ => rfl) rfl rfl
  | shutdownReturned ended phase =>
      obtain ⟨active, states, counters⟩ := interruptJobs_roster e
      refine .interrupted rfl active states counters ?_
      rw [(interruptJobs_keeps e).1]
  | _ => exact .quiet rfl (fun _ => rfl) rfl (le_refl _)

/-! ### The roster -/

/-- The active set lists the running jobs, and no job is waiting to be started. -/
structure Roster (e : Engine) : Prop where
  active : ∀ jobId, jobId ∈ e.active ↔ e.stateOf jobId = some .running
  states : ∀ jobId state, e.stateOf jobId = some state →
    state = .running ∨ state = .completed ∨ state = .cancelled

theorem Roster.running_of_open {e : Engine} (roster : Roster e) {jobId : JobId}
    {state : JobState} (known : e.stateOf jobId = some state) (unfinished : isOpen state = true) :
    state = .running := by
  rcases roster.states jobId state known with running | completed | cancelled
  · exact running
  · rw [completed] at unfinished
    cases unfinished
  · rw [cancelled] at unfinished
    cases unfinished

private theorem roster_ended {e e' : Engine} (roster : Roster e) {jobId : JobId}
    {last : JobState} (ended : last = .completed ∨ last = .cancelled)
    (active : e'.active = e.active.erase jobId)
    (states : ∀ other, e'.stateOf other = if other = jobId then some last else e.stateOf other) :
    Roster e' := by
  constructor
  · intro other
    rw [active, states, Finset.mem_erase]
    by_cases same : other = jobId
    · rw [if_pos same, Option.some.injEq]
      constructor
      · rintro ⟨different, _⟩
        exact absurd same different
      · rintro rfl
        rcases ended with impossible | impossible
        · cases impossible
        · cases impossible
    · rw [if_neg same, roster.active other]
      exact and_iff_right same
  · intro other state known
    rw [states] at known
    split at known
    · rw [Option.some.injEq] at known
      rw [← known]
      exact Or.inr ended
    · exact roster.states other state known

theorem Roster.next {p : Params} {e e' : Engine} {label : Label} (roster : Roster e)
    (step : RosterStep p e label e') : Roster e' := by
  cases step with
  | quiet active states counters pending =>
      constructor
      · intro jobId
        rw [active, states]
        exact roster.active jobId
      · intro jobId state known
        rw [states] at known
        exact roster.states jobId state known
  | admitted newId count fresh below room active states counters pending =>
      constructor
      · intro jobId
        rw [active, states, Finset.mem_insert]
        by_cases same : jobId = newId
        · simp [same]
        · rw [if_neg same, roster.active jobId]
          exact or_iff_right same
      · intro jobId state known
        rw [states] at known
        split at known
        · rw [Option.some.injEq] at known
          exact Or.inl known.symm
        · exact roster.states jobId state known
  | completed jobId running active states counters pending =>
      exact roster_ended roster (Or.inl rfl) active states
  | cancelled jobId state known unfinished active states counters pending =>
      exact roster_ended roster (Or.inr rfl) active states
  | interrupted ending active states counters pending =>
      constructor
      · intro jobId
        rw [active, states, roster.active jobId]
        constructor
        · rintro ⟨running, alive⟩
          exact absurd ⟨.running, running, rfl⟩ alive
        · intro running
          obtain ⟨state, _, same⟩ := Option.map_eq_some_iff.mp running
          have ended := isOpen_closed state
          rw [same] at ended
          cases ended
      · intro jobId state known
        rw [states] at known
        obtain ⟨old, before, rfl⟩ := Option.map_eq_some_iff.mp known
        rcases roster.states jobId old before with rfl | rfl | rfl
        · exact Or.inr (Or.inr rfl)
        · exact Or.inr (Or.inl rfl)
        · exact Or.inr (Or.inr rfl)

/-- The induction rule for facts about the roster. -/
theorem roster_invariant {p : Params} {ok : Engine → Label → Engine → Prop}
    {events : List Event} {e : Engine} (run : (engineMachine p).Reaches ok events e)
    (holds : Engine → Prop) (start : holds (Engine.new p))
    (next : ∀ {e e' : Engine} {label : Label}, holds e → Roster e → ok e label e' →
      RosterStep p e label e' → holds e') : holds e ∧ Roster e := by
  have facts := run.along Engine.Stored (fun earlier => reachable_stored earlier)
  refine Machine.Run.invariant facts (fun _ e => holds e ∧ Roster e) ?_ ?_
  · refine ⟨start, ?_⟩
    constructor
    · intro jobId
      constructor
      · intro member
        cases member
      · intro impossible
        cases impossible
    · intro _ _ impossible
      cases impossible
  · intro _ _ e e' label before admissible stepped
    have step := (step_cases stepped).roster admissible.2
    exact ⟨next before.1 before.2 admissible.1 step, before.2.next step⟩

theorem reachable_roster {p : Params} {ok : Engine → Label → Engine → Prop}
    {events : List Event} {e : Engine} (run : (engineMachine p).Reaches ok events e) :
    Roster e :=
  (roster_invariant run (fun _ => True) trivial (fun _ _ _ _ => trivial)).2

end Engine
end BatchInference
