/-
How the engine and its jobs end.

A job ends with its last result, by a cancellation or at the return of `shutdown`;
each end is for good, and a cancellation is shown. After the return of `shutdown`
no worker is left, so no job can gain a result any more.
-/

import BatchInference.EngineRoster

set_option autoImplicit false

namespace BatchInference
namespace EngineFate

open Engine EngineItems

/-! ### The phases -/

/-- The intake is closed from the call on; at the end all workers and jobs are. -/
structure Stopping (e : Engine) : Prop where
  refusing : e.shutdownPhase ≠ .notStarted → e.accepting = false
  workers : e.shutdownPhase = .finished →
    ∀ task w, e.workers.get? task = some w → w.loc = .done
  jobs : e.shutdownPhase = .finished →
    ∀ jobId state, e.stateOf jobId = some state → isOpen state = false

theorem workStep_not_done {p : Params} {e g : Engine} {task : TaskId} {w : Worker}
    {action : Action} {loc : Loc} {emitted : List Event}
    (work : WorkStep p e task w action g loc emitted) : w.loc ≠ .done := by
  intro ended
  cases work with
  | sleepCancelled f seconds at_ requested quiet =>
      rw [ended] at at_
      rcases at_ with impossible | impossible
      · cases impossible
      · cases impossible
  | _ => simp_all

theorem Stopping.next {p : Params} {e e' : Engine} {label : Label} {emitted : List Event}
    (stopping : Stopping e) (step : Step p e label e' emitted) : Stopping e' := by
  cases step with
  | tick loopTime wallTime later =>
      exact ⟨stopping.refusing, stopping.workers, stopping.jobs⟩
  | unchanged label serves => exact stopping
  | submitted label prompts priority key newId requested quiet named fresh =>
      rcases submit_cases p prompts priority key newId e with ⟨⟨_, _, same⟩, _⟩ |
        ⟨accepting, _, _, _, admitted⟩
      · rw [same]
        exact ⟨stopping.refusing, stopping.workers, stopping.jobs⟩
      · -- An admission happens before the call of `shutdown` only.
        have started : e.shutdownPhase = .notStarted := by
          by_contra called
          rw [stopping.refusing called] at accepting
          cases accepting
        have phase : (e.register p prompts priority key newId).shutdownPhase = .notStarted :=
          (register_phase p prompts priority key newId e).2.trans started
        rw [admitted]
        constructor
        · intro called
          exact absurd phase called
        · intro finished
          rw [phase] at finished
          cases finished
        · intro finished
          rw [phase] at finished
          cases finished
  | cancelled jobId job quiet found unfinished =>
      refine ⟨stopping.refusing, stopping.workers, ?_⟩
      intro finished
      have ended := stopping.jobs finished jobId job.state
        (Option.map_eq_some_iff.mpr ⟨job, found, rfl⟩)
      rw [ended] at unfinished
      cases unfinished
  | worked task action w g flag loc emitted found lowered work =>
      obtain ⟨accepting, phase⟩ := work.phase
      have busy : (g.moveTo task
          { w with cancelRequested := flag } loc).shutdownPhase ≠ .finished := by
        intro finished
        exact workStep_not_done work (stopping.workers (phase.symm.trans finished) task w found)
      refine ⟨?_, fun finished => absurd finished busy, fun finished => absurd finished busy⟩
      intro called
      exact accepting.trans (stopping.refusing (fun same => called (phase.trans same)))
  | shutdownStarted quiet phase =>
      constructor
      · exact fun _ => rfl
      · exact fun finished => by cases finished
      · exact fun finished => by cases finished
  | graceExpired quiet phase =>
      constructor
      · intro _
        refine stopping.refusing ?_
        rw [phase]
        exact ShutdownPhase.noConfusion
      · exact fun finished => by cases finished
      · exact fun finished => by cases finished
  | shutdownReturned ended phase =>
      constructor
      · intro _
        rw [(interruptJobs_frame e).2.2.2.2.1]
        refine stopping.refusing ?_
        rcases phase with draining | cancelling
        · rw [draining]
          exact ShutdownPhase.noConfusion
        · rw [cancelling]
          exact ShutdownPhase.noConfusion
      · intro _ task w found
        rw [(interruptJobs_frame e).2.2.1] at found
        exact Loc.eq_done (ended w ((e.workers.mem_values_iff w).mpr ⟨task, found⟩))
      · intro _ jobId state known
        rw [(interruptJobs_roster e).2.1] at known
        obtain ⟨old, _, rfl⟩ := Option.map_eq_some_iff.mp known
        exact isOpen_closed old

theorem reachable_stopping {p : Params} {ok : Engine → Label → Engine → Prop}
    {events : List Event} {e : Engine} (run : (engineMachine p).Reaches ok events e) :
    Stopping e := by
  refine run_invariant run (fun _ e => Stopping e) ?_ ?_
  · constructor
    · exact fun called => absurd rfl called
    · exact fun _ _ _ impossible => by cases impossible
    · exact fun _ _ _ impossible => by cases impossible
  · intro _ _ _ _ _ stopping _ _ step
    exact stopping.next step

theorem finished_stays {p : Params} {e e' : Engine} {label : Label} {emitted : List Event}
    (stopping : Stopping e) (finished : e.shutdownPhase = .finished)
    (step : Step p e label e' emitted) : e'.shutdownPhase = .finished := by
  cases step with
  | submitted label prompts priority key newId requested quiet named fresh =>
      rcases submit_cases p prompts priority key newId e with ⟨⟨_, _, same⟩, _⟩ | admitted
      · rw [same]
        exact finished
      · rw [admitted.2.2.2.2, (register_phase p prompts priority key newId e).2]
        exact finished
  | worked task action w g flag loc emitted found lowered work =>
      exact absurd (stopping.workers finished task w found) (workStep_not_done work)
  | graceExpired quiet phase =>
      rw [finished] at phase
      cases phase
  | shutdownStarted quiet phase =>
      rw [finished] at phase
      cases phase
  | shutdownReturned ended phase => rfl
  | _ => exact finished

/-! ### The fate of a job -/

theorem advance_finishedAt (seq : Nat) (result : InferenceResult) (cost now : ℚ) (job : Job) :
    (job.advance seq result cost now).finishedAt =
      if job.total ≤ job.completed + 1 ∧ job.state = .running then
        some (job.finishedAt.getD now)
      else job.finishedAt := by
  unfold Job.advance Job.record
  simp only
  cases result.success with
  | true =>
      simp only [if_true]
      split
      · rfl
      · rfl
  | false =>
      simp only [Bool.false_eq_true, if_false]
      split
      · rfl
      · rfl

/-- A result completes the job, or leaves its state and its end alone. -/
theorem advance_cases (seq : Nat) (result : InferenceResult) (cost now : ℚ) (job : Job) :
    (job.state = .running ∧ (job.advance seq result cost now).state = .completed ∧
        (job.advance seq result cost now).finishedAt ≠ none) ∨
      ((job.state = .running → job.completed + 1 < job.total) ∧
        (job.advance seq result cost now).state = job.state ∧
        (job.advance seq result cost now).finishedAt = job.finishedAt) := by
  rw [advance_state, advance_finishedAt]
  by_cases last : job.total ≤ job.completed + 1 ∧ job.state = .running
  · rw [if_pos last, if_pos last]
    exact Or.inl ⟨last.2, rfl, Option.some_ne_none _⟩
  · rw [if_neg last, if_neg last]
    refine Or.inr ⟨fun running => ?_, rfl, rfl⟩
    exact not_le.mp (fun enough => last ⟨enough, running⟩)

/-- How a job ends, in runs that may be shut down. -/
structure Fate (events : List Event) (phase : ShutdownPhase) (jobId : JobId) (job : Job) :
    Prop where
  state : job.state = .running ∨ job.state = .completed ∨ job.state = .cancelled
  ended : job.finishedAt = none ↔ job.state = .running
  unfinished : job.state = .running → job.total = 0 ∨ job.completed < job.total
  shown : ∀ items, Event.cancelled jobId items ∈ events → job.state = .cancelled
  cancelled : job.state = .cancelled → (∃ items, Event.cancelled jobId items ∈ events) ∨
    phase = .finished ∧ (job.total = 0 ∨ job.completed < job.total)

/-- The fates of all jobs; only jobs of the store have been cancelled. -/
structure Fates (events : List Event) (e : Engine) : Prop where
  known : ∀ jobId job, e.store.get jobId = some job → Fate events e.shutdownPhase jobId job
  unknown : ∀ jobId, e.store.get jobId = none → ∀ items, Event.cancelled jobId items ∉ events

theorem cancelled_step {p : Params} {e e' : Engine} {label : Label} {emitted : List Event}
    (step : Step p e label e' emitted) {jobId : JobId} {items : List WorkItem}
    (shown : Event.cancelled jobId items ∈ emitted) :
    (∃ job, e.store.get jobId = some job) ∧ e' = e.cancelOpen jobId := by
  cases step with
  | cancelled cancelledId job quiet found unfinished =>
      rw [List.mem_singleton] at shown
      injection shown with same _
      rw [same]
      exact ⟨⟨job, found⟩, rfl⟩
  | worked task action w g flag loc emitted found lowered work =>
      rcases work.emits _ shown with ⟨_, _, _, impossible⟩ | ⟨_, _, _, impossible⟩
      · cases impossible
      · cases impossible
  | _ => simp at shown

/-- The store survives what comes with a shutdown, except for its end. -/
private theorem store_unserved {p : Params} {e e' : Engine} {label : Label}
    {emitted : List Event} (step : Step p e label e' emitted) (ending : ¬Serves label) :
    label = .shutdownReturned ∨ e'.store = e.store := by
  cases step with
  | submitted label prompts priority key newId requested quiet named fresh =>
      cases requested with
      | submit => exact absurd trivial ending
      | replay => exact absurd trivial ending
  | cancelled jobId job quiet found unfinished => exact absurd trivial ending
  | worked task action w g flag loc emitted found lowered work =>
      right
      cases work with
      | killed at_ requested quiet => rfl
      | gaveUp at_ requested quiet => rfl
      | sleepCancelled f seconds at_ requested quiet => rfl
      | _ => exact absurd trivial ending
  | shutdownReturned ended phase => exact Or.inl rfl
  | _ => exact Or.inr rfl

theorem interrupting_label {p : Params} {e e' : Engine} {label : Label} {emitted : List Event}
    (step : Step p e label e' emitted) (ending : ¬Serves label) {jobId : JobId} {job : Job}
    {now : ℚ} (found : e.store.jobs.get? jobId = some job)
    (found' : e'.store.jobs.get? jobId = some (job.finish .cancelled now))
    (unfinished : isOpen job.state = true) : label = .shutdownReturned := by
  rcases store_unserved step ending with returned | same
  · exact returned
  · rw [same, found, Option.some.injEq] at found'
    rw [found'] at unfinished
    cases unfinished

/-- A cancelled or interrupted job has ended for good. -/
theorem Fate.closed {events : List Event} {phase : ShutdownPhase} {jobId : JobId} {job : Job}
    (now : ℚ) (reason : (∃ items, Event.cancelled jobId items ∈ events) ∨
      phase = .finished ∧ (job.total = 0 ∨ job.completed < job.total)) :
    Fate events phase jobId (job.finish .cancelled now) := by
  constructor
  · exact Or.inr (Or.inr rfl)
  · exact ⟨fun none => absurd none (Option.some_ne_none _), JobState.noConfusion⟩
  · exact JobState.noConfusion
  · exact fun _ _ => rfl
  · exact fun _ => reason

theorem Fate.running_of_open {events : List Event} {phase : ShutdownPhase} {jobId : JobId}
    {job : Job} (fate : Fate events phase jobId job) (unfinished : isOpen job.state = true) :
    job.state = .running := by
  rcases fate.state with running | completed | gone
  · exact running
  · rw [completed] at unfinished
    cases unfinished
  · rw [gone] at unfinished
    cases unfinished

/-- What leaves a job alone leaves its fate alone. -/
theorem Fate.same {events emitted : List Event} {phase phase' : ShutdownPhase} {jobId : JobId}
    {job : Job} (fate : Fate events phase jobId job)
    (silent : ∀ items, Event.cancelled jobId items ∉ emitted)
    (stays : phase = .finished → phase' = .finished) :
    Fate (events ++ emitted) phase' jobId job where
  state := fate.state
  ended := fate.ended
  unfinished := fate.unfinished
  shown := by
    intro items member
    exact fate.shown items ((List.mem_append.mp member).resolve_right (silent items))
  cancelled := by
    intro gone
    rcases fate.cancelled gone with ⟨items, member⟩ | ⟨finished, short⟩
    · exact Or.inl ⟨items, List.mem_append_left emitted member⟩
    · exact Or.inr ⟨stays finished, short⟩

/-- A retry is no part of a job's fate. -/
theorem Fate.retried {events : List Event} {phase : ShutdownPhase} {jobId : JobId} {job : Job}
    (fate : Fate events phase jobId job) : Fate events phase jobId job.retried :=
  ⟨fate.state, fate.ended, fate.unfinished, fate.shown, fate.cancelled⟩

/-- A result completes the job, or leaves its fate as it was. -/
theorem Fate.advanced {events emitted : List Event} {phase : ShutdownPhase} {jobId : JobId}
    {job : Job} (fate : Fate events phase jobId job) (busy : phase ≠ .finished)
    (silent : ∀ items, Event.cancelled jobId items ∉ emitted) (phase' : ShutdownPhase)
    (seq : Nat) (result : InferenceResult) (cost now : ℚ) :
    Fate (events ++ emitted) phase' jobId (job.advance seq result cost now) := by
  have same : Fate (events ++ emitted) phase' jobId job :=
    fate.same silent (fun finished => absurd finished busy)
  have fields := advance_fields seq result cost now job
  rcases advance_cases seq result cost now job with
    ⟨running, newState, newEnd⟩ | ⟨more, newState, newEnd⟩
  · constructor
    · exact Or.inr (Or.inl newState)
    · rw [newState]
      exact ⟨fun none => absurd none newEnd, JobState.noConfusion⟩
    · intro still
      rw [newState] at still
      cases still
    · intro items member
      have gone := same.shown items member
      rw [running] at gone
      cases gone
    · intro gone
      rw [newState] at gone
      cases gone
  · constructor
    · rw [newState]
      exact same.state
    · rw [newState, newEnd]
      exact same.ended
    · intro running
      rw [newState] at running
      rw [fields.1, fields.2.1]
      exact Or.inr (more running)
    · rw [newState]
      exact same.shown
    · rw [newState]
      intro gone
      rcases fate.cancelled gone with ⟨items, member⟩ | ⟨finished, _⟩
      · exact Or.inl ⟨items, List.mem_append_left emitted member⟩
      · exact absurd finished busy

/-- Worker code runs before the return of `shutdown` only. -/
theorem replied_busy {p : Params} {e e' : Engine} {label : Label} {emitted : List Event}
    (stopping : Stopping e) (step : Step p e label e' emitted) {jobId : JobId} {seq : Nat}
    {reply : Reply} (member : Event.replied jobId seq reply ∈ emitted) :
    e.shutdownPhase ≠ .finished := by
  intro finished
  cases step with
  | worked task action w g flag loc emitted present lowered work =>
      exact workStep_not_done work (stopping.workers finished task w present)
  | _ => simp at member

theorem Fate.next {p : Params} {events emitted : List Event} {e e' : Engine} {label : Label}
    {jobId : JobId} {job job' : Job} (fate : Fate events e.shutdownPhase jobId job)
    (stopping : Stopping e) (step : Step p e label e' emitted)
    (found : e.store.jobs.get? jobId = some job) (found' : e'.store.jobs.get? jobId = some job')
    (change : JobStep e label emitted jobId job job') :
    Fate (events ++ emitted) e'.shutdownPhase jobId job' := by
  have stays := fun finished => finished_stays stopping finished step
  cases change with
  | kept silent => exact fate.same silent stays
  | retried silent answered => exact (fate.same silent stays).retried
  | advanced seq result cost silent answered =>
      obtain ⟨_, _, member⟩ := answered
      have busy := replied_busy stopping step member
      exact fate.advanced busy silent e'.shutdownPhase seq result cost e.wallTime
  | cancelled items open_ visible =>
      exact Fate.closed e.wallTime (Or.inl ⟨items, List.mem_append_right events visible⟩)
  | interrupted ending open_ =>
      obtain rfl := interrupting_label step ending found found' open_
      have running := fate.running_of_open open_
      cases step with
      | unchanged _ serves => exact absurd serves ending
      | submitted _ _ _ _ _ requested => cases requested
      | shutdownReturned ended phase =>
          exact Fate.closed e.wallTime (Or.inr ⟨rfl, fate.unfinished running⟩)

theorem Fates.next {p : Params} {events emitted : List Event} {e e' : Engine} {label : Label}
    (fates : Fates events e) (stopping : Stopping e) (step : Step p e label e' emitted) :
    Fates (events ++ emitted) e' where
  known := by
    intro jobId job' found'
    rcases step.job found' with ⟨job, found, change⟩ | ⟨fresh, prompts, priority, key, rfl, rfl⟩
    · exact (fates.known jobId job found).next stopping step found found' change
    · -- A new job is running, and nobody can have cancelled it.
      constructor
      · exact Or.inl rfl
      · exact ⟨fun _ => rfl, fun _ => rfl⟩
      · exact fun _ => Nat.eq_zero_or_pos _
      · intro items member
        rcases List.mem_append.mp member with earlier | now
        · exact absurd earlier (fates.unknown jobId fresh items)
        · rw [List.mem_singleton] at now
          cases now
      · exact JobState.noConfusion
  unknown := by
    intro jobId missing' items member
    cases found : e.store.get jobId with
    | some job =>
        rcases step.job_stays found with ⟨job', found', _⟩
        have missing : e'.store.jobs.get? jobId = none := missing'
        rw [missing] at found'
        cases found'
    | none =>
        rcases List.mem_append.mp member with earlier | now
        · exact fates.unknown jobId found items earlier
        · obtain ⟨⟨job, present⟩, _⟩ := cancelled_step step now
          rw [found] at present
          cases present

theorem reachable_fates {p : Params} {ok : Engine → Label → Engine → Prop} {events : List Event}
    {e : Engine} (run : (engineMachine p).Reaches ok events e) : Fates events e := by
  have facts := run.along Stopping (fun earlier => reachable_stopping earlier)
  refine run_invariant facts Fates ?_ ?_
  · constructor
    · intro _ _ impossible
      cases impossible
    · intro _ _ _ impossible
      cases impossible
  · intro _ _ _ _ _ fates _ admissible step
    exact fates.next admissible.2 step

end EngineFate
end BatchInference
