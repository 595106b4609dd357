/-
When jobs end, and that no work is stranded.

A job is completed by the worker that records its last result, unless it was
cancelled before. A worker only leaves when it finds the queue empty, and every
admission finds or creates one, so queued items always have a worker that stays.
-/

import BatchInference.EngineConserving
import BatchInference.EngineFate

set_option autoImplicit false

namespace BatchInference
namespace EngineCompletion

open Engine EngineItems EngineConserving EnginePermits EngineFate

/-! ### Completed jobs -/

/-- A completed job has all its results. -/
def Finished (job : Job) : Prop := job.state = .completed → job.total ≤ job.completed

theorem Finished.next {e : Engine} {label : Label} {emitted : List Event} {jobId : JobId}
    {job job' : Job} (finished : Finished job) (change : JobStep e label emitted jobId job job') :
    Finished job' := by
  cases change with
  | kept silent => exact finished
  | retried silent answered => exact finished
  | advanced seq result cost silent answered =>
      intro completed
      rw [(advance_fields seq result cost e.wallTime job).1,
        (advance_fields seq result cost e.wallTime job).2.1]
      rw [advance_state] at completed
      split at completed
      · rename_i last
        exact last.1
      · exact Nat.le_succ_of_le (finished completed)
  | cancelled items unfinished shown => exact JobState.noConfusion
  | interrupted ending unfinished => exact JobState.noConfusion

theorem reachable_finished {p : Params} {ok : Engine → Label → Engine → Prop}
    {events : List Event} {e : Engine} (run : (engineMachine p).Reaches ok events e)
    {jobId : JobId} {job : Job} (found : e.store.get jobId = some job) : Finished job := by
  refine run_invariant run (fun _ e => ∀ job, e.store.get jobId = some job → Finished job) ?_ ?_
    job found
  · intro _ impossible
    cases impossible
  · intro _ _ _ _ _ finished _ _ step job' found'
    rcases step.job found' with ⟨job, known, change⟩ | ⟨_, prompts, priority, key, _, rfl⟩
    · exact (finished job known).next change
    · exact JobState.noConfusion

/-! ### The life of a job -/

/-- How state, counters and end of a job hang together. -/
structure Lifecycle (events : List Event) (jobId : JobId) (job : Job) : Prop where
  state : job.state = .running ∨ job.state = .completed ∨ job.state = .cancelled
  cancelled : job.state = .cancelled ↔ ∃ items, Event.cancelled jobId items ∈ events
  ended : job.finishedAt = none ↔ job.state = .running
  unfinished : job.state = .running → job.total = 0 ∨ job.completed < job.total

/-- The lives of all jobs; only jobs of the store have been cancelled. -/
structure Lifecycles (events : List Event) (e : Engine) : Prop where
  known : ∀ jobId job, e.store.get jobId = some job → Lifecycle events jobId job
  unknown : ∀ jobId, e.store.get jobId = none → ∀ items, Event.cancelled jobId items ∉ events

/-! ### What lasts -/

/-- A job that has ended stays as it ended. -/
structure Lasting (job job' : Job) : Prop where
  state : isOpen job.state = false → job'.state = job.state
  finishedAt : ∀ time, job.finishedAt = some time → job'.finishedAt = some time

theorem lasting_of_step {e : Engine} {label : Label} {emitted : List Event} {jobId : JobId}
    {job job' : Job} (change : JobStep e label emitted jobId job job') : Lasting job job' := by
  have ends : ∀ now, isOpen job.state = true → Lasting job (job.finish .cancelled now) := by
    intro now unfinished
    constructor
    · intro closed
      rw [unfinished] at closed
      cases closed
    · intro time ended
      unfold Job.finish
      rw [ended, Option.getD_some]
  cases change with
  | kept silent => exact ⟨fun _ => rfl, fun _ ended => ended⟩
  | retried silent answered => exact ⟨fun _ => rfl, fun _ ended => ended⟩
  | advanced seq result cost silent answered =>
      constructor
      · intro closed
        rw [advance_state]
        split
        · rename_i last
          rw [last.2] at closed
          cases closed
        · rfl
      · intro time ended
        rw [advance_finishedAt]
        split
        · rw [ended, Option.getD_some]
        · exact ended
  | cancelled items unfinished shown => exact ends _ unfinished
  | interrupted ending unfinished => exact ends _ unfinished

/-- In every continuation, shutdown included, ended jobs stay as they ended. -/
theorem lasting {p : Params} {ok : Engine → Label → Engine → Prop} {e e' : Engine}
    {later : List Event} (run : Machine.Run (engineMachine p) ok e later e') {jobId : JobId}
    {job : Job} (found : e.store.get jobId = some job) :
    ∃ job', e'.store.get jobId = some job' ∧ Lasting job job' := by
  refine run.relates (fun e e' => ∀ job, e.store.get jobId = some job →
    ∃ job', e'.store.get jobId = some job' ∧ Lasting job job') ?_ ?_ ?_ job found
  · intro e job found
    exact ⟨job, found, fun _ => rfl, fun _ ended => ended⟩
  · intro a b c first second job found
    rcases first job found with ⟨middle, foundMiddle, earlier⟩
    rcases second middle foundMiddle with ⟨last, foundLast, later⟩
    refine ⟨last, foundLast, ?_, fun time ended => later.finishedAt _ (earlier.finishedAt _ ended)⟩
    intro closed
    have same := earlier.state closed
    exact (later.state (by rw [same]; exact closed)).trans same
  · intro e e' label emitted _ stepped job found
    rcases (step_cases stepped).job_stays found with ⟨job', found', change⟩
    exact ⟨job', found', lasting_of_step change⟩

/-! ### No work without a worker -/

/-- Queued items have a worker that will not end in its present stretch. -/
def Manned (e : Engine) : Prop := 0 < e.scheduler.pending → 0 < e.count staying

private theorem manned_registered {p : Params} {e : Engine}
    (pool : 1 ≤ p.settings.workerPoolSize) (loop : e.EventLoop) (quiet : e.atAwait = true)
    (prompts : List PromptItem) (priority : Priority) (key : Option String) (newId : JobId) :
    Manned (e.register p prompts priority key newId) := by
  intro _
  rcases register_spec p prompts priority key newId e loop.numbered with
    ⟨added, amount, _, counts, _⟩
  rw [counts staying rfl, (counts_atAwait quiet).2]
  simp only [staying, if_true]
  -- Either somebody is alive, or the pool is filled up with at least one worker.
  omega

private theorem manned_worked {p : Params} {e g : Engine} {task : TaskId} {w : Worker}
    {action : Action} {loc : Loc} {emitted : List Event} (flag : Bool) (stored : e.Stored)
    (serves : Serves (.work task action)) (wellBehaved : WellBehaved (.work task action))
    (manned : Manned e) (found : e.workers.get? task = some w)
    (work : WorkStep p e task w action g loc emitted) :
    Manned (g.moveTo task
      { w with cancelRequested := flag } loc) := by
  have moved := count_moveTo staying task flag loc work.workers.1 found
  intro queued
  rw [(moveTo_frame task _ loc g).2.1] at queued
  cases turnStep stored serves work with
  | same pending sameWork sameStay =>
      have before := manned (pending ▸ queued)
      rw [sameStay] at moved
      omega
  | drained pending =>
      rw [pending] at queued
      exact (lt_irrefl _ queued).elim
  | took pending nowBusy sameStay =>
      have before := manned (by omega)
      rw [sameStay] at moved
      omega
  | back pending nowIdle sameStay =>
      have before := manned (pending ▸ queued)
      rw [sameStay] at moved
      omega
  | ended jitter isCancelled f suspended at_ left pending =>
      rw [isCancelled] at wellBehaved
      exact wellBehaved.elim

variable {p : Params} {ok : Engine → Label → Engine → Prop} {events : List Event} {e : Engine}

theorem reachable_manned (pool : 1 ≤ p.settings.workerPoolSize)
    (allowed : ∀ e label e', ok e label e' → BeforeShutdown label ∧ WellBehaved label)
    (run : (engineMachine p).Reaches ok events e) : Manned e := by
  have facts := run.along Engine.Stored (fun earlier => reachable_stored earlier)
  refine (serving_invariant (fun e label e' admissible => (allowed e label e' admissible.1).1)
    facts (fun _ e => Manned e) ?_ ?_).1
  · exact fun impossible => (lt_irrefl _ impossible).elim
  · intro _ _ e e' label manned loop _ serves admissible step
    cases step with
    | submitted label prompts priority key newId requested quiet named fresh =>
        rcases submit_cases p prompts priority key newId e with ⟨⟨_, _, same⟩, _⟩ | admitted
        · rw [same]
          exact manned
        · rw [admitted.2.2.2.2]
          exact manned_registered pool loop quiet prompts priority key newId
    | cancelled jobId job quiet found unfinished =>
        have fewer := removeJob_pending_le e.scheduler jobId
        unfold Manned count at manned ⊢
        simp only [cancelOpen_frame]
        intro queued
        exact manned (lt_of_lt_of_le queued fewer)
    | worked task action w g flag loc emitted found lowered work =>
        exact manned_worked flag admissible.2 serves (allowed e _ _ admissible.1).2 manned found
          work
    | shutdownStarted quiet phase => exact serves.elim
    | graceExpired quiet phase => exact serves.elim
    | shutdownReturned ended phase => exact serves.elim
    | _ => exact manned

theorem reachable_lifecycles
    (before : ∀ e label e', ok e label e' → BeforeShutdown label)
    (run : (engineMachine p).Reaches ok events e) : Lifecycles events e := by
  have fates := reachable_fates run
  have serving := (serving_invariant before run (fun _ _ => True) trivial
    (fun _ _ _ _ _ _ => trivial)).2
  refine ⟨?_, fates.unknown⟩
  intro jobId job found
  have fate := fates.known jobId job found
  refine ⟨fate.state, ?_, fate.ended, fate.unfinished⟩
  constructor
  · intro cancelled
    rcases fate.cancelled cancelled with shown | ⟨finished, _⟩
    · exact shown
    · rw [serving.phase] at finished
      cases finished
  · rintro ⟨items, member⟩
    exact fate.shown items member

/-! ### Running jobs have work left -/

theorem held_of_no_worker (idle : ∀ task w, e.workers.get? task = some w → w.loc.isDone = true)
    (jobId : JobId) : held jobId e = 0 := by
  apply Dict.total_eq_zero
  intro task w found
  have ended := idle task w ((e.workers.mem_entries_iff task w).mp found)
  rw [Loc.eq_done ended]
  rfl

/-- A running job with prompts has an item in the queue or with a worker. -/
theorem work_of_running {strict : Prop} {jobId : JobId} {job : Job} {prompts : List PromptItem}
    (account : Account strict events e jobId job prompts 0) (life : Lifecycle events jobId job)
    (some_ : 1 ≤ job.total) (running : job.state = .running) :
    queued jobId e ≠ 0 ∨ held jobId e ≠ 0 := by
  by_contra idle
  rw [not_or, not_not, not_not] at idle
  have uncancelled : job.state ≠ .cancelled := by
    rw [running]
    exact JobState.noConfusion
  have parts := congrArg Multiset.card account.items
  rw [idle.1, idle.2, account.undropped uncancelled, zero_add, zero_add, add_zero, add_zero,
    card_recorded, Multiset.coe_card, ← account.counted.results] at parts
  rw [length_workItems, ← account.total] at parts
  rcases life.unfinished running with none | fewer
  · omega
  · omega

theorem worker_of_pending (manned : Manned e) (queued : 0 < e.scheduler.pending) :
    ∃ task w, e.workers.get? task = some w ∧ w.loc.isDone = false := by
  rcases Dict.exists_of_count_pos _ _ (manned queued) with ⟨task, w, found, stays⟩
  refine ⟨task, w, found, ?_⟩
  cases at_ : w.loc with
  | done =>
      rw [at_] at stays
      cases stays
  | _ => rfl

theorem no_pending_of_idle (stored : e.Stored) (manned : Manned e)
    (idle : ∀ task w, e.workers.get? task = some w → w.loc.isDone = true) :
    e.scheduler.pending = 0 := by
  rcases lt_or_eq_of_le stored.queue.pending_nonneg with queued | none
  · rcases worker_of_pending manned queued with ⟨task, w, found, alive⟩
    rw [idle task w found] at alive
    cases alive
  · exact none.symm

theorem not_running_of_idle {jobId : JobId} {job : Job} {prompts : List PromptItem}
    (account : Account True events e jobId job prompts 0) (life : Lifecycle events jobId job)
    (some_ : 1 ≤ job.total) (stored : e.Stored) (manned : Manned e)
    (idle : ∀ task w, e.workers.get? task = some w → w.loc.isDone = true) :
    job.state ≠ .running := by
  intro running
  rcases work_of_running account life some_ running with queue | hands
  · apply queue
    unfold queued
    rw [stored.queue.itemsOf_of_no_pending (no_pending_of_idle stored manned idle) jobId]
    rfl
  · exact hands (held_of_no_worker idle jobId)

/-- Jobs finish exactly when their work is done, and no work is ever stranded:
a job is completed if and only if it was never cancelled and all its results
are there, it stays as it ended, and queued items as well as running jobs have a
worker that is not done. -/
theorem jobs_finish (p : Params) (pool : 1 ≤ p.settings.workerPoolSize) {events : List Event}
    {e : Engine}
    (run : (engineMachine p).Reaches
      (Machine.onLabels (fun label => BeforeShutdown label ∧ WellBehaved label)) events e) :
    (∀ jobId job, e.store.get jobId = some job → 1 ≤ job.total →
      (job.state = .completed ↔
        (∀ items, Event.cancelled jobId items ∉ events) ∧ job.completed = job.total) ∧
      (job.finishedAt = none ↔ job.state = .running) ∧
      (∀ later e', (engineMachine p).Run
          (Machine.onLabels (fun label => BeforeShutdown label ∧ WellBehaved label)) e later e' →
        ∃ job', e'.store.get jobId = some job' ∧
          (job.state = .completed ∨ job.state = .cancelled → job'.state = job.state) ∧
          ∀ time, job.finishedAt = some time → job'.finishedAt = some time) ∧
      ((∀ task w, e.workers.get? task = some w → w.loc.isDone = true) → job.state ≠ .running)) ∧
    (0 < e.scheduler.pending →
      ∃ task w, e.workers.get? task = some w ∧ w.loc.isDone = false) ∧
    ((∀ task w, e.workers.get? task = some w → w.loc.isDone = true) →
      e.scheduler.pending = 0) := by
  have stored := reachable_stored run
  have ledger := reachable_ledger True (fun _ _ _ admissible _ => admissible) run
  have lives := reachable_lifecycles (fun _ _ _ admissible => admissible.1) run
  have manned := reachable_manned pool (fun _ _ _ admissible => admissible) run
  refine ⟨?_, worker_of_pending manned, no_pending_of_idle stored manned⟩
  intro jobId job found some_
  rcases ledger.known jobId job found with ⟨prompts, lost, account⟩
  have life := lives.known jobId job found
  have atMost := account.completed_le
  refine ⟨?_, life.ended, ?_, ?_⟩
  · constructor
    · intro completed
      constructor
      · intro items member
        have cancelled := life.cancelled.mpr ⟨items, member⟩
        rw [completed] at cancelled
        cases cancelled
      · exact le_antisymm atMost (reachable_finished run found completed)
    · rintro ⟨uncancelled, all⟩
      rcases life.state with running | completed | cancelled
      · rcases life.unfinished running with none | fewer
        · omega
        · omega
      · exact completed
      · rcases life.cancelled.mp cancelled with ⟨items, member⟩
        exact (uncancelled items member).elim
  · intro later e' after
    rcases lasting after found with ⟨job', found', lasts⟩
    refine ⟨job', found', ?_, lasts.finishedAt⟩
    rintro (completed | cancelled)
    · exact lasts.state (by rw [completed]; rfl)
    · exact lasts.state (by rw [cancelled]; rfl)
  · rw [account.nothingLost trivial] at account
    exact not_running_of_idle account life some_ stored manned

/-- A job of two prompts: the first is answered, the second fails and completes it. -/
def allDone : List Label :=
  halfDone ++ [.work 0 .leave, .work 0 .enter, .work 0 .take, .work 0 .gate,
    .work 0 (.reply (.raised "no") 0), .work 0 .leave, .work 0 .enter, .work 0 .take,
    .work 0 .leave]

def isCancellation : Event → Bool
  | .cancelled _ _ => true
  | _ => false

/-- The worker has left, so the job is not running, and it is completed because
it has all its results. -/
theorem jobs_finish_all_done :
    ∃ events e job, (engineMachine singleWorker).Reaches
        (Machine.onLabels (fun label => BeforeShutdown label ∧ WellBehaved label)) events e ∧
      e.store.get "a" = some job ∧ job.completed = 2 ∧ job.state = .completed ∧
      job.finishedAt ≠ none ∧ e.scheduler.pending = 0 := by
  rcases @Machine.exists_run_of_exec _ _ _ (engineMachine singleWorker)
      (Machine.onLabels (fun label => BeforeShutdown label ∧ WellBehaved label))
      (engineMachine singleWorker).initial (fun _ label _ => isWellBehaved label)
      (fun _ _ _ checked => wellBehaved_of_check checked) allDone
      (fun outcome => (outcome.2.store.get "a").any
          (fun job => job.completed == 2 && job.total == 2) &&
        outcome.2.workers.values.all (fun w => w.loc.isDone) &&
        outcome.1.all (fun event => !isCancellation event))
      (by decide +kernel) with
    ⟨events, e, run, tested⟩
  simp only [Bool.and_eq_true, List.all_eq_true] at tested
  rcases tested with ⟨⟨present, ended⟩, uncancelled⟩
  rcases (Option.any_eq_true _ _).mp present with ⟨job, found, checked⟩
  rw [Bool.and_eq_true, beq_iff_eq, beq_iff_eq] at checked
  rcases jobs_finish singleWorker (by decide) run with ⟨jobs, _, nothing⟩
  rcases jobs "a" job found (by omega) with ⟨completed, finished, _, notRunning⟩
  have idle : ∀ task w, e.workers.get? task = some w → w.loc.isDone = true :=
    fun task w read => ended w ((e.workers.mem_values_iff w).mpr ⟨task, read⟩)
  refine ⟨events, e, job, run, found, checked.1, completed.mpr ⟨?_, ?_⟩, ?_, nothing idle⟩
  · intro items member
    have impossible := uncancelled _ member
    cases impossible
  · rw [checked.1, checked.2]
  · intro none
    exact notRunning idle (finished.mp none)

end EngineCompletion
end BatchInference
