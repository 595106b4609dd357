/-
The isolation of failures.

Whatever a provider answers, the worker should either go on with its item or file a
result for it and give its permit back. This holds except for exceptions whose `str`
raises in the handler itself, and for a `CancelledError` out of the provider.
-/

import BatchInference.EngineCompletion
import BatchInference.EngineOrigins
import BatchInference.EngineRoster
import BatchInference.EnginePermits

set_option autoImplicit false

namespace BatchInference
namespace EngineIsolation

open Engine EngineItems EngineCompletion EngineOutcomes EngineOrigins EnginePermits

variable {p : Params} {events emitted : List Event} {e e' : Engine} {jobId : JobId}

/-! ### What becomes of an item -/

/-- One more result is filed and counted, as a success or as a failure. -/
structure Filed (item : WorkItem) (job job' : Job) : Prop where
  unanswered : job.results.get? item.seq = none
  answered : ∃ result, result.id = item.id ∧ result.prompt = item.prompt ∧
    job'.results = job.results.set item.seq result
  completed : job'.completed = job.completed + 1
  outcome : job'.succeeded = job.succeeded + 1 ∧ job'.failed = job.failed ∨
    job'.succeeded = job.succeeded ∧ job'.failed = job.failed + 1

/-- The worker goes on with its item, or the item is filed and the permit comes next. -/
inductive Handled (e e' : Engine) (task : TaskId) (f : InFlight) : Prop where
  | goesOn (w' : Worker) (f' : InFlight) (found' : e'.workers.get? task = some w')
      (holds' : w'.loc.flight = some f') (sameJob : f'.jobId = f.jobId) (sameItem : f'.item = f.item)
      (work : ∀ job, e.store.get f.jobId = some job →
        ∃ job', e'.store.get f.jobId = some job' ∧ SameWork job job')
  | filed (w' : Worker) (found' : e'.workers.get? task = some w')
      (at_ : w'.loc = .releasing true)
      (work : ∀ job, e.store.get f.jobId = some job →
        ∃ job', e'.store.get f.jobId = some job' ∧ Filed f.item job job')

theorem wellBehaved_reply (task : TaskId) (reply : Reply) (jitter : ℚ) :
    WellBehaved (.work task (.reply reply jitter)) ↔ ¬Unprintable reply ∧ reply ≠ .cancelled := by
  cases reply <;> simp [WellBehaved, Unprintable]

theorem filed_of_record {item : WorkItem} {result : InferenceResult} {cost now : ℚ} {job : Job}
    (absent : job.results.get? item.seq = none) (id : result.id = item.id)
    (prompt : result.prompt = item.prompt) :
    Filed item job (job.advance item.seq result cost now) := by
  rcases advance_fields item.seq result cost now job with
    ⟨_, completed, succeeded, failed, results, _⟩
  refine ⟨absent, ⟨result, id, prompt, results⟩, completed, ?_⟩
  rw [succeeded, failed]
  cases result.success with
  | true => exact Or.inl ⟨rfl, rfl⟩
  | false => exact Or.inr ⟨rfl, rfl⟩

/-- A worker with an item in its hands handles it, unless the provider misbehaves. -/
theorem handled_iff (ledger : Ledger False events e) (serving : e.Serving) {task : TaskId}
    {action : Action} {w : Worker} {f : InFlight}
    (stepped : (engineMachine p).step e (.work task action) = some (e', emitted))
    (found : e.workers.get? task = some w) (holds : w.loc.flight = some f) :
    Handled e e' task f ↔ WellBehaved (.work task action) := by
  have present := ledger.job_of_held (mem_held found holds)
  obtain ⟨w', g, flag, loc, read, rfl, _, work⟩ := work_cases stepped
  rw [found, Option.some.injEq] at read
  subst read
  have now : (g.moveTo task
      { w with cancelRequested := flag } loc).workers.get? task =
        some { loc := loc, cancelRequested := flag } := by
    rw [get?_moveTo, if_pos rfl]
  have carried : ∀ f', loc.flight = some f' → f'.jobId = f.jobId → f'.item = f.item →
      g.store = e.store → Handled e (g.moveTo task
        { w with cancelRequested := flag } loc) task f := by
    intro f' holds' sameJob sameItem store
    refine .goesOn _ f' now holds' sameJob sameItem (fun job known => ⟨job, ?_, SameWork.refl job⟩)
    change g.store.get f.jobId = some job
    rw [store]
    exact known
  have dropped : loc.flight = none → g.store = e.store → ¬Handled e (g.moveTo task
      { w with cancelRequested := flag } loc) task f := by
    intro free store handled
    obtain ⟨job, known⟩ := present
    cases handled with
    | goesOn w' f' found' holds' sameJob sameItem work =>
        rw [now, Option.some.injEq] at found'
        subst found'
        rw [free] at holds'
        cases holds'
    | filed w' found' at_ work =>
        obtain ⟨job', known', filed⟩ := work job known
        have read' : g.store.get f.jobId = some job' := known'
        rw [store, known, Option.some.injEq] at read'
        have completed := filed.completed
        rw [read'] at completed
        exact absurd completed (Nat.ne_of_lt (Nat.lt_succ_self _))
  have same : ∀ {f' : InFlight} {before : Bool}, w.loc = .calling f' before → f' = f := by
    intro f' before at_
    rw [at_] at holds
    exact Option.some.inj holds
  have free : ∀ {source : Loc}, w.loc = source → source.flight ≠ none := by
    intro source at_ empty
    rw [at_, empty] at holds
    cases holds
  cases work with
  | called f' at_ bucket grant =>
      rw [at_] at holds
      exact iff_of_true (carried f holds rfl rfl rfl) trivial
  | throttled f' at_ bucket seconds refused =>
      rw [at_] at holds
      exact iff_of_true (carried f holds rfl rfl rfl) trivial
  | tokenWoken f' seconds at_ quiet =>
      rw [at_] at holds
      exact iff_of_true (carried f holds rfl rfl rfl) trivial
  | suspended f' at_ =>
      rw [at_] at holds
      exact iff_of_true (carried f holds rfl rfl rfl) trivial
  | retried f' before at_ alone reply jitter seconds settled =>
      obtain rfl := same at_
      have ways := settles p.settings f'.item f'.attempt jitter reply
      rw [settled] at ways
      have patient : WellBehaved (.work task (.reply reply jitter)) := by
        cases ways with
        | retried retryAfter seconds left => trivial
      refine iff_of_true (.goesOn _ f' now rfl rfl rfl ?_) patient
      intro job known
      refine ⟨job.retried, ?_, ⟨rfl, rfl, rfl, rfl, rfl⟩⟩
      have known : e.store.jobs.get? f'.jobId = some job := known
      change (e.store.update f'.jobId Job.retried).jobs.get? f'.jobId = some job.retried
      rw [InMemoryJobStore.get?_update, if_pos rfl, known]
      rfl
  | recorded f' before at_ alone reply jitter result cost credited exhausted settled =>
      obtain rfl := same at_
      rcases settle_record settled with ⟨sameId, samePrompt⟩
      have ways := settles p.settings f'.item f'.attempt jitter reply
      rw [settled] at ways
      have polite : WellBehaved (.work task (.reply reply jitter)) := by
        rw [wellBehaved_reply]
        exact ways.printable
      refine iff_of_true (.filed _ now rfl ?_) polite
      intro job known
      have absent := unrecorded_of_asking ledger found (by rw [at_]; rfl) known
      refine ⟨job.advance f'.item.seq result cost e.wallTime, ?_,
        filed_of_record absent sameId samePrompt⟩
      have known : e.store.jobs.get? f'.jobId = some job := known
      change (e.record f' result cost credited exhausted).store.jobs.get? f'.jobId = _
      rw [(record_jobs f' result cost credited exhausted e).2, if_pos rfl, known]
      rfl
  | lost f' before at_ alone reply jitter credited settled =>
      exact iff_of_false (dropped rfl rfl) (wellBehaved_of_settle rfl (Or.inl ⟨credited, settled⟩))
  | callCancelled f' before at_ alone reply jitter settled =>
      exact iff_of_false (dropped rfl rfl) (wellBehaved_of_settle rfl (Or.inr settled))
  | backoffEnded f' seconds at_ quiet =>
      rw [at_, Loc.flight, Option.some.injEq] at holds
      subst holds
      exact iff_of_true (carried _ rfl rfl rfl rfl) trivial
  | sleepCancelled f' seconds at_ requested quiet =>
      rw [serving.uncancelled task w found] at requested
      cases requested
  | started at_ quiet => exact (free at_ rfl).elim
  | woken at_ quiet marked => exact (free at_ rfl).elim
  | granted at_ room => exact (free at_ rfl).elim
  | slept at_ full => exact (free at_ rfl).elim
  | drained at_ scheduler popped => exact (free at_ rfl).elim
  | skipped at_ scheduler jobId item popped gone => exact (free at_ rfl).elim
  | taken at_ scheduler jobId item job popped known alive => exact (free at_ rfl).elim
  | left again at_ => exact (free at_ rfl).elim
  | killed at_ requested quiet => exact (free at_ rfl).elim
  | gaveUp at_ requested quiet => exact (free at_ rfl).elim

/-! ### Runs -/

theorem released {task : TaskId} {w : Worker} {again : Bool}
    (found : e.workers.get? task = some w) (at_ : w.loc = .releasing again) :
    ∃ e', (engineMachine p).step e (.work task .leave) = some (e', []) ∧
      e'.limiter.inUse + 1 = e.limiter.inUse := by
  refine ⟨e.release.moveTo task w (if again then .acquiring else .done), ?_, ?_⟩
  · change Engine.step p e (.work task .leave) = _
    simp only [step, found, workStep, at_]
  · rw [(moveTo_frame _ _ _ _).2.2.1, (release_frame e).2.2.1]
    exact sub_add_cancel _ _

def isReleasing : Loc → Bool
  | .releasing true => true
  | _ => false

theorem eq_releasing {loc : Loc} (releases : isReleasing loc = true) :
    loc = .releasing true := by
  unfold isReleasing at releases
  split at releases
  · rfl
  · cases releases

/-- One prompt is called for; the reply comes last. -/
def oneCall (reply : Reply) : List Label :=
  [.submit [{ id := none, prompt := "x" }] .normal none "a", .work 0 .start, .work 0 .enter,
    .work 0 .take, .work 0 .gate, .work 0 (.reply reply 0)]

end EngineIsolation
end BatchInference
