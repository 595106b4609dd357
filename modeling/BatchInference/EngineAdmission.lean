/-
Admission control.

A new job needs an engine that accepts, a free slot among the active jobs and
room in the queue for all its items. The slot is given back by exactly one of
the last result, the cancellation and the end of a shutdown, so the bounds hold
in every state and a refusal is never due to a leaked slot.
-/

import BatchInference.EngineRoster
import BatchInference.EngineIdempotency

set_option autoImplicit false

namespace BatchInference
namespace EngineAdmission

open Engine

/-- The engine takes a new job with this many prompts. -/
def Admits (p : Params) (e : Engine) (count : Nat) : Prop :=
  e.accepting = true ∧ e.activeJobs < p.settings.maxActiveJobs ∧
    e.scheduler.pending + count ≤ p.settings.maxQueueSize

/-- The slots are those of the running jobs, and both limits are kept. -/
structure Occupancy (p : Params) (e : Engine) : Prop where
  active : ∀ jobId, jobId ∈ e.active ↔
    ∃ job, e.store.get jobId = some job ∧ job.id = jobId ∧ job.state = .running
  activeJobs : e.activeJobs ≤ max 0 p.settings.maxActiveJobs
  pending : e.scheduler.pending ≤ max 0 p.settings.maxQueueSize

/-- The answer to a request for a new job, with the engine after it. -/
structure Answer (p : Params) (e : Engine) (count : Nat) (newId : JobId) (e' : Engine)
    (result : SubmitResult) : Prop where
  admitted : result = .job newId false ↔ Admits p e count
  refused : ¬Admits p e count → ∃ retryAfter message, result = .overloaded retryAfter message
  enrolled : result = .job newId false →
    e'.active = insert newId e.active ∧ e'.scheduler.pending = e.scheduler.pending + count ∧
      ∃ job, e'.store.get newId = some job ∧ job.state = .running ∧ job.total = count

/-! ### The limits -/

/-- Both limits survive what a step does to the roster. -/
private theorem limits_next {p : Params} {e e' : Engine} {label : Label}
    (step : RosterStep p e label e')
    (before : e.activeJobs ≤ max 0 p.settings.maxActiveJobs ∧
      e.scheduler.pending ≤ max 0 p.settings.maxQueueSize) :
    e'.activeJobs ≤ max 0 p.settings.maxActiveJobs ∧
      e'.scheduler.pending ≤ max 0 p.settings.maxQueueSize := by
  have shrinks : e'.active ⊆ e.active → e'.activeJobs ≤ e.activeJobs := by
    intro subset
    exact Int.ofNat_le.mpr (Finset.card_le_card subset)
  cases step with
  | quiet active states counters pending =>
      have fewer := shrinks active.subset
      constructor
      · omega
      · omega
  | admitted newId count fresh below room active states counters pending =>
      have oneMore : e'.activeJobs ≤ e.activeJobs + 1 := by
        unfold activeJobs
        rw [active]
        exact Int.ofNat_le.mpr (Finset.card_insert_le newId e.active)
      constructor
      · omega
      · omega
  | completed jobId running active states counters pending =>
      have fewer := shrinks (active.subset.trans (Finset.erase_subset jobId e.active))
      constructor
      · omega
      · omega
  | cancelled jobId state known unfinished active states counters pending =>
      have fewer := shrinks (active.subset.trans (Finset.erase_subset jobId e.active))
      constructor
      · omega
      · omega
  | interrupted ending active states counters pending =>
      have fewer := shrinks (fun jobId member => ((active jobId).mp member).1)
      constructor
      · omega
      · omega

variable {p : Params} {events : List Event} {e : Engine}

theorem reachable_occupancy {ok : Engine → Label → Engine → Prop}
    (run : (engineMachine p).Reaches ok events e) : Occupancy p e := by
  have stored := reachable_stored run
  obtain ⟨⟨activeJobs, pending⟩, roster⟩ := roster_invariant run
    (fun e => e.activeJobs ≤ max 0 p.settings.maxActiveJobs ∧
      e.scheduler.pending ≤ max 0 p.settings.maxQueueSize)
    ⟨le_max_left 0 _, le_max_left 0 _⟩
    (fun before _ _ step => limits_next step before)
  refine ⟨?_, activeJobs, pending⟩
  intro jobId
  rw [roster.active jobId]
  unfold stateOf
  rw [Option.map_eq_some_iff]
  constructor
  · rintro ⟨job, found, running⟩
    exact ⟨job, found, stored.named jobId job found, running⟩
  · rintro ⟨job, found, _, running⟩
    exact ⟨job, found, running⟩

/-! ### The answer -/

/-- What the machine tests before it serves a request. -/
theorem guard_of_fresh {newId : JobId} (quiet : e.atAwait = true) (named : newId ≠ "")
    (fresh : e.store.get newId = none) :
    (e.atAwait && !newId.isEmpty && !e.store.jobs.contains newId) = true := by
  have unknown : e.store.jobs.contains newId = false := by
    unfold InMemoryJobStore.get at fresh
    unfold Dict.contains
    rw [fresh]
    rfl
  rw [quiet, String.isEmpty_eq_false_iff.mpr named, unknown]
  rfl

/-- A request that is served is answered by `submit_with_idempotency`. -/
theorem step_of_requests {label : Label} {prompts : List PromptItem} {priority : Priority}
    {key : Option String} {newId : JobId} (requested : e.Requests label prompts priority key newId)
    (quiet : e.atAwait = true) (named : newId ≠ "") (fresh : e.store.get newId = none) :
    (engineMachine p).step e label =
      some ((e.submitWithIdempotency p prompts priority key newId).1,
        [.submitted prompts priority key
          (e.submitWithIdempotency p prompts priority key newId).2]) := by
  have guard := guard_of_fresh quiet named fresh
  change Engine.step p e label = _
  cases requested with
  | submit => simp only [Engine.step, guard, if_true]
  | replay jobId priority _ job found failures =>
      have some_ : job.deadLetter.isEmpty = false := by simpa using failures
      simp only [Engine.step, Engine.replayFailed, guard, if_true, found, some_]
      rfl

theorem overloaded_untouched (prompts : List PromptItem) (priority : Priority)
    (key : Option String) (newId : JobId) {retryAfter : Int} {message : String}
    (refused : (e.submitWithIdempotency p prompts priority key newId).2 =
      .overloaded retryAfter message) :
    ∃ metrics, (e.submitWithIdempotency p prompts priority key newId).1 =
      { e with metrics := metrics } := by
  rcases submit_cases p prompts priority key newId e with
    ⟨⟨_, _, same⟩, _⟩ | ⟨_, _, _, _, admitted⟩
  · exact ⟨_, same⟩
  · rw [admitted] at refused
    cases refused

/-- Without a match among the keys only admission and refusal are left. -/
theorem submit_answer (prompts : List PromptItem) (priority : Priority) (key : Option String)
    (newId : JobId) (unmatched : e.existingJob key = none) :
    Answer p e prompts.length newId (e.submitWithIdempotency p prompts priority key newId).1
      (e.submitWithIdempotency p prompts priority key newId).2 := by
  rcases submit_cases p prompts priority key newId e with ⟨_, notNew⟩ |
    ⟨accepting, _, below, room, admitted⟩
  · have closed : ¬Admits p e prompts.length ∧ ∃ retryAfter message,
        (e.submitWithIdempotency p prompts priority key newId).2 =
          .overloaded retryAfter message := by
      have answered := notNew newId
      unfold Engine.submitWithIdempotency at answered ⊢
      simp only [unmatched] at answered ⊢
      by_cases accepting : e.accepting = true
      · by_cases full : p.settings.maxActiveJobs ≤ e.activeJobs
        · simp only [accepting, full]
          exact ⟨fun admits => absurd admits.2.1 (not_lt.mpr full), _, _, rfl⟩
        · by_cases tooMany : p.settings.maxQueueSize < e.scheduler.pending + prompts.length
          · simp only [accepting, full, tooMany]
            exact ⟨fun admits => absurd admits.2.2 (not_le.mpr tooMany), _, _, rfl⟩
          · simp [accepting, full, tooMany] at answered
      · simp only [Bool.not_eq_true] at accepting
        simp only [accepting]
        refine ⟨fun admits => ?_, _, _, rfl⟩
        rw [admits.1] at accepting
        cases accepting
    constructor
    · exact ⟨fun impossible => absurd impossible (notNew newId),
        fun admits => absurd admits closed.1⟩
    · exact fun _ => closed.2
    · exact fun impossible => absurd impossible (notNew newId)
  · rw [admitted]
    have admits : Admits p e prompts.length := ⟨accepting, below, room⟩
    constructor
    · exact ⟨fun _ => admits, fun _ => rfl⟩
    · exact fun refused => absurd admits refused
    · intro _
      refine ⟨?_, ?_, ?_⟩
      · simp only [register_frame]
      · simp only [register_frame, FairScheduler.addJob, EngineItems.length_workItems]
      · unfold InMemoryJobStore.get
        rw [register_jobs, if_pos rfl]
        exact ⟨_, rfl, rfl, rfl⟩

/-- In every state the active set lists the running jobs and both limits are
kept. A new submission or replay is admitted exactly when the engine accepts,
has a free slot and has room for all items; a refused one changes nothing. -/
theorem admission_exact (run : (engineMachine p).Reaches Machine.anyStep events e) :
    Occupancy p e ∧
      ∀ label prompts priority key newId, e.Requests label prompts priority key newId →
        e.atAwait = true → newId ≠ "" → e.store.get newId = none →
          ∃ e' result, (engineMachine p).step e label =
              some (e', [.submitted prompts priority key result]) ∧
            (e.existingJob key = none → Answer p e prompts.length newId e' result) ∧
            ((∃ retryAfter message, result = .overloaded retryAfter message) →
              ∃ metrics, e' = { e with metrics := metrics }) := by
  refine ⟨reachable_occupancy run, ?_⟩
  intro label prompts priority key newId requested quiet named fresh
  refine ⟨_, _, step_of_requests requested quiet named fresh, ?_, ?_⟩
  · exact submit_answer prompts priority key newId
  · rintro ⟨retryAfter, message, refused⟩
    exact overloaded_untouched prompts priority key newId refused

/-- With the only slot taken, the next submission is refused. -/
theorem admission_exact_full :
    ∃ events e, (engineMachine EngineIdempotency.oneActiveJob).Reaches Machine.anyStep events e ∧
      Occupancy EngineIdempotency.oneActiveJob e ∧
      ∃ metrics retryAfter message, (engineMachine EngineIdempotency.oneActiveJob).step e
          (.submit EngineIdempotency.greeting .normal none "b") =
        some ({ e with metrics := metrics },
          [.submitted EngineIdempotency.greeting .normal none
            (.overloaded retryAfter message)]) := by
  rcases Machine.exists_anyRun_of_exec (engineMachine EngineIdempotency.oneActiveJob)
      (engineMachine EngineIdempotency.oneActiveJob).initial
      [.submit EngineIdempotency.greeting .normal none "a"]
      (fun outcome => decide (1 ≤ outcome.2.activeJobs) && outcome.2.atAwait &&
        (outcome.2.store.get "b").isNone) (by decide +kernel) with
    ⟨events, e, run, tested⟩
  simp only [Bool.and_eq_true, decide_eq_true_eq, Option.isNone_iff_eq_none] at tested
  obtain ⟨⟨full, quiet⟩, fresh⟩ := tested
  obtain ⟨occupancy, answers⟩ := admission_exact run
  obtain ⟨e', result, stepped, exact_, atomic⟩ := answers _ _ _ _ _
    (.submit EngineIdempotency.greeting .normal none "b") quiet (by decide) fresh
  have refused : ¬Admits EngineIdempotency.oneActiveJob e EngineIdempotency.greeting.length :=
    fun admits => absurd admits.2.1 (not_lt.mpr full)
  obtain ⟨retryAfter, message, rfl⟩ := (exact_ rfl).refused refused
  obtain ⟨metrics, rfl⟩ := atomic ⟨retryAfter, message, rfl⟩
  exact ⟨events, e, run, occupancy, metrics, retryAfter, message, stepped⟩

end EngineAdmission
end BatchInference
