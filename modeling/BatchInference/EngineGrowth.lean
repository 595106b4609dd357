/-
How the record of a job grows.

From one look at a job to the next its request is the same, its counters are not
smaller, and the results it had are still there; results that arrive meanwhile may
come between them in the listing. Once the job is completed nothing of it changes.
-/

import BatchInference.EngineOrigins

set_option autoImplicit false

namespace BatchInference
namespace EngineGrowth

open Engine EngineItems EngineFate EngineCompletion EngineOutcomes EngineOrigins

variable {p : Params} {events emitted : List Event} {e e' : Engine} {label : Label}
  {jobId : JobId}

/-! ### Growing records -/

/-- What a job is given when it is registered. -/
def request (job : Job) : JobId × Priority × Nat × ℚ × Option ℚ :=
  (job.id, job.priority, job.total, job.createdAt, job.startedAt)

/-- The record as it may look later. -/
structure Grows (job job' : Job) : Prop where
  request : request job' = request job
  completed : job.completed ≤ job'.completed
  succeeded : job.succeeded ≤ job'.succeeded
  failed : job.failed ≤ job'.failed
  retries : job.retries ≤ job'.retries
  results : ∀ seq result, job.results.get? seq = some result →
    job'.results.get? seq = some result
  lasting : Lasting job job'

theorem Grows.refl (job : Job) : Grows job job where
  request := rfl
  completed := le_refl _
  succeeded := le_refl _
  failed := le_refl _
  retries := le_refl _
  results := fun _ _ read => read
  lasting := ⟨fun _ => rfl, fun _ ended => ended⟩

theorem Grows.trans {job job' job'' : Job} (first : Grows job job') (second : Grows job' job'') :
    Grows job job'' where
  request := second.request.trans first.request
  completed := le_trans first.completed second.completed
  succeeded := le_trans first.succeeded second.succeeded
  failed := le_trans first.failed second.failed
  retries := le_trans first.retries second.retries
  results := fun seq result read => second.results seq result (first.results seq result read)
  lasting := by
    constructor
    · intro closed
      have same := first.lasting.state closed
      exact (second.lasting.state (by rw [same]; exact closed)).trans same
    · intro time ended
      exact second.lasting.finishedAt _ (first.lasting.finishedAt _ ended)

theorem Grows.total {job job' : Job} (grows : Grows job job') : job'.total = job.total :=
  congrArg (fun given => given.2.2.1) grows.request

theorem Grows.createdAt {job job' : Job} (grows : Grows job job') :
    job'.createdAt = job.createdAt :=
  congrArg (fun given => given.2.2.2.1) grows.request

theorem request_advance (seq : Nat) (result : InferenceResult) (cost now : ℚ) (job : Job) :
    request (job.advance seq result cost now) = request job := by
  unfold Job.advance Job.record
  simp only
  split <;> split <;> rfl

/-- Apart from its results, a job grows by every step. -/
theorem grows_of_results {job job' : Job} (change : JobStep e label emitted jobId job job')
    (results : ∀ seq result, job.results.get? seq = some result →
      job'.results.get? seq = some result) : Grows job job' := by
  have lasting := lasting_of_step change
  cases change with
  | kept silent => exact .refl job
  | retried silent answered =>
      exact ⟨rfl, le_refl _, le_refl _, le_refl _, Nat.le_succ _, results, lasting⟩
  | advanced seq result cost silent answered =>
      obtain ⟨_, completed, succeeded, failed, _, retries, _⟩ :=
        advance_fields seq result cost e.wallTime job
      exact ⟨request_advance seq result cost e.wallTime job, completed ▸ Nat.le_succ _,
        succeeded ▸ Nat.le_add_right _ _, failed ▸ Nat.le_add_right _ _, le_of_eq retries.symm,
        results, lasting⟩
  | cancelled items unfinished shown =>
      exact ⟨rfl, le_refl _, le_refl _, le_refl _, le_refl _, results, lasting⟩
  | interrupted ending unfinished =>
      exact ⟨rfl, le_refl _, le_refl _, le_refl _, le_refl _, results, lasting⟩

/-- A reply is recorded under a number that has no result yet. -/
theorem results_stay (ledger : Ledger False events e) (step : Step p e label e' emitted)
    {job job' : Job} (present : e.store.get jobId = some job)
    (present' : e'.store.get jobId = some job') (change : JobStep e label emitted jobId job job')
    {seq : Nat} {result : InferenceResult} (read : job.results.get? seq = some result) :
    job'.results.get? seq = some result := by
  by_cases silent : Unanswered jobId emitted
  · rw [(sameTally_of_unanswered change silent).results]
    exact read
  · obtain ⟨task, w, f, reply, jitter, rfl, heard⟩ := heard_of_step step silent
    have absent := unrecorded_of_asking ledger heard.found heard.asking present
    have after := results_of_heard heard present present'
    have other : seq ≠ f.item.seq := by
      rintro rfl
      rw [absent] at read
      cases read
    cases settled : settle p.settings f.item f.attempt jitter reply with
    | record recorded cost credited exhausted =>
        simp only [settled] at after
        rw [after, Dict.get?_set_other _ _ other]
        exact read
    | _ =>
        simp only [settled] at after
        rw [after]
        exact read

theorem grows_of_step (ledger : Ledger False events e) (step : Step p e label e' emitted)
    {job : Job} (present : e.store.get jobId = some job) :
    ∃ job', e'.store.get jobId = some job' ∧ Grows job job' := by
  obtain ⟨job', present', change⟩ := step.job_stays present
  exact ⟨job', present', grows_of_results change
    (fun _ _ read => results_stay ledger step present present' change read)⟩

/-- In every continuation of a run the job is still in the store, grown. -/
theorem grows_of_run {ok : Engine → Label → Engine → Prop} {later : List Event}
    (before : (engineMachine p).Reaches ok events e)
    (run : Machine.Run (engineMachine p) ok e later e') {job : Job}
    (present : e.store.get jobId = some job) :
    ∃ job', e'.store.get jobId = some job' ∧ Grows job job' := by
  induction run with
  | refl => exact ⟨job, present, .refl job⟩
  | tail earlier admissible stepped ih =>
      obtain ⟨middle, known, grows⟩ := ih
      have ledger := reachable_ledger False (fun _ _ _ _ impossible => impossible.elim)
        (before.trans earlier)
      obtain ⟨job', known', more⟩ := grows_of_step ledger (step_cases stepped) known
      exact ⟨job', known', grows.trans more⟩

/-! ### The listing of the results -/

/-- The results that a job had are listed later in the same order, perhaps with others
between them. -/
theorem Grows.orderedResults {job job' : Job} (grows : Grows job job') :
    job.orderedResults.Sublist job'.orderedResults := by
  have known : job.results.keys ⊆ job'.results.keys := by
    intro seq listed
    obtain ⟨result, read⟩ := (job.results.mem_keys_iff seq).mp listed
    exact (job'.results.mem_keys_iff seq).mpr ⟨result, grows.results seq result read⟩
  have sorted : (job.results.keys.insertionSort (· ≤ ·)).Sublist
      (job'.results.keys.insertionSort (· ≤ ·)) := by
    apply List.sublist_of_subperm_of_pairwise (r := (· ≤ ·))
    · have distinct : job.results.keys.Nodup := job.results.distinct
      exact ((List.perm_insertionSort _ _).subperm.trans (distinct.subperm known)).trans
        (List.perm_insertionSort _ _).symm.subperm
    · exact List.pairwise_insertionSort _ _
    · exact List.pairwise_insertionSort _ _
  have same : job.orderedResults =
      (job.results.keys.insertionSort (· ≤ ·)).filterMap job'.results.get? := by
    apply List.filterMap_congr
    intro seq listed
    obtain ⟨result, read⟩ := (job.results.mem_keys_iff seq).mp
      ((List.mem_insertionSort _).mp listed)
    rw [read, grows.results seq result read]
  rw [same]
  exact sorted.filterMap _

theorem Grows.deadLetter {job job' : Job} (grows : Grows job job') :
    job.deadLetter.Sublist job'.deadLetter :=
  grows.orderedResults.filter _

/-! ### Completed jobs -/

/-- With all results in, no item is queued or held. -/
theorem free_of_complete {job : Job} {prompts : List PromptItem} {lost : Multiset WorkItem}
    (account : Account False events e jobId job prompts lost) (all : job.total ≤ job.completed) :
    queued jobId e = 0 ∧ held jobId e = 0 := by
  have items := account.items
  rw [← account.complete all] at items
  have nothing : queued jobId e + held jobId e + (dropped jobId events + lost) = 0 := by
    apply add_right_cancel (b := recorded job)
    rw [zero_add]
    refine Eq.trans ?_ items
    abel
  constructor
  · apply Multiset.le_zero.mp
    rw [← nothing, add_assoc]
    exact Multiset.le_add_right _ _
  · apply Multiset.le_zero.mp
    rw [← nothing]
    exact (Multiset.le_add_left _ _).trans (Multiset.le_add_right _ _)

/-- Nobody works for a completed job, so nothing is added to its record. -/
theorem kept_of_completed (ledger : Ledger False events e) (step : Step p e label e' emitted)
    {job : Job} (present : e.store.get jobId = some job) (completed : job.state = .completed)
    (all : job.total ≤ job.completed) : e'.store.get jobId = some job := by
  obtain ⟨job', present', change⟩ := step.job_stays present
  obtain ⟨prompts, lost, account⟩ := ledger.known jobId job present
  have idle := (free_of_complete account all).2
  have silent : Unanswered jobId emitted := by
    by_contra answered
    obtain ⟨task, w, f, reply, jitter, rfl, heard⟩ := heard_of_step step answered
    have isHeld := mem_held_of_asking heard.found heard.asking rfl
    rw [idle] at isHeld
    exact Multiset.notMem_zero _ isHeld
  have closed : isOpen job.state = false := by
    rw [completed]
    rfl
  rw [show e'.store.get jobId = some job' from present']
  cases change with
  | kept => rfl
  | retried _ answered =>
      obtain ⟨seq, reply, spoken⟩ := answered
      exact absurd spoken (silent seq reply)
  | advanced seq result cost _ answered =>
      obtain ⟨seq, reply, spoken⟩ := answered
      exact absurd spoken (silent seq reply)
  | cancelled items unfinished shown =>
      rw [closed] at unfinished
      cases unfinished
  | interrupted ending unfinished =>
      rw [closed] at unfinished
      cases unfinished

/-- The record of a completed job is final. -/
theorem final_of_completed {ok : Engine → Label → Engine → Prop} {later : List Event}
    (before : (engineMachine p).Reaches ok events e)
    (run : Machine.Run (engineMachine p) ok e later e') {job : Job}
    (present : e.store.get jobId = some job) (completed : job.state = .completed) :
    e'.store.get jobId = some job := by
  have all := reachable_finished before present completed
  induction run with
  | refl => exact present
  | tail earlier admissible stepped ih =>
      have ledger := reachable_ledger False (fun _ _ _ _ impossible => impossible.elim)
        (before.trans earlier)
      exact kept_of_completed ledger (step_cases stepped) ih completed all

/-! ### The listing of the jobs -/

private theorem keys_record (f : InFlight) (result : InferenceResult) (cost : ℚ)
    (credited exhausted : Bool) (e : Engine) :
    (e.record f result cost credited exhausted).store.jobs.keys = e.store.jobs.keys := by
  unfold record
  simp only
  split
  · exact InMemoryJobStore.keys_update _ _ _
  · split
    · simp only [refreshGauges_frame, finalize_frame, InMemoryJobStore.keys_update]
    · exact InMemoryJobStore.keys_update _ _ _

private theorem keys_interruptJobs (e : Engine) :
    e.interruptJobs.store.jobs.keys = e.store.jobs.keys := by
  have one : ∀ (e : Engine) (jobId : JobId),
      (e.interruptJob jobId).store.jobs.keys = e.store.jobs.keys := by
    intro e jobId
    unfold interruptJob
    split
    · rfl
    · split
      · simp only [finalize_frame, InMemoryJobStore.keys_update]
      · rfl
  have all : ∀ (jobIds : List JobId) (e : Engine),
      (jobIds.foldl interruptJob e).store.jobs.keys = e.store.jobs.keys := by
    intro jobIds
    induction jobIds with
    | nil => exact fun _ => rfl
    | cons jobId rest ih => exact fun e => (ih _).trans (one e jobId)
  exact all _ e

private theorem keys_work {g : Engine} {task : TaskId} {w : Worker} {action : Action} {loc : Loc}
    (work : WorkStep p e task w action g loc emitted) :
    g.store.jobs.keys = e.store.jobs.keys := by
  cases work with
  | retried f before at_ alone reply jitter seconds settled =>
      exact InMemoryJobStore.keys_update _ _ _
  | recorded f before at_ alone reply jitter result cost credited exhausted settled =>
      exact keys_record f result cost credited exhausted e
  | _ => rfl

/-- Jobs stay in the order in which they came, and new ones come last. -/
theorem keys_of_step (step : Step p e label e' emitted) :
    e.store.jobs.keys <+: e'.store.jobs.keys := by
  have same : e'.store.jobs.keys = e.store.jobs.keys →
      e.store.jobs.keys <+: e'.store.jobs.keys := by
    intro unchanged
    rw [unchanged]
  cases step with
  | submitted label prompts priority key newId requested quiet named fresh =>
      rcases submit_cases p prompts priority key newId e with
        ⟨⟨_, _, unchanged⟩, _⟩ | ⟨_, _, _, _, admitted⟩
      · exact same (by rw [unchanged])
      · rw [admitted, register_store, InMemoryJobStore.keys_create _ _ fresh]
        exact List.prefix_append _ _
  | cancelled jobId job quiet found unfinished =>
      exact same (by simp [cancelOpen])
  | worked task action w g flag loc emitted found lowered work =>
      apply same
      simp only [moveTo_frame]
      exact keys_work work
  | shutdownReturned finished phase => exact same (keys_interruptJobs e)
  | _ => exact same rfl

theorem keys_of_run {ok : Engine → Label → Engine → Prop} {later : List Event}
    (run : Machine.Run (engineMachine p) ok e later e') :
    e.store.jobs.keys <+: e'.store.jobs.keys := by
  refine run.relates (fun e e' => e.store.jobs.keys <+: e'.store.jobs.keys)
    (fun _ => List.prefix_rfl) (fun first second => first.trans second) ?_
  intro _ _ _ _ _ stepped
  exact keys_of_step (step_cases stepped)

end EngineGrowth
end BatchInference
