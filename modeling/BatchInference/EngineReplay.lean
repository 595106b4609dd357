/-
Replaying the failures of a job.

The prompts of a replay are read off the dead letters, which carry the identities that
the items of the source were given at its submission, so the new job gets the failed
items again, in their order and under their identities.
-/

import BatchInference.EngineAdmission

set_option autoImplicit false

namespace BatchInference
namespace EngineReplay

open Engine EngineItems EngineAdmission

variable {p : Params} {events : List Event} {e : Engine} {jobId : JobId} {job : Job}
  {prompts : List PromptItem}

/-! ### The failed items -/

/-- The failed items of a job, in the order of its submission. -/
def failedItems (job : Job) (prompts : List PromptItem) : List WorkItem :=
  (workItems prompts).filter (answeredBy job (fun result => !result.success))

def renumbered (items : List WorkItem) : List WorkItem :=
  items.mapIdx (fun i item => { item with seq := i })

/-! ### The items of the replay -/

theorem promptId_ne_empty (position : Nat) (prompt : PromptItem) :
    promptId position prompt ≠ "" := by
  unfold promptId truthy
  cases prompt.id with
  | none => simp [String.append_eq_empty_iff]
  | some id =>
      by_cases empty : id = ""
      · simp [empty]
      · simp [empty]

/-- A failed result with an identity keeps it when it is submitted again. -/
theorem workItems_replayPrompts (job : Job) (named : ∀ result ∈ job.deadLetter, result.id ≠ "") :
    workItems (replayPrompts job) = job.deadLetter.mapIdx (fun i result =>
      { seq := i
        id := result.id
        prompt := result.prompt }) := by
  unfold workItems replayPrompts
  apply List.ext_getElem
  · simp
  · intro i inside inside'
    rw [List.length_mapIdx] at inside'
    have present := named _ (List.getElem_mem inside')
    simp [promptId, truthy, present]

/-- A replay submits the failed items again, renumbered. -/
theorem replay_items {strict : Prop} {lost : Multiset WorkItem}
    (account : Account strict events e jobId job prompts lost) :
    workItems (replayPrompts job) = renumbered (failedItems job prompts) := by
  have same := account.results_items (fun result => !result.success)
  have named : ∀ result ∈ job.deadLetter, result.id ≠ "" := by
    intro result letter
    have pair : (result.id, result.prompt) ∈
        job.deadLetter.map (fun result => (result.id, result.prompt)) :=
      List.mem_map.mpr ⟨result, letter, rfl⟩
    unfold Job.deadLetter at pair
    rw [same, List.mem_map] at pair
    obtain ⟨item, member, again⟩ := pair
    obtain ⟨i, inside, rfl⟩ := List.getElem_of_mem (List.mem_filter.mp member).1
    have sameId : _ = result.id := congrArg Prod.fst again
    rw [← sameId]
    unfold workItems at inside ⊢
    rw [List.getElem_mapIdx]
    exact promptId_ne_empty i _
  have letters : ∀ (results : List InferenceResult) (items : List WorkItem),
      results.map (fun result => (result.id, result.prompt)) =
          items.map (fun item => (item.id, item.prompt)) →
        results.mapIdx (fun i result =>
          ({ seq := i, id := result.id, prompt := result.prompt } : WorkItem)) =
            renumbered items := by
    intro results items pairs
    have lengths := congrArg List.length pairs
    rw [List.length_map, List.length_map] at lengths
    unfold renumbered
    apply List.ext_getElem
    · rw [List.length_mapIdx, List.length_mapIdx, lengths]
    · intro i inside inside'
      rw [List.length_mapIdx] at inside inside'
      have pair := congrArg (fun pairs => pairs[i]?) pairs
      simp only [List.getElem?_map, List.getElem?_eq_getElem inside,
        List.getElem?_eq_getElem inside', Option.map_some, Option.some.injEq,
        Prod.mk.injEq] at pair
      rw [List.getElem_mapIdx, List.getElem_mapIdx, pair.1, pair.2]
  rw [workItems_replayPrompts job named]
  exact letters _ _ same

/-! ### The replay -/

/-- The job that a replay adds, and that nothing else moves. -/
structure Reruns (job : Job) (prompts : List PromptItem) (chosen : Priority) (newId : JobId)
    (e e' : Engine) : Prop where
  fresh : e.store.get newId = none
  created : ∃ rerun, e'.store.get newId = some rerun ∧ rerun.id = newId ∧
    rerun.idempotencyKey = none ∧ rerun.priority = chosen ∧
    rerun.total = (failedItems job prompts).length
  items : e'.scheduler.itemsOf newId = renumbered (failedItems job prompts)
  queue : ∃ q, e'.scheduler.queues.get? newId = some q ∧ q.weight = priorityWeights chosen
  keys : e'.store.byKey = e.store.byKey
  jobs : ∀ other, other ≠ newId → e'.store.get other = e.store.get other
  queues : ∀ other, other ≠ newId →
    e'.scheduler.queues.get? other = e.scheduler.queues.get? other

/-- Nothing to replay: an unknown job, or one without failures. -/
def NothingFailed (e : Engine) (jobId : JobId) : Prop :=
  ∀ job, e.store.get jobId = some job → job.deadLetter = []

theorem replayFailed_none (nothing : NothingFailed e jobId) (priority : Option Priority)
    (newId : JobId) : e.replayFailed p jobId priority newId = none := by
  unfold replayFailed
  cases found : e.store.get jobId with
  | none => rfl
  | some job =>
      simp only [nothing job found]
      rfl

theorem step_of_nothing (nothing : NothingFailed e jobId) (priority : Option Priority)
    {newId : JobId} (quiet : e.atAwait = true) (named : newId ≠ "")
    (fresh : e.store.get newId = none) :
    (engineMachine p).step e (.replayFailed jobId priority newId) = some (e, []) := by
  change Engine.step p e (.replayFailed jobId priority newId) = _
  simp only [Engine.step, replayFailed_none nothing, guard_of_fresh quiet named fresh, if_true]

theorem replayFailed_some (found : e.store.get jobId = some job) (failures : job.deadLetter ≠ [])
    (priority : Option Priority) (newId : JobId) :
    e.replayFailed p jobId priority newId =
      some (replayPrompts job, priority.getD job.priority,
        (e.submitWithIdempotency p (replayPrompts job) (priority.getD job.priority) none newId).1,
        (e.submitWithIdempotency p (replayPrompts job) (priority.getD job.priority) none
          newId).2) := by
  have some_ : job.deadLetter.isEmpty = false := by simpa using failures
  unfold replayFailed
  simp only [found, some_]
  rfl

theorem reruns_register {strict : Prop} {lost : Multiset WorkItem}
    (account : Account strict events e jobId job prompts lost) (chosen : Priority)
    {newId : JobId} (fresh : e.store.get newId = none) :
    Reruns job prompts chosen newId e (e.register p (replayPrompts job) chosen none newId) := by
  have scheduler : (e.register p (replayPrompts job) chosen none newId).scheduler =
      e.scheduler.addJob newId (workItems (replayPrompts job)) chosen := by
    simp only [register_frame]
  have items := replay_items account
  constructor
  · exact fresh
  · refine ⟨e.admittedJob p (replayPrompts job) chosen none newId, ?_, rfl, rfl, rfl, ?_⟩
    · unfold InMemoryJobStore.get
      rw [register_jobs, if_pos rfl]
    · have count := congrArg List.length items
      rw [length_workItems] at count
      unfold renumbered at count
      rw [List.length_mapIdx] at count
      exact count
  · rw [scheduler, FairScheduler.itemsOf_addJob, if_pos rfl]
    exact items
  · rw [scheduler]
    unfold FairScheduler.addJob
    rw [Dict.get?_set, if_pos rfl]
    exact ⟨_, rfl, rfl⟩
  · rw [register_store]
    rfl
  · intro other different
    unfold InMemoryJobStore.get
    rw [register_jobs, if_neg different]
  · intro other different
    rw [scheduler]
    unfold FairScheduler.addJob
    rw [Dict.get?_set, if_neg different]

/-- A replay without a match among the keys is admitted or refused as overloaded. -/
theorem refused_or_registered (asked : List PromptItem) (chosen : Priority) (newId : JobId) :
    (∃ retryAfter message metrics,
        e.submitWithIdempotency p asked chosen none newId =
          ({ e with metrics := metrics }, .overloaded retryAfter message)) ∨
      e.submitWithIdempotency p asked chosen none newId =
        (e.register p asked chosen none newId, .job newId false) := by
  have answer := submit_answer (p := p) (e := e) asked chosen none newId rfl
  rcases submit_cases p asked chosen none newId e with ⟨⟨_, _, same⟩, notNew⟩ | admitted
  · have closed : ¬Admits p e asked.length :=
      fun admits => notNew newId (answer.admitted.mpr admits)
    obtain ⟨retryAfter, message, refused⟩ := answer.refused closed
    exact Or.inl ⟨retryAfter, message, _, Prod.ext same refused⟩
  · exact Or.inr admitted.2.2.2.2

/-- A replay runs exactly the failed items of its source again, in their order and under
their identities, as a new job without a key; the other jobs and queues stay as they are.
Without failures nothing happens, and a refusal changes neither a job nor a queue. -/
theorem replay_reruns_failures (run : (engineMachine p).Reaches Machine.anyStep events e)
    (quiet : e.atAwait = true) (jobId : JobId) (priority : Option Priority) (newId : JobId)
    (named : newId ≠ "") (fresh : e.store.get newId = none) :
    (NothingFailed e jobId →
        e.replayFailed p jobId priority newId = none ∧
        (engineMachine p).step e (.replayFailed jobId priority newId) = some (e, [])) ∧
      ∀ job, e.store.get jobId = some job → job.deadLetter ≠ [] →
        ∃ prompts e' result, submissionOf jobId events = some prompts ∧
          e.replayFailed p jobId priority newId =
            some (replayPrompts job, priority.getD job.priority, e', result) ∧
          (engineMachine p).step e (.replayFailed jobId priority newId) =
            some (e', [.submitted (replayPrompts job) (priority.getD job.priority) none
              result]) ∧
          ((∃ retryAfter message, result = .overloaded retryAfter message) ∧
              e'.store = e.store ∧ e'.scheduler = e.scheduler ∨
            result = .job newId false ∧
              Reruns job prompts (priority.getD job.priority) newId e e') := by
  constructor
  · intro nothing
    exact ⟨replayFailed_none nothing priority newId,
      step_of_nothing nothing priority quiet named fresh⟩
  · intro job found failures
    have ledger : Ledger False events e :=
      reachable_ledger False (fun _ _ _ _ impossible => impossible.elim) run
    obtain ⟨prompts, lost, account⟩ := ledger.known jobId job found
    refine ⟨prompts, _, _, account.submitted, replayFailed_some found failures priority newId,
      step_of_requests (.replay jobId priority newId job found failures) quiet named fresh, ?_⟩
    rcases refused_or_registered (p := p) (e := e) (replayPrompts job)
        (priority.getD job.priority) newId with
      ⟨retryAfter, message, metrics, refused⟩ | admitted
    · rw [refused]
      exact Or.inl ⟨⟨retryAfter, message, rfl⟩, rfl, rfl⟩
    · rw [admitted]
      exact Or.inr ⟨rfl, reruns_register account _ fresh⟩

/-- The second and the third prompt have no identity of their own. -/
def threePrompts : List PromptItem :=
  [{ id := some "x", prompt := "hello" }, { id := none, prompt := "again" },
    { id := some "", prompt := "last" }]

/-- The first prompt is answered, the second fails and the third is asked. -/
def oneFailed : List Label :=
  [.submit threePrompts .low none "a",
    .work 0 .start, .work 0 .enter, .work 0 .take, .work 0 .gate,
    .work 0 (.reply (.returned "hi") 0), .work 0 .leave,
    .work 0 .enter, .work 0 .take, .work 0 .gate,
    .work 0 (.reply (.raised "bad gateway") 0), .work 0 .leave,
    .work 0 .enter, .work 0 .take, .work 0 .gate, .work 0 .suspend]

/-- The source of the replay has one failure, and there is room for it. -/
def isReplayable (outcome : List Event × Engine) : Bool :=
  outcome.2.atAwait && (outcome.2.store.get "b").isNone &&
    decide (submissionOf "a" outcome.1 = some threePrompts) &&
    (outcome.2.store.get "a").any (fun job =>
      decide (renumbered (failedItems job threePrompts) =
        [{ seq := 0, id := "prompt-2", prompt := "again" }]) && !job.deadLetter.isEmpty) &&
    (outcome.2.replayFailed singleWorker "a" (some .high) "b").any
      (fun answer => decide (answer.2.2.2 = .job "b" false))

/-- While the last prompt is asked, the failed one is replayed under its generated
identity. -/
theorem replay_reruns_failures_generated :
    ∃ events e e', (engineMachine singleWorker).Reaches Machine.anyStep events e ∧
      (∃ emitted, (engineMachine singleWorker).step e
        (.replayFailed "a" (some .high) "b") = some (e', emitted)) ∧
      e'.scheduler.itemsOf "b" = [{ seq := 0, id := "prompt-2", prompt := "again" }] ∧
      e'.store.get "a" = e.store.get "a" := by
  rcases Machine.exists_anyRun_of_exec (engineMachine singleWorker)
      (engineMachine singleWorker).initial oneFailed isReplayable (by decide +kernel) with
    ⟨events, e, run, tested⟩
  unfold isReplayable at tested
  simp only [Bool.and_eq_true, decide_eq_true_eq, Option.isNone_iff_eq_none,
    Option.any_eq_true, Bool.not_eq_true'] at tested
  obtain ⟨⟨⟨⟨quiet, fresh⟩, asked⟩, job, found, items, failures⟩, answer, answered, admitted⟩ :=
    tested
  have nonempty : job.deadLetter ≠ [] := by
    intro empty
    rw [empty] at failures
    cases failures
  obtain ⟨_, reruns⟩ := replay_reruns_failures run quiet "a" (some .high) "b" (by decide) fresh
  obtain ⟨prompts, e', result, submitted, replayed, stepped, outcome⟩ :=
    reruns job found nonempty
  rw [asked, Option.some.injEq] at submitted
  rw [replayed, Option.some.injEq] at answered
  rw [← answered] at admitted
  rcases outcome with ⟨⟨retryAfter, message, refused⟩, _⟩ | ⟨_, rerun⟩
  · rw [refused] at admitted
    cases admitted
  · refine ⟨events, e, e', run, ⟨_, stepped⟩, ?_, rerun.jobs "a" (by decide)⟩
    rw [rerun.items, ← submitted]
    exact items

end EngineReplay
end BatchInference
