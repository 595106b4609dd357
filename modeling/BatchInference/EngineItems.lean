/-
Where the items of a job are.

Every submitted item is queued, in the hands of one worker, recorded as a result
or dropped by the cancellation of its job. The ledger keeps one more place,
`lost`, for what shutdown and misbehaving providers do to items; it stays empty
in strict runs, in which neither happens.
-/

import BatchInference.EngineJobs
import Mathlib.Data.Multiset.Range
import Mathlib.Algebra.Order.Group.Multiset

set_option autoImplicit false

namespace BatchInference
namespace EngineItems

open Engine

/-! ### The places of an item -/

/-- The item in the hands of a worker, if it is one of the job's. -/
def heldBy (jobId : JobId) : Option InFlight → Multiset WorkItem
  | some f => if f.jobId = jobId then {f.item} else 0
  | none => 0

/-- The attempt does not matter for who holds an item. -/
theorem heldBy_asking (jobId : JobId) (loc : Loc) :
    heldBy jobId loc.asking = heldBy jobId loc.flight := by
  cases loc <;> rfl

def held (jobId : JobId) (e : Engine) : Multiset WorkItem :=
  e.workers.total (fun _ w => heldBy jobId w.loc.flight)

def queued (jobId : JobId) (e : Engine) : Multiset WorkItem := e.scheduler.itemsOf jobId

theorem pending_eq_zero_iff {e : Engine} (stored : e.Stored) :
    e.scheduler.pending = 0 ↔ ∀ jobId, queued jobId e = 0 := by
  simp only [queued, Multiset.coe_eq_zero]
  exact stored.queue.pending_eq_zero_iff

/-- The results of a job, read as the items they answer. -/
def recorded (job : Job) : Multiset WorkItem :=
  job.results.total (fun seq result =>
    { { seq := seq, id := result.id, prompt := result.prompt } })

def droppedBy (jobId : JobId) : Event → List WorkItem
  | .cancelled cancelled items => if cancelled = jobId then items else []
  | _ => []

/-- The items that cancelling the job removed from the scheduler. -/
def dropped (jobId : JobId) (events : List Event) : Multiset WorkItem :=
  events.flatMap (droppedBy jobId)

/-- The prompts of an admitted submission under this identity. -/
def submission (jobId : JobId) : Event → Option (List PromptItem)
  | .submitted prompts _ _ (.job created false) => if created = jobId then some prompts else none
  | _ => none

/-- The prompts with which the job was created. -/
def submissionOf (jobId : JobId) (events : List Event) : Option (List PromptItem) :=
  events.findSome? (submission jobId)

/-! ### The ledger -/

/-- The counters of a job agree with its results. -/
structure Counted (job : Job) : Prop where
  completed : job.completed = job.succeeded + job.failed
  results : job.completed = job.results.size
  succeeded : job.succeeded = job.results.count (fun result => result.success)

/-- One job of the store with the prompts it was created with. -/
structure Account (strict : Prop) (events : List Event) (e : Engine) (jobId : JobId) (job : Job)
    (prompts : List PromptItem) (lost : Multiset WorkItem) : Prop where
  submitted : submissionOf jobId events = some prompts
  total : job.total = prompts.length
  items : queued jobId e + held jobId e + recorded job + dropped jobId events + lost =
    ↑(workItems prompts)
  nothingLost : strict → lost = 0
  emptied : strict → job.state = .cancelled → queued jobId e = 0
  undropped : job.state ≠ .cancelled → dropped jobId events = 0
  counted : Counted job

/-- All jobs; and what is not in the store has no items anywhere. -/
structure Ledger (strict : Prop) (events : List Event) (e : Engine) : Prop where
  known : ∀ jobId job, e.store.get jobId = some job →
    ∃ prompts lost, Account strict events e jobId job prompts lost
  unknown : ∀ jobId, e.store.get jobId = none →
    submissionOf jobId events = none ∧ held jobId e = 0 ∧ dropped jobId events = 0

/-! ### Items are numbered -/

theorem map_seq_workItems (prompts : List PromptItem) :
    (workItems prompts).map WorkItem.seq = List.range prompts.length := by
  apply List.ext_getElem
  · simp [workItems]
  · intro i _ _
    simp [workItems]

theorem length_workItems (prompts : List PromptItem) :
    (workItems prompts).length = prompts.length :=
  List.length_mapIdx

theorem workItems_getElem? (prompts : List PromptItem) {item : WorkItem}
    (member : item ∈ workItems prompts) : (workItems prompts)[item.seq]? = some item := by
  rcases List.getElem_of_mem member with ⟨i, inside, same⟩
  have seq : item.seq = i := by
    rw [← same]
    simp [workItems]
  rw [seq, List.getElem?_eq_getElem inside, same]

theorem Account.distinct {strict : Prop} {events : List Event} {e : Engine} {jobId : JobId}
    {job : Job} {prompts : List PromptItem} {lost : Multiset WorkItem}
    (account : Account strict events e jobId job prompts lost) :
    ((queued jobId e + held jobId e + recorded job).map WorkItem.seq).Nodup := by
  have all : ((queued jobId e + held jobId e + recorded job + (dropped jobId events + lost)).map
      WorkItem.seq).Nodup := by
    rw [← add_assoc, account.items, Multiset.map_coe, map_seq_workItems, Multiset.coe_nodup]
    exact List.nodup_range
  rw [Multiset.map_add] at all
  exact Multiset.nodup_of_le (Multiset.le_add_right _ _) all

/-! ### Moving items between the places -/

theorem held_of_workers {e e' : Engine} (workers : e'.workers = e.workers) (jobId : JobId) :
    held jobId e' = held jobId e := by
  unfold held
  rw [workers]

theorem mem_held {e : Engine} {task : TaskId} {w : Worker} {f : InFlight}
    (found : e.workers.get? task = some w) (holds : w.loc.flight = some f) :
    f.item ∈ held f.jobId e := by
  unfold held
  rw [Dict.mem_total]
  refine ⟨task, w, found, ?_⟩
  rw [holds, heldBy, if_pos rfl]
  exact Multiset.mem_singleton_self _

theorem Ledger.job_of_held {strict : Prop} {events : List Event} {e : Engine}
    (ledger : Ledger strict events e) {jobId : JobId} {item : WorkItem}
    (isHeld : item ∈ held jobId e) : ∃ job, e.store.get jobId = some job := by
  cases found : e.store.get jobId with
  | some job => exact ⟨job, rfl⟩
  | none =>
      rw [(ledger.unknown jobId found).2.1] at isHeld
      exact (Multiset.notMem_zero _ isHeld).elim

theorem held_moveTo {e g : Engine} {task : TaskId} {w : Worker} (flag : Bool) (loc : Loc)
    (workers : g.workers = e.workers) (found : e.workers.get? task = some w) (jobId : JobId) :
    held jobId (g.moveTo task
        { w with cancelRequested := flag } loc) + heldBy jobId w.loc.flight =
      held jobId e + heldBy jobId loc.flight := by
  unfold held moveTo
  rw [workers]
  exact Dict.total_set_of_get?_some (fun _ w => heldBy jobId w.loc.flight) e.workers _ found

/-- New tasks hold nothing, and nothing is forgotten with finished ones. -/
theorem held_register (p : Params) (prompts : List PromptItem) (priority : Priority)
    (key : Option String) (newId : JobId) {e : Engine} (numbered : e.TasksNumbered)
    (jobId : JobId) : held jobId (e.register p prompts priority key newId) = held jobId e :=
  total_register (fun loc => heldBy jobId loc.flight) rfl rfl p prompts priority key newId e
    numbered

/-! ### Events -/

theorem dropped_append (jobId : JobId) (events emitted : List Event) :
    dropped jobId (events ++ emitted) = dropped jobId events + dropped jobId emitted := by
  unfold dropped
  rw [List.flatMap_append, Multiset.coe_add]

theorem submissionOf_append {jobId : JobId} {events : List Event} {prompts : List PromptItem}
    (found : submissionOf jobId events = some prompts) (emitted : List Event) :
    submissionOf jobId (events ++ emitted) = some prompts := by
  unfold submissionOf at found ⊢
  rw [List.findSome?_append, found]
  rfl

/-- The events say nothing about where items are. -/
def Silent (emitted : List Event) : Prop :=
  ∀ event ∈ emitted, ∀ jobId, submission jobId event = none ∧ droppedBy jobId event = []

theorem Silent.dropped {emitted : List Event} (silent : Silent emitted) (jobId : JobId) :
    dropped jobId emitted = 0 := by
  unfold EngineItems.dropped
  rw [List.flatMap_eq_nil_iff.mpr (fun event member => (silent event member jobId).2)]
  rfl

theorem Silent.submissionOf {emitted : List Event} (silent : Silent emitted) (jobId : JobId) :
    submissionOf jobId emitted = none := by
  unfold EngineItems.submissionOf
  exact List.findSome?_eq_none_iff.mpr (fun event member => (silent event member jobId).1)

theorem silent_nil : Silent [] := fun _ member => by cases member

/-! ### Steps that record nothing -/

/-- The two versions of a job have the same results and counters. -/
structure SameWork (job job' : Job) : Prop where
  total : job'.total = job.total
  completed : job'.completed = job.completed
  succeeded : job'.succeeded = job.succeeded
  failed : job'.failed = job.failed
  results : job'.results = job.results

theorem SameWork.refl (job : Job) : SameWork job job := ⟨rfl, rfl, rfl, rfl, rfl⟩

theorem SameWork.trans {a b c : Job} (first : SameWork a b) (second : SameWork b c) :
    SameWork a c :=
  ⟨second.total.trans first.total, second.completed.trans first.completed,
    second.succeeded.trans first.succeeded, second.failed.trans first.failed,
    second.results.trans first.results⟩

theorem SameWork.counted {job job' : Job} (same : SameWork job job') (counted : Counted job) :
    Counted job' where
  completed := by rw [same.completed, same.succeeded, same.failed, counted.completed]
  results := by rw [same.completed, same.results, counted.results]
  succeeded := by rw [same.succeeded, same.results, counted.succeeded]

theorem SameWork.recorded {job job' : Job} (same : SameWork job job') :
    recorded job' = recorded job := by
  unfold EngineItems.recorded
  rw [same.results]

/-- Items may move between queue and workers, or be lost, while jobs keep their
results. -/
theorem Ledger.moved {strict : Prop} {events emitted : List Event} {e e' : Engine}
    (ledger : Ledger strict events e) (stored : e.Stored) (silent : Silent emitted)
    (jobs : ∀ jobId job', e'.store.get jobId = some job' →
      ∃ job, e.store.get jobId = some job ∧ SameWork job job' ∧
        (job'.state ≠ .cancelled → job.state ≠ .cancelled))
    (known : ∀ jobId, e'.store.get jobId = none → e.store.get jobId = none)
    (flow : ∀ jobId, ∃ gone, queued jobId e' + held jobId e' + gone =
        queued jobId e + held jobId e ∧
      (strict → (e.store.get jobId).isSome = true → gone = 0))
    (emptied : strict → ∀ jobId job', e'.store.get jobId = some job' →
      job'.state = .cancelled → queued jobId e' = 0) :
    Ledger strict (events ++ emitted) e' where
  known := by
    intro jobId job' found'
    rcases jobs jobId job' found' with ⟨job, found, same, alive⟩
    rcases ledger.known jobId job found with ⟨prompts, lost, account⟩
    rcases flow jobId with ⟨gone, balance, kept⟩
    refine ⟨prompts, lost + gone, ?_⟩
    exact
      { submitted := submissionOf_append account.submitted emitted
        total := same.total.trans account.total
        items := by
          rw [dropped_append, silent.dropped, add_zero, same.recorded, ← account.items, ← balance]
          abel
        nothingLost := by
          intro isStrict
          rw [account.nothingLost isStrict, kept isStrict (by rw [found]; rfl), add_zero]
        emptied := fun isStrict => emptied isStrict jobId job' found'
        undropped := by
          intro open_
          rw [dropped_append, silent.dropped, add_zero]
          exact account.undropped (alive open_)
        counted := same.counted account.counted }
  unknown := by
    intro jobId missing
    have before := known jobId missing
    rcases ledger.unknown jobId before with ⟨unsubmitted, nothingHeld, nothingDropped⟩
    have unqueued : queued jobId e = 0 := by
      unfold queued FairScheduler.itemsOf FairScheduler.queuedItems
      cases read : e.scheduler.queues.get? jobId with
      | none => rfl
      | some q =>
          have isSome := stored.known jobId q read
          unfold InMemoryJobStore.get at before
          rw [before] at isSome
          cases isSome
    rcases flow jobId with ⟨gone, balance, _⟩
    rw [unqueued, nothingHeld, zero_add] at balance
    refine ⟨?_, ?_, ?_⟩
    · unfold submissionOf at unsubmitted ⊢
      rw [List.findSome?_append, unsubmitted]
      exact silent.submissionOf jobId
    · have part : held jobId e' ≤ queued jobId e' + held jobId e' + gone :=
        (Multiset.le_add_left _ _).trans (Multiset.le_add_right _ _)
      rw [balance] at part
      exact Multiset.le_zero.mp part
    · rw [dropped_append, nothingDropped, silent.dropped, add_zero]

/-! ### Results -/

theorem settle_record {s : Settings} {item : WorkItem} {attempt : Nat} {jitter cost : ℚ}
    {reply : Reply} {result : InferenceResult} {credited exhausted : Bool}
    (settled : settle s item attempt jitter reply = .record result cost credited exhausted) :
    result.id = item.id ∧ result.prompt = item.prompt := by
  have cases_ := settles s item attempt jitter reply
  rw [settled] at cases_
  cases cases_ with
  | succeeded reply result answers id prompt success attempts price => exact ⟨id, prompt⟩
  | failed reply error credited unanswered printable uncancelled overflow => exact ⟨rfl, rfl⟩
  | exhausted retryAfter spent => exact ⟨rfl, rfl⟩

theorem advance_fields (seq : Nat) (result : InferenceResult) (cost now : ℚ) (job : Job) :
    (job.advance seq result cost now).total = job.total ∧
      (job.advance seq result cost now).completed = job.completed + 1 ∧
      (job.advance seq result cost now).succeeded =
        job.succeeded + (if result.success then 1 else 0) ∧
      (job.advance seq result cost now).failed =
        job.failed + (if result.success then 0 else 1) ∧
      (job.advance seq result cost now).results = job.results.set seq result ∧
      (job.advance seq result cost now).retries = job.retries ∧
      (job.advance seq result cost now).inputTokens =
        job.inputTokens + (if result.success then result.inputTokens else 0) ∧
      (job.advance seq result cost now).outputTokens =
        job.outputTokens + (if result.success then result.outputTokens else 0) := by
  unfold Job.advance Job.record
  simp only
  cases result.success with
  | true =>
      simp only [if_true]
      split
      · simp [Job.finish]
      · simp
  | false =>
      simp only [Bool.false_eq_true, if_false]
      split
      · simp [Job.finish]
      · simp

theorem advance_state (seq : Nat) (result : InferenceResult) (cost now : ℚ) (job : Job) :
    (job.advance seq result cost now).state =
      if job.total ≤ job.completed + 1 ∧ job.state = .running then .completed else job.state := by
  unfold Job.advance Job.record
  simp only
  cases result.success with
  | true =>
      simp only [if_true]
      split
      · rfl
      · rfl
  | false =>
      simp only [Bool.false_eq_true, if_false]
      split
      · rfl
      · rfl

theorem counted_advance {seq : Nat} {result : InferenceResult} {cost now : ℚ} {job : Job}
    (counted : Counted job) (absent : job.results.get? seq = none) :
    Counted (job.advance seq result cost now) := by
  rcases advance_fields seq result cost now job with
    ⟨_, completed, succeeded, failed, results, _, _, _⟩
  constructor
  · rw [completed, succeeded, failed, counted.completed]
    cases result.success <;> simp <;> omega
  · rw [completed, results, counted.results]
    unfold Dict.size
    rw [job.results.entries_set_of_get?_none result absent]
    simp
  · rw [succeeded, results, counted.succeeded]
    exact (Dict.count_set_of_get?_none _ _ _ absent).symm

theorem Account.unrecorded {strict : Prop} {events : List Event} {e : Engine} {jobId : JobId}
    {job : Job} {prompts : List PromptItem} {lost : Multiset WorkItem}
    (account : Account strict events e jobId job prompts lost) {item : WorkItem}
    (holds : item ∈ held jobId e) : job.results.get? item.seq = none := by
  cases read : job.results.get? item.seq with
  | none => rfl
  | some result =>
      have twice : item.seq ∈ (recorded job).map WorkItem.seq := by
        rw [Multiset.mem_map]
        refine ⟨{ seq := item.seq, id := result.id, prompt := result.prompt }, ?_, rfl⟩
        unfold recorded
        rw [Dict.mem_total]
        exact ⟨item.seq, result, read, Multiset.mem_singleton_self _⟩
      have distinct := account.distinct
      rw [Multiset.map_add, Multiset.map_add] at distinct
      have apart := Multiset.disjoint_of_nodup_add distinct
      have once : item.seq ∈ (queued jobId e).map WorkItem.seq + (held jobId e).map WorkItem.seq :=
        Multiset.mem_add.mpr (Or.inr (Multiset.mem_map_of_mem _ holds))
      exact (Multiset.disjoint_left.mp apart once twice).elim

theorem recorded_advance {seq : Nat} {result : InferenceResult} {cost now : ℚ} {job : Job}
    (absent : job.results.get? seq = none) :
    recorded (job.advance seq result cost now) =
      recorded job + { { seq := seq, id := result.id, prompt := result.prompt } } := by
  unfold recorded
  rw [(advance_fields seq result cost now job).2.2.2.2.1]
  exact Dict.total_set_of_get?_none _ _ _ absent

theorem cancelled_advance {seq : Nat} {result : InferenceResult} {cost now : ℚ} {job : Job} :
    (job.advance seq result cost now).state = .cancelled ↔ job.state = .cancelled := by
  rw [advance_state]
  split
  · rename_i last
    rw [last.2]
    simp
  · rfl

/-- Recording a result moves the item from the worker to the results. -/
theorem Ledger.advanced {strict : Prop} {events emitted : List Event} {e e' : Engine}
    (ledger : Ledger strict events e) (silent : Silent emitted) {f : InFlight}
    {result : InferenceResult} {cost : ℚ} (sameId : result.id = f.item.id)
    (samePrompt : result.prompt = f.item.prompt) (scheduler : e'.scheduler = e.scheduler)
    (jobs : ∀ jobId, e'.store.get jobId = if jobId = f.jobId then
      (e.store.get jobId).map (Job.advance f.item.seq result cost e.wallTime)
      else e.store.get jobId)
    (flow : ∀ jobId, held jobId e' + heldBy jobId (some f) = held jobId e) :
    Ledger strict (events ++ emitted) e' where
  known := by
    intro jobId job' found'
    have sameQueue : queued jobId e' = queued jobId e := by
      unfold queued
      rw [scheduler]
    have balance := flow jobId
    rw [jobs jobId] at found'
    by_cases mine : jobId = f.jobId
    · rw [if_pos mine, Option.map_eq_some_iff] at found'
      rcases found' with ⟨job, found, rfl⟩
      rcases ledger.known jobId job found with ⟨prompts, lost, account⟩
      simp only [heldBy, if_pos mine.symm] at balance
      have holds : f.item ∈ held jobId e := by
        rw [← balance]
        exact Multiset.mem_add.mpr (Or.inr (Multiset.mem_singleton_self _))
      have absent := account.unrecorded holds
      have answered : ({ seq := f.item.seq, id := result.id, prompt := result.prompt } : WorkItem) =
          f.item := by
        rw [sameId, samePrompt]
      refine ⟨prompts, lost, ?_⟩
      exact
        { submitted := submissionOf_append account.submitted emitted
          total := (advance_fields _ _ _ _ _).1.trans account.total
          items := by
            rw [dropped_append, silent.dropped, add_zero, sameQueue, recorded_advance absent,
              answered, ← account.items, ← balance]
            abel
          nothingLost := account.nothingLost
          emptied := by
            intro isStrict gone
            rw [sameQueue]
            exact account.emptied isStrict (cancelled_advance.mp gone)
          undropped := by
            intro open_
            rw [dropped_append, silent.dropped, add_zero]
            exact account.undropped (fun gone => open_ (cancelled_advance.mpr gone))
          counted := counted_advance account.counted absent }
    · rw [if_neg mine] at found'
      rcases ledger.known jobId job' found' with ⟨prompts, lost, account⟩
      simp only [heldBy, if_neg (Ne.symm mine), add_zero] at balance
      refine ⟨prompts, lost, ?_⟩
      exact
        { submitted := submissionOf_append account.submitted emitted
          total := account.total
          items := by
            rw [dropped_append, silent.dropped, add_zero, sameQueue, balance, account.items]
          nothingLost := account.nothingLost
          emptied := by
            rw [sameQueue]
            exact account.emptied
          undropped := by
            rw [dropped_append, silent.dropped, add_zero]
            exact account.undropped
          counted := account.counted }
  unknown := by
    intro jobId missing
    have before : e.store.get jobId = none := by
      rw [jobs jobId] at missing
      split at missing
      · exact Option.map_eq_none_iff.mp missing
      · exact missing
    rcases ledger.unknown jobId before with ⟨unsubmitted, nothingHeld, nothingDropped⟩
    have balance := flow jobId
    refine ⟨?_, ?_, ?_⟩
    · unfold submissionOf at unsubmitted ⊢
      rw [List.findSome?_append, unsubmitted]
      exact silent.submissionOf jobId
    · have part : held jobId e' ≤ held jobId e' + heldBy jobId (some f) :=
        Multiset.le_add_right _ _
      rw [balance, nothingHeld] at part
      exact Multiset.le_zero.mp part
    · rw [dropped_append, nothingDropped, silent.dropped, add_zero]

/-! ### Requests -/

/-- A new job has all its items in the queue. -/
theorem Ledger.admitted {strict : Prop} {events : List Event} {e : Engine} (p : Params)
    (ledger : Ledger strict events e) (loop : e.EventLoop) (prompts : List PromptItem)
    (priority : Priority) (key : Option String) (newId : JobId)
    (fresh : e.store.jobs.get? newId = none) :
    Ledger strict (events ++ [.submitted prompts priority key (.job newId false)])
      (e.register p prompts priority key newId) := by
  have heldSame := held_register p prompts priority key newId loop.numbered
  have queue : ∀ jobId, queued jobId (e.register p prompts priority key newId) =
      if jobId = newId then ↑(workItems prompts) else queued jobId e := by
    intro jobId
    unfold queued
    simp only [register_frame, FairScheduler.itemsOf_addJob]
    split <;> rfl
  have noDrop : ∀ jobId, dropped jobId [Event.submitted prompts priority key (.job newId false)] =
      0 := fun _ => rfl
  have submittedOther : ∀ jobId, jobId ≠ newId →
      submissionOf jobId [Event.submitted prompts priority key (.job newId false)] = none := by
    intro jobId other
    simp [submissionOf, submission, Ne.symm other]
  have jobs : ∀ jobId, (e.register p prompts priority key newId).store.get jobId =
      if jobId = newId then some (e.admittedJob p prompts priority key newId)
      else e.store.get jobId := register_jobs p prompts priority key newId e
  rcases ledger.unknown newId fresh with ⟨unsubmitted, nothingHeld, nothingDropped⟩
  constructor
  · intro jobId job' found'
    rw [jobs jobId] at found'
    by_cases mine : jobId = newId
    · rw [if_pos mine, Option.some.injEq] at found'
      subst mine found'
      refine ⟨prompts, 0, ?_⟩
      exact
        { submitted := by
            unfold submissionOf at unsubmitted ⊢
            rw [List.findSome?_append, unsubmitted]
            simp [submission]
          total := rfl
          items := by
            rw [queue, if_pos rfl, heldSame, nothingHeld, dropped_append, nothingDropped, noDrop]
            simp [recorded, admittedJob]
          nothingLost := fun _ => rfl
          emptied := fun _ gone => by cases gone
          undropped := fun _ => by rw [dropped_append, nothingDropped, noDrop, add_zero]
          counted := ⟨rfl, rfl, rfl⟩ }
    · rw [if_neg mine] at found'
      rcases ledger.known jobId job' found' with ⟨prompts', lost, account⟩
      refine ⟨prompts', lost, ?_⟩
      exact
        { submitted := submissionOf_append account.submitted _
          total := account.total
          items := by
            rw [queue, if_neg mine, heldSame, dropped_append, noDrop, add_zero, account.items]
          nothingLost := account.nothingLost
          emptied := by
            rw [queue, if_neg mine]
            exact account.emptied
          undropped := by
            rw [dropped_append, noDrop, add_zero]
            exact account.undropped
          counted := account.counted }
  · intro jobId missing
    rw [jobs jobId] at missing
    by_cases mine : jobId = newId
    · rw [if_pos mine] at missing
      cases missing
    · rw [if_neg mine] at missing
      rcases ledger.unknown jobId missing with ⟨unsubmitted', nothingHeld', nothingDropped'⟩
      refine ⟨?_, ?_, ?_⟩
      · unfold submissionOf at unsubmitted' ⊢
        rw [List.findSome?_append, unsubmitted']
        exact submittedOther jobId mine
      · rw [heldSame, nothingHeld']
      · rw [dropped_append, nothingDropped', noDrop, add_zero]

theorem Ledger.cancelled {strict : Prop} {events : List Event} {e : Engine}
    (ledger : Ledger strict events e) {cancelledId : JobId} {cancelledJob : Job}
    (present : e.store.get cancelledId = some cancelledJob)
    (unfinished : isOpen cancelledJob.state = true) :
    Ledger strict (events ++ [.cancelled cancelledId (e.scheduler.itemsOf cancelledId)])
      (e.cancelOpen cancelledId) := by
  have heldSame : ∀ jobId, held jobId (e.cancelOpen cancelledId) = held jobId e :=
    fun jobId => held_of_workers (cancelOpen_frame cancelledId e).2.2.2.2.2.1 jobId
  have queue : ∀ jobId, queued jobId (e.cancelOpen cancelledId) =
      if jobId = cancelledId then 0 else queued jobId e := by
    intro jobId
    unfold queued
    simp only [cancelOpen_frame, FairScheduler.itemsOf_removeJob]
    split <;> rfl
  have drop : ∀ jobId, dropped jobId
      [Event.cancelled cancelledId (e.scheduler.itemsOf cancelledId)] =
        if jobId = cancelledId then queued jobId e else 0 := by
    intro jobId
    unfold dropped queued
    by_cases mine : jobId = cancelledId
    · simp [droppedBy, mine]
    · simp [droppedBy, mine, Ne.symm mine]
  have unsubmittedHere : ∀ jobId, submissionOf jobId
      [Event.cancelled cancelledId (e.scheduler.itemsOf cancelledId)] = none := fun _ => rfl
  have jobs : ∀ jobId, (e.cancelOpen cancelledId).store.get jobId = if jobId = cancelledId then
      (e.store.get cancelledId).map (Job.finish .cancelled e.wallTime)
      else e.store.get jobId := by
    intro jobId
    unfold InMemoryJobStore.get
    simp only [cancelOpen_frame, InMemoryJobStore.get?_update]
  have open_ : cancelledJob.state ≠ .cancelled := by
    intro gone
    rw [gone] at unfinished
    cases unfinished
  constructor
  · intro jobId job' found'
    rw [jobs jobId] at found'
    by_cases mine : jobId = cancelledId
    · subst mine
      rw [if_pos rfl, present, Option.map_some, Option.some.injEq] at found'
      subst found'
      rcases ledger.known jobId cancelledJob present with ⟨prompts, lost, account⟩
      refine ⟨prompts, lost, ?_⟩
      exact
        { submitted := submissionOf_append account.submitted _
          total := account.total
          items := by
            rw [queue, if_pos rfl, heldSame, dropped_append, drop, if_pos rfl, ← account.items]
            change 0 + held jobId e + recorded cancelledJob + _ + lost = _
            abel
          nothingLost := account.nothingLost
          emptied := fun _ _ => by rw [queue, if_pos rfl]
          undropped := fun alive => (alive rfl).elim
          counted := ⟨account.counted.completed, account.counted.results,
            account.counted.succeeded⟩ }
    · rw [if_neg mine] at found'
      rcases ledger.known jobId job' found' with ⟨prompts, lost, account⟩
      refine ⟨prompts, lost, ?_⟩
      exact
        { submitted := submissionOf_append account.submitted _
          total := account.total
          items := by
            rw [queue, if_neg mine, heldSame, dropped_append, drop, if_neg mine, add_zero,
              account.items]
          nothingLost := account.nothingLost
          emptied := by
            rw [queue, if_neg mine]
            exact account.emptied
          undropped := by
            rw [dropped_append, drop, if_neg mine, add_zero]
            exact account.undropped
          counted := account.counted }
  · intro jobId missing
    rw [jobs jobId] at missing
    by_cases mine : jobId = cancelledId
    · rw [if_pos mine, present] at missing
      cases missing
    · rw [if_neg mine] at missing
      rcases ledger.unknown jobId missing with ⟨unsubmitted, nothingHeld, nothingDropped⟩
      refine ⟨?_, ?_, ?_⟩
      · unfold submissionOf at unsubmitted ⊢
        rw [List.findSome?_append, unsubmitted]
        exact unsubmittedHere jobId
      · rw [heldSame, nothingHeld]
      · rw [dropped_append, nothingDropped, drop, if_neg mine, add_zero]

/-! ### Steps -/

/-- The provider returns, answers 429 or raises an exception that can be printed. -/
def WellBehaved : Label → Prop
  | .work _ (.reply .returnedUnprintable _) => False
  | .work _ (.reply .raisedUnprintable _) => False
  | .work _ (.reply .cancelled _) => False
  | _ => True

/-- Only unprintable exceptions and cancellations make the worker forget an item. -/
theorem wellBehaved_of_settle {s : Settings} {item : WorkItem} {attempt : Nat} {jitter : ℚ}
    {reply : Reply} {task : TaskId} {action : Action} (isReply : action = .reply reply jitter)
    (settled : (∃ credited, settle s item attempt jitter reply = .lost credited) ∨
      settle s item attempt jitter reply = .cancelled) :
    ¬WellBehaved (.work task action) := by
  subst isReply
  have cases_ := settles s item attempt jitter reply
  rcases settled with ⟨credited, settled⟩ | settled
  · rw [settled] at cases_
    cases cases_ with
    | lost reply credited unprintable =>
        cases reply with
        | returnedUnprintable => exact id
        | raisedUnprintable => exact id
        | _ => exact unprintable.elim
  · rw [settled] at cases_
    cases cases_ with
    | cancelled => exact id

/-- Calls and replies of the provider do not say where items are. -/
private theorem silent_replied (jobId : JobId) (seq : Nat) (reply : Reply) :
    Silent [.replied jobId seq reply] := by
  intro event member jobId
  rw [List.mem_singleton] at member
  rw [member]
  exact ⟨rfl, rfl⟩

/-- The queues after `pop`, for the job that is served and for the others. -/
theorem queued_pop {e g : Engine} (stored : e.Stored) {served : JobId}
    {item : WorkItem} (popped : e.scheduler.pop = (g.scheduler, some (served, item)))
    (jobId : JobId) :
    queued jobId g + (if jobId = served then {item} else 0) = queued jobId e := by
  rcases e.scheduler.pop_some_spec g.scheduler stored.queue served item popped with
    ⟨head, others, _, _⟩
  unfold queued
  by_cases mine : jobId = served
  · rw [if_pos mine, mine, head, ← Multiset.cons_coe, ← Multiset.singleton_add, add_comm]
  · rw [if_neg mine, add_zero, others jobId mine]

/-- Worker code only takes items out of the queues. -/
theorem queued_le {p : Params} {e g : Engine} {action : Action} {source target : Option InFlight}
    {emitted : List Event} (stored : e.Stored)
    (step : ItemStep p e g action source target emitted) (jobId : JobId) :
    queued jobId g ≤ queued jobId e := by
  rcases step.scheduler with same | ⟨served, popped⟩
  · unfold queued
    rw [same]
  · cases served with
    | none =>
        rcases e.scheduler.pop_none_spec g.scheduler stored.queue popped with ⟨_, _, emptied⟩
        unfold queued
        rw [emptied]
        exact Multiset.zero_le _
    | some served => exact queued_pop stored popped jobId ▸ Multiset.le_add_right _ _

/-- Nothing enters the queue of a job of the store. -/
theorem queued_shrinks {p : Params} {e e' : Engine} {label : Label} {emitted : List Event}
    (stored : e.Stored) (step : Step p e label e' emitted) {jobId : JobId} {job : Job}
    (found : e.store.get jobId = some job) : queued jobId e' ≤ queued jobId e := by
  cases step with
  | submitted label prompts priority key newId requested quiet named fresh =>
      rcases submit_cases p prompts priority key newId e with ⟨⟨_, _, same⟩, _⟩ | admitted
      · rw [same]
        exact le_refl _
      · have other : jobId ≠ newId := by
          rintro rfl
          exact Option.some_ne_none job (found.symm.trans fresh)
        rw [admitted.2.2.2.2]
        unfold queued
        simp only [register_frame]
        rw [FairScheduler.itemsOf_addJob, if_neg other]
  | cancelled cancelledId old quiet known unfinished =>
      unfold queued
      rw [(cancelOpen_frame cancelledId e).2.1, FairScheduler.itemsOf_removeJob]
      split
      · exact Multiset.zero_le _
      · exact le_refl _
  | worked task action w g flag loc emitted known lowered work =>
      exact queued_le stored (itemStep work) jobId
  | shutdownReturned ended phase =>
      unfold queued
      rw [(interruptJobs_keeps e).1]
  | _ => exact le_refl _

private theorem ledger_moved_items {strict : Prop} {events emitted : List Event} {e e' : Engine}
    (ledger : Ledger strict events e) (stored : e.Stored) (silent : Silent emitted)
    (store : e'.store = e.store) (shrinks : ∀ jobId, queued jobId e' ≤ queued jobId e)
    (flow : ∀ jobId, ∃ gone, queued jobId e' + held jobId e' + gone =
        queued jobId e + held jobId e ∧
      (strict → (e.store.get jobId).isSome = true → gone = 0)) :
    Ledger strict (events ++ emitted) e' := by
  refine ledger.moved stored silent ?_ (fun _ missing => store ▸ missing) flow ?_
  · intro jobId job' read
    rw [store] at read
    exact ⟨job', read, SameWork.refl job', id⟩
  · intro isStrict jobId job' read gone
    rw [store] at read
    rcases ledger.known jobId job' read with ⟨_, _, account⟩
    have part := shrinks jobId
    rw [account.emptied isStrict gone] at part
    exact Multiset.le_zero.mp part

private theorem ledger_retried {strict : Prop} {events emitted : List Event} {e e' : Engine}
    (ledger : Ledger strict events e) (stored : e.Stored) (silent : Silent emitted)
    (served : JobId) (store : e'.store = e.store.update served Job.retried)
    (sameQueue : ∀ jobId, queued jobId e' = queued jobId e)
    (sameHeld : ∀ jobId, held jobId e' = held jobId e) : Ledger strict (events ++ emitted) e' := by
  have jobs : ∀ jobId job', e'.store.get jobId = some job' →
      ∃ job, e.store.get jobId = some job ∧ SameWork job job' ∧ job'.state = job.state := by
    intro jobId job' read
    rw [store] at read
    unfold InMemoryJobStore.get at read
    rw [InMemoryJobStore.get?_update] at read
    by_cases mine : jobId = served
    · rw [if_pos mine, Option.map_eq_some_iff] at read
      rcases read with ⟨job, found, rfl⟩
      exact ⟨job, mine ▸ found, ⟨rfl, rfl, rfl, rfl, rfl⟩, rfl⟩
    · rw [if_neg mine] at read
      exact ⟨job', read, SameWork.refl job', rfl⟩
  refine ledger.moved stored silent ?_ ?_ ?_ ?_
  · intro jobId job' read
    rcases jobs jobId job' read with ⟨job, found, same, state⟩
    exact ⟨job, found, same, fun alive => state ▸ alive⟩
  · intro jobId missing
    rw [store] at missing
    unfold InMemoryJobStore.get at missing ⊢
    rw [InMemoryJobStore.get?_update] at missing
    by_cases mine : jobId = served
    · rw [if_pos mine] at missing
      exact mine ▸ Option.map_eq_none_iff.mp missing
    · rw [if_neg mine] at missing
      exact missing
  · intro jobId
    exact ⟨0, by rw [add_zero, sameQueue, sameHeld], fun _ _ => rfl⟩
  · intro isStrict jobId job' read gone
    rcases jobs jobId job' read with ⟨job, found, _, state⟩
    rcases ledger.known jobId job found with ⟨_, _, account⟩
    rw [sameQueue]
    exact account.emptied isStrict (state ▸ gone)

private theorem ledger_worked {strict : Prop} {p : Params} {events emitted : List Event}
    {e g : Engine} {task : TaskId} {w : Worker} {action : Action} {loc : Loc} (flag : Bool)
    (ledger : Ledger strict events e) (stored : e.Stored)
    (allowed : strict → Serves (.work task action) ∧ WellBehaved (.work task action))
    (found : e.workers.get? task = some w)
    (work : WorkStep p e task w action g loc emitted) :
    Ledger strict (events ++ emitted) (g.moveTo task
      { w with cancelRequested := flag } loc) := by
  have flow := held_moveTo flag loc work.workers.1 found
  simp only [← heldBy_asking] at flow
  have item := itemStep work
  have shrinks := queued_le stored item
  generalize w.loc.asking = source at item flow
  generalize loc.asking = target at item flow
  have sameQueue : g.scheduler = e.scheduler → ∀ jobId, queued jobId g = queued jobId e := by
    intro same jobId
    unfold queued
    rw [same]
  cases item with
  | carry held emitted scheduler store silent =>
      have quiet : Silent emitted := by
        intro event member jobId
        rcases silent event member with ⟨_, _, _, rfl⟩
        exact ⟨rfl, rfl⟩
      refine ledger_moved_items ledger stored quiet store shrinks ?_
      intro jobId
      refine ⟨0, ?_, fun _ _ => rfl⟩
      rw [add_zero]
      change queued jobId g + _ = _
      rw [sameQueue scheduler, add_right_cancel (flow jobId)]
  | drained popped store =>
      rcases e.scheduler.pop_none_spec g.scheduler stored.queue popped with ⟨_, empty, emptied⟩
      have nothing : ∀ jobId, queued jobId g = queued jobId e := by
        intro jobId
        unfold queued
        rw [empty jobId, emptied]
        rfl
      refine ledger_moved_items ledger stored silent_nil store shrinks ?_
      intro jobId
      refine ⟨0, ?_, fun _ _ => rfl⟩
      rw [add_zero]
      change queued jobId g + _ = _
      rw [nothing, add_right_cancel (flow jobId)]
  | skipped served item popped store gone =>
      have queue := queued_pop stored popped
      refine ledger_moved_items ledger stored silent_nil store shrinks ?_
      intro jobId
      refine ⟨if jobId = served then {item} else 0, ?_, ?_⟩
      · change queued jobId g + _ + _ = _
        rw [← queue jobId, add_right_cancel (flow jobId)]
        abel
      · -- A cancelled job has no queued items, so nothing of it can be popped.
        intro isStrict present
        rcases Option.isSome_iff_exists.mp present with ⟨job, read⟩
        by_cases mine : jobId = served
        · rcases ledger.known jobId job read with ⟨_, _, account⟩
          have none := account.emptied isStrict (gone job (mine ▸ read))
          have part : (if jobId = served then ({item} : Multiset WorkItem) else 0) ≤
              queued jobId e := queue jobId ▸ Multiset.le_add_left _ _
          rw [none] at part
          exact Multiset.le_zero.mp part
        · rw [if_neg mine]
  | taken f job popped store read alive first =>
      have queue := queued_pop stored popped
      refine ledger_moved_items ledger stored silent_nil store shrinks ?_
      intro jobId
      refine ⟨0, ?_, fun _ _ => rfl⟩
      have balance := flow jobId
      simp only [heldBy, add_zero, @eq_comm _ f.jobId jobId] at balance
      change queued jobId g + _ + _ = _
      rw [← queue jobId, balance]
      abel
  | retried f reply jitter seconds isReply scheduler store settled =>
      exact ledger_retried ledger stored (silent_replied _ _ _) f.jobId store
        (sameQueue scheduler) (fun jobId => add_right_cancel (flow jobId))
  | recorded f reply jitter result cost credited exhausted isReply scheduler store settled =>
      rcases settle_record settled with ⟨sameId, samePrompt⟩
      have jobs : ∀ jobId, g.store.get jobId = if jobId = f.jobId then
          (e.store.get jobId).map (Job.advance f.item.seq result cost e.wallTime)
          else e.store.get jobId := by
        intro jobId
        rw [store]
        exact (record_jobs f result cost credited exhausted e).2 jobId
      refine ledger.advanced (silent_replied _ _ _) sameId samePrompt scheduler jobs ?_
      intro jobId
      have balance := flow jobId
      simp only [heldBy, add_zero] at balance
      exact balance
  | forgotten f reply jitter isReply scheduler store settled =>
      refine ledger_moved_items ledger stored (silent_replied _ _ _) store shrinks ?_
      intro jobId
      refine ⟨heldBy jobId (some f), ?_, ?_⟩
      · change queued jobId g + _ + _ = _
        rw [sameQueue scheduler, add_assoc, flow jobId]
        simp only [heldBy, add_zero]
      · intro isStrict _
        exact (wellBehaved_of_settle isReply settled (allowed isStrict).2).elim
  | interrupted f isInterrupt scheduler store =>
      refine ledger_moved_items ledger stored silent_nil store shrinks ?_
      intro jobId
      refine ⟨heldBy jobId (some f), ?_, ?_⟩
      · change queued jobId g + _ + _ = _
        rw [sameQueue scheduler, add_assoc, flow jobId]
        simp only [heldBy, add_zero]
      · intro isStrict _
        have serves := (allowed isStrict).1
        rw [isInterrupt] at serves
        exact serves.elim

/-- Interrupting the open jobs at the end of a shutdown keeps their results. -/
private theorem interruptJobs_work (e : Engine) (jobId : JobId) :
    (e.interruptJobs.store.get jobId = none ↔ e.store.get jobId = none) ∧
      ∀ job', e.interruptJobs.store.get jobId = some job' →
        ∃ job, e.store.get jobId = some job ∧ SameWork job job' ∧
          (job'.state ≠ .cancelled → job.state ≠ .cancelled) := by
  constructor
  · have same := (interruptJobs_keeps e).2.jobs jobId
    rw [InMemoryJobStore.get, InMemoryJobStore.get, ← Option.map_eq_none_iff, same,
      Option.map_eq_none_iff]
  · intro job' found'
    rcases interruptJobs_job e jobId found' with ⟨job, found, rfl | ⟨_, rfl⟩⟩
    · exact ⟨job', found, SameWork.refl job', id⟩
    · exact ⟨job, found, ⟨rfl, rfl, rfl, rfl, rfl⟩, fun alive => (alive rfl).elim⟩

private theorem ledger_same {strict : Prop} {events emitted : List Event} {e e' : Engine}
    (ledger : Ledger strict events e) (stored : e.Stored) (silent : Silent emitted)
    (store : e'.store = e.store) (scheduler : e'.scheduler = e.scheduler)
    (heldSame : ∀ jobId, held jobId e' = held jobId e) : Ledger strict (events ++ emitted) e' := by
  have queue : ∀ jobId, queued jobId e' = queued jobId e := by
    intro jobId
    unfold queued
    rw [scheduler]
  refine ledger_moved_items ledger stored silent store (fun jobId => (queue jobId).le) ?_
  intro jobId
  exact ⟨0, by rw [queue, heldSame, add_zero], fun _ _ => rfl⟩

theorem ledger_step {strict : Prop} {p : Params} {events emitted : List Event} {e e' : Engine}
    {label : Label} (ledger : Ledger strict events e) (stored : e.Stored) (loop : e.EventLoop)
    (allowed : strict → Serves label ∧ WellBehaved label)
    (step : Step p e label e' emitted) : Ledger strict (events ++ emitted) e' := by
  cases step with
  | tick loopTime wallTime later =>
      exact ledger_same ledger stored silent_nil rfl rfl (fun _ => rfl)
  | unchanged label serves => exact ledger_same ledger stored silent_nil rfl rfl (fun _ => rfl)
  | submitted label prompts priority key newId requested quiet named fresh =>
      rcases submit_cases p prompts priority key newId e with ⟨⟨_, _, same⟩, notNew⟩ | admitted
      · refine ledger_same ledger stored ?_ (by rw [same]) (by rw [same]) ?_
        · intro event member jobId
          rw [List.mem_singleton] at member
          rw [member]
          refine ⟨?_, rfl⟩
          cases answer : (e.submitWithIdempotency p prompts priority key newId).2 with
          | job created reuse =>
              cases reuse with
              | true => rfl
              | false => exact (notNew created answer).elim
          | overloaded retryAfter message => rfl
          | conflict message => rfl
        · intro jobId
          exact held_of_workers (by rw [same]) jobId
      · rw [admitted.2.2.2.2]
        exact ledger.admitted p loop prompts priority key newId fresh
  | cancelled jobId job quiet found unfinished => exact ledger.cancelled found unfinished
  | worked task action w g flag loc emitted found lowered work =>
      exact ledger_worked flag ledger stored allowed found work
  | shutdownStarted quiet phase =>
      exact ledger_same ledger stored silent_nil rfl rfl (fun _ => rfl)
  | graceExpired quiet phase =>
      refine ledger_same ledger stored silent_nil rfl rfl (fun jobId => ?_)
      exact Dict.total_mapValues (fun _ (w : Worker) => heldBy jobId w.loc.flight) e.workers _
  | shutdownReturned ended phase =>
      have work := interruptJobs_work e
      have scheduler := (interruptJobs_keeps e).1
      refine ledger.moved stored silent_nil (fun jobId => (work jobId).2)
        (fun jobId => (work jobId).1.mp) ?_ (fun isStrict => (allowed isStrict).1.elim)
      intro jobId
      refine ⟨0, ?_, fun _ _ => rfl⟩
      rw [add_zero, held_of_workers (interruptJobs_frame e).2.2.1 jobId]
      unfold queued
      rw [scheduler]

variable {p : Params} {ok : Engine → Label → Engine → Prop} {events : List Event} {e : Engine}

theorem ledger_new (strict : Prop) (p : Params) : Ledger strict [] (Engine.new p) where
  known := fun _ _ impossible => by cases impossible
  unknown := fun _ _ => ⟨rfl, rfl, rfl⟩

/-- Along every run the items are accounted for; nothing is lost in runs that are
neither shut down nor served by a misbehaving provider. -/
theorem reachable_ledger (strict : Prop)
    (before : ∀ e label e', ok e label e' → strict → BeforeShutdown label ∧ WellBehaved label)
    (run : (engineMachine p).Reaches ok events e) : Ledger strict events e := by
  have facts := run.along Engine.Stored (fun earlier => reachable_stored earlier)
  by_cases isStrict : strict
  · refine (serving_invariant (fun e label e' admissible =>
      (before e label e' admissible.1 isStrict).1) facts (Ledger strict) ?_ ?_).1
    · exact ledger_new strict p
    · intro _ _ e e' label ledger loop _ serves admissible step
      exact ledger_step ledger admissible.2 loop
        (fun _ => ⟨serves, (before e label e' admissible.1 isStrict).2⟩) step
  · refine run_invariant facts (Ledger strict) (ledger_new strict p) ?_
    intro _ _ _ _ _ ledger loop admissible step
    exact ledger_step ledger admissible.2 loop (fun impossible => (isStrict impossible).elim) step

/-! ### What the ledger says -/

/-- Two workers never hold items of one job with the same number. -/
theorem Account.heldOnce {strict : Prop} {jobId : JobId} {job : Job} {prompts : List PromptItem}
    {lost : Multiset WorkItem} (account : Account strict events e jobId job prompts lost)
    {task task' : TaskId} {w w' : Worker} {f f' : InFlight}
    (found : e.workers.get? task = some w) (found' : e.workers.get? task' = some w')
    (holds : w.loc.flight = some f) (holds' : w'.loc.flight = some f')
    (mine : f.jobId = jobId) (mine' : f'.jobId = jobId) (same : f.item.seq = f'.item.seq) :
    task = task' := by
  by_contra different
  have distinct := account.distinct
  rw [Multiset.map_add, Multiset.map_add] at distinct
  have heldDistinct := (Multiset.nodup_add.mp (Multiset.nodup_add.mp distinct).1).2.1
  have split := Dict.total_erase_of_get?_some (fun _ w => heldBy jobId w.loc.flight) e.workers found
  change _ = held jobId e at split
  rw [← split, Multiset.map_add] at heldDistinct
  have apart := Multiset.disjoint_of_nodup_add heldDistinct
  have first : f.item.seq ∈ (heldBy jobId w.loc.flight).map WorkItem.seq := by
    rw [holds]
    simp [heldBy, mine]
  have second : f.item.seq ∈ (Dict.total (fun _ w => heldBy jobId w.loc.flight)
      (e.workers.erase task)).map WorkItem.seq := by
    rw [Multiset.mem_map]
    refine ⟨f'.item, ?_, same.symm⟩
    rw [Dict.mem_total]
    refine ⟨task', w', ?_, ?_⟩
    · rw [Dict.get?_erase, if_neg (Ne.symm different)]
      exact found'
    · rw [holds']
      simp [heldBy, mine']
  exact Multiset.disjoint_left.mp apart second first

theorem map_seq_recorded (job : Job) : (recorded job).map WorkItem.seq = ↑job.results.keys := by
  unfold recorded Dict.total Dict.keys
  induction job.results.entries with
  | nil => rfl
  | cons head tail ih =>
      rw [List.map_cons, List.sum_cons, Multiset.map_add, ih]
      rfl

theorem card_recorded (job : Job) : (recorded job).card = job.results.size := by
  rw [← Multiset.card_map WorkItem.seq, map_seq_recorded, Multiset.coe_card]
  exact List.length_map _

theorem Account.completed_le {strict : Prop} {jobId : JobId} {job : Job}
    {prompts : List PromptItem} {lost : Multiset WorkItem}
    (account : Account strict events e jobId job prompts lost) : job.completed ≤ job.total := by
  have parts := congrArg Multiset.card account.items
  simp only [Multiset.card_add, Multiset.coe_card, card_recorded] at parts
  rw [account.counted.results, account.total, ← length_workItems, ← parts]
  omega

/-- With as many results as prompts, every item has its result. -/
theorem Account.complete {strict : Prop} {jobId : JobId} {job : Job}
    {prompts : List PromptItem} {lost : Multiset WorkItem}
    (account : Account strict events e jobId job prompts lost)
    (all : job.total ≤ job.completed) : recorded job = ↑(workItems prompts) := by
  apply Multiset.eq_of_le_of_card_le
  · have part : recorded job ≤ queued jobId e + held jobId e + recorded job +
        (dropped jobId events + lost) :=
      (Multiset.le_add_left _ _).trans (Multiset.le_add_right _ _)
    rw [← add_assoc, account.items] at part
    exact part
  · rw [Multiset.coe_card, length_workItems, card_recorded, ← account.counted.results,
      ← account.total]
    exact all

theorem Account.answered {strict : Prop} {jobId : JobId} {job : Job} {prompts : List PromptItem}
    {lost : Multiset WorkItem} (account : Account strict events e jobId job prompts lost)
    {seq : Nat} {result : InferenceResult} (read : job.results.get? seq = some result) :
    (workItems prompts)[seq]? =
      some { seq := seq, id := result.id, prompt := result.prompt } := by
  have listed : ({ seq := seq, id := result.id, prompt := result.prompt } : WorkItem) ∈
      recorded job := by
    unfold recorded
    rw [Dict.mem_total]
    exact ⟨seq, result, read, Multiset.mem_singleton_self _⟩
  have submitted : ({ seq := seq, id := result.id, prompt := result.prompt } : WorkItem) ∈
      workItems prompts := by
    rw [← Multiset.mem_coe, ← account.items]
    simp only [Multiset.mem_add]
    exact Or.inl (Or.inl (Or.inr listed))
  exact workItems_getElem? prompts submitted

/-- With as many results as prompts, each item has a result that carries its data. -/
theorem Account.result_of_complete {strict : Prop} {jobId : JobId} {job : Job}
    {prompts : List PromptItem} {lost : Multiset WorkItem}
    (account : Account strict events e jobId job prompts lost)
    (all : job.total ≤ job.completed) {item : WorkItem} (member : item ∈ workItems prompts) :
    ∃ result, job.results.get? item.seq = some result ∧
      item = { seq := item.seq, id := result.id, prompt := result.prompt } := by
  have listed : item ∈ recorded job := by
    rw [account.complete all]
    exact Multiset.mem_coe.mpr member
  unfold recorded at listed
  rw [Dict.mem_total] at listed
  obtain ⟨seq, result, read, same⟩ := listed
  rw [Multiset.mem_singleton] at same
  exact ⟨result, by rw [same]; exact read, by rw [same]⟩

/-- The item has a result that passes the test. -/
def answeredBy (job : Job) (test : InferenceResult → Bool) (item : WorkItem) : Bool :=
  (job.results.get? item.seq).any test

/-- Results in order carry the identities and prompts of the items they answer. -/
theorem Account.results_items {strict : Prop} {jobId : JobId} {job : Job}
    {prompts : List PromptItem} {lost : Multiset WorkItem}
    (account : Account strict events e jobId job prompts lost) (test : InferenceResult → Bool) :
    (job.orderedResults.filter test).map (fun result => (result.id, result.prompt)) =
      ((workItems prompts).filter (answeredBy job test)).map
        (fun item => (item.id, item.prompt)) := by
  have below : ∀ seq ∈ job.results.keys, seq < prompts.length := by
    intro seq listed
    obtain ⟨result, read⟩ := (job.results.mem_keys_iff seq).mp listed
    have inside := (List.getElem?_eq_some_iff.mp (account.answered read)).1
    rwa [length_workItems] at inside
  rw [job.orderedResults_of_lt below, ← map_seq_workItems, List.filterMap_map,
    List.filter_filterMap, List.map_filterMap, ← List.filterMap_eq_filter, List.map_filterMap]
  apply List.filterMap_congr
  intro item member
  unfold answeredBy
  simp only [Function.comp_apply]
  cases read : job.results.get? item.seq with
  | none => simp [Option.guard, read]
  | some result =>
      have same := account.answered read
      rw [workItems_getElem? prompts member, Option.some.injEq] at same
      have sameId : item.id = result.id := congrArg WorkItem.id same
      have samePrompt : item.prompt = result.prompt := congrArg WorkItem.prompt same
      cases passed : test result with
      | true => simp [passed, Option.guard, read, sameId, samePrompt]
      | false => simp [passed, Option.guard, read]

/-- Two prompts: the first is answered, the second is still queued. -/
def halfDone : List Label :=
  [.submit [{ id := some "x", prompt := "hello" }, { id := none, prompt := "again" }] .normal none
      "a",
    .work 0 .start, .work 0 .enter, .work 0 .take, .work 0 .gate,
    .work 0 (.reply (.returned "hi") 0)]

def isWellBehaved : Label → Bool
  | .work _ (.reply .returnedUnprintable _) => false
  | .work _ (.reply .raisedUnprintable _) => false
  | .work _ (.reply .cancelled _) => false
  | .shutdown => false
  | _ => true

theorem wellBehaved_of_check {label : Label} (checked : isWellBehaved label = true) :
    BeforeShutdown label ∧ WellBehaved label := by
  unfold isWellBehaved at checked
  split at checked
  · cases checked
  · cases checked
  · cases checked
  · cases checked
  · rename_i storable printable uncancelled notShutdown
    constructor
    · unfold BeforeShutdown
      split
      · exact notShutdown rfl
      · trivial
    · unfold WellBehaved
      split
      · exact storable _ _ rfl
      · exact printable _ _ rfl
      · exact uncancelled _ _ rfl
      · trivial

/-- The settings as shipped, with a single worker. -/
def singleWorker : Params :=
  { settings := { workerPoolSize := 1 }
    fingerprint := fun _ _ => "" }

end EngineItems
end BatchInference
