/-
What becomes of the items of the fair scheduler.

Over any run from the empty scheduler, with job ids that are never used twice,
every added item is returned by `pop`, counted by `remove_job` or still queued, and
each job is served in the order of its items.
-/

import BatchInference.SchedulerRuns

set_option autoImplicit false

namespace BatchInference

namespace FairScheduler

/-- `pop` gets past its first loop, into the part that "shouldn't happen". -/
def fallsBack (s : FairScheduler) : Bool :=
  !(dropDrained s.queues).entries.isEmpty &&
    (serve hasCredit (startRound (dropDrained s.queues)) s.pending).isNone

/-- All queued items, with the job they belong to. -/
def contents (s : FairScheduler) : Multiset (JobId × WorkItem) :=
  s.queues.total (fun jobId q => ↑(q.items.map (Prod.mk jobId)))

theorem fallsBack_eq_false (s : FairScheduler) (wf : s.WellFormed) : s.fallsBack = false := by
  unfold fallsBack
  by_cases nothing : (dropDrained s.queues).entries = []
  · rw [nothing]
    rfl
  · obtain ⟨before, key, q, item, rest, after, _, _, _, _, served⟩ := s.serve_round wf.queue nothing
    rw [served]
    simp

end FairScheduler

namespace SchedulerContents

open FairScheduler SchedulerRuns

/-! ### What the events say -/

def additionsOf : SchedulerEvent → List (JobId × WorkItem)
  | .added jobId items _ => items.map (Prod.mk jobId)
  | _ => []

def added (events : List SchedulerEvent) : List (JobId × WorkItem) := events.flatMap additionsOf

def admissionOf : SchedulerEvent → Option JobId
  | .added jobId _ _ => some jobId
  | _ => none

def addedIds (events : List SchedulerEvent) : List JobId := events.filterMap admissionOf

def serviceOf : SchedulerEvent → Option (JobId × WorkItem)
  | .popped item => item
  | _ => none

def served (events : List SchedulerEvent) : List (JobId × WorkItem) := events.filterMap serviceOf

def removedBy (jobId : JobId) : SchedulerEvent → Nat
  | .removed other count => if other = jobId then count else 0
  | _ => 0

/-- The sum of what the removals of a job returned. -/
def removedFor (jobId : JobId) (events : List SchedulerEvent) : Nat :=
  (events.map (removedBy jobId)).sum

/-- The items of one job, in their order. -/
def itemsFor (jobId : JobId) (pairs : List (JobId × WorkItem)) : List WorkItem :=
  (pairs.filter (fun pair => pair.1 = jobId)).map Prod.snd

variable {events emitted : List SchedulerEvent} {s s' : FairScheduler} {jobId : JobId}

@[simp] theorem added_append (events emitted : List SchedulerEvent) :
    added (events ++ emitted) = added events ++ added emitted :=
  List.flatMap_append

@[simp] theorem addedIds_append (events emitted : List SchedulerEvent) :
    addedIds (events ++ emitted) = addedIds events ++ addedIds emitted :=
  List.filterMap_append

@[simp] theorem served_append (events emitted : List SchedulerEvent) :
    served (events ++ emitted) = served events ++ served emitted :=
  List.filterMap_append

@[simp] theorem removedFor_append (jobId : JobId) (events emitted : List SchedulerEvent) :
    removedFor jobId (events ++ emitted) = removedFor jobId events + removedFor jobId emitted := by
  unfold removedFor
  rw [List.map_append, List.sum_append]

@[simp] theorem itemsFor_append (jobId : JobId) (pairs more : List (JobId × WorkItem)) :
    itemsFor jobId (pairs ++ more) = itemsFor jobId pairs ++ itemsFor jobId more := by
  unfold itemsFor
  rw [List.filter_append, List.map_append]

theorem itemsFor_map (jobId other : JobId) (items : List WorkItem) :
    itemsFor jobId (items.map (Prod.mk other)) = if other = jobId then items else [] := by
  unfold itemsFor
  rw [List.filter_map, List.map_map]
  by_cases same : other = jobId
  · simp [same, Function.comp_def]
  · simp [same, Function.comp_def]

theorem itemsFor_singleton (jobId other : JobId) (item : WorkItem) :
    itemsFor jobId [(other, item)] = if other = jobId then [item] else [] :=
  itemsFor_map jobId other [item]

theorem itemsFor_added_of_unknown (unknown : jobId ∉ addedIds events) :
    itemsFor jobId (added events) = [] := by
  induction events with
  | nil => rfl
  | cons event rest ih =>
      have split : event :: rest = [event] ++ rest := rfl
      rw [split, addedIds_append, List.mem_append, not_or] at unknown
      rw [split, added_append, itemsFor_append, ih unknown.2, List.append_nil]
      cases event with
      | added other items spent =>
          have different : other ≠ jobId := by
            intro same
            exact unknown.1 (by simp [addedIds, admissionOf, same])
          simp [added, additionsOf, itemsFor_map, different]
      | removed other count => rfl
      | popped item => rfl

/-! ### The books -/

/-- Where the items are, and how far each job has been served. -/
structure Books (events : List SchedulerEvent) (s : FairScheduler) : Prop where
  wellFormed : s.WellFormed
  known : ∀ jobId q, s.queues.get? jobId = some q → jobId ∈ addedIds events
  balance : ∃ dropped : Multiset (JobId × WorkItem),
    (∀ jobId, dropped.countP (fun pair => pair.1 = jobId) = removedFor jobId events) ∧
      (↑(added events) : Multiset (JobId × WorkItem)) = ↑(served events) + dropped + s.contents
  inOrder : ∀ jobId, itemsFor jobId (served events) <+: itemsFor jobId (added events)
  queue : ∀ jobId, s.itemsOf jobId ≠ [] →
    itemsFor jobId (added events) = itemsFor jobId (served events) ++ s.itemsOf jobId
  gone : ∀ before jobId count after, events = before ++ .removed jobId count :: after →
    jobId ∈ addedIds before →
      s.queues.get? jobId = none ∧ itemsFor jobId (served after) = []

theorem books_empty : Books [] FairScheduler.empty where
  wellFormed := wellFormed_empty
  known := fun _ _ read => by cases read
  balance := ⟨0, fun _ => rfl, rfl⟩
  inOrder := fun _ => List.prefix_refl _
  queue := fun _ waiting => absurd rfl waiting
  gone := by
    intro before jobId count after split _
    cases before with
    | nil => cases split
    | cons _ _ => cases split

/-- A history that ends with one more event: the removal is that event, or it
happened before. -/
theorem split_snoc {before after : List SchedulerEvent} {event removal : SchedulerEvent}
    (split : events ++ [event] = before ++ removal :: after) :
    (after = [] ∧ event = removal ∧ events = before) ∨
      ∃ earlier, after = earlier ++ [event] ∧ events = before ++ removal :: earlier := by
  rcases List.eq_nil_or_concat after with rfl | ⟨earlier, last, rfl⟩
  · left
    obtain ⟨same, ends⟩ := List.append_inj' split rfl
    exact ⟨rfl, List.singleton_inj.mp ends, same⟩
  · right
    rw [List.concat_eq_append, ← List.cons_append, ← List.append_assoc] at split
    obtain ⟨same, ends⟩ := List.append_inj' split rfl
    exact ⟨earlier, by rw [List.singleton_inj.mp ends, List.concat_eq_append], same⟩

theorem contents_addJob (s : FairScheduler) (jobId : JobId) (items : List WorkItem)
    (priority : Priority) (fresh : s.queues.get? jobId = none) :
    (s.addJob jobId items priority).contents = s.contents + ↑(items.map (Prod.mk jobId)) :=
  Dict.total_set_of_get?_none _ _ _ fresh

/-- What a removal drops are the items of its job, as many as it returns. -/
theorem contents_removeJob (s : FairScheduler) (jobId : JobId) :
    s.contents = (s.removeJob jobId).1.contents + ↑((s.itemsOf jobId).map (Prod.mk jobId)) := by
  unfold removeJob itemsOf queuedItems
  cases found : s.queues.get? jobId with
  | none => simp
  | some q => exact (Dict.total_erase_of_get?_some _ _ found).symm

theorem contents_pop (s s' : FairScheduler) (wf : s.WellFormed) (jobId : JobId) (item : WorkItem)
    (popped : s.pop = (s', some (jobId, item))) :
    s.contents = {(jobId, item)} + s'.contents := by
  exact total_pop (fun key items => (↑(items.map (Prod.mk key)) : Multiset (JobId × WorkItem)))
    (fun _ => rfl) (fun key item => {(key, item)})
    (fun key item rest => by simp) s s' wf.queue jobId item popped

/-- A removed job stays unknown, and is served nothing, unless it is added again. -/
theorem gone_snoc (books : Books events s) (event : SchedulerEvent)
    (kept : ∀ jobId, s.queues.get? jobId = none → jobId ∈ addedIds events →
      s'.queues.get? jobId = none ∧ itemsFor jobId (served [event]) = [])
    (removes : ∀ jobId count, event = .removed jobId count → s'.queues.get? jobId = none) :
    ∀ before jobId count after, events ++ [event] = before ++ .removed jobId count :: after →
      jobId ∈ addedIds before →
        s'.queues.get? jobId = none ∧ itemsFor jobId (served after) = [] := by
  intro before jobId count after split member
  rcases split_snoc split with ⟨rfl, same, _⟩ | ⟨earlier, rfl, past⟩
  · exact ⟨removes jobId count same, rfl⟩
  · obtain ⟨unknown, unserved⟩ := books.gone before jobId count earlier past member
    have early : jobId ∈ addedIds events := by
      rw [past, addedIds_append]
      exact List.mem_append_left _ member
    obtain ⟨still, quiet⟩ := kept jobId unknown early
    rw [served_append, itemsFor_append, unserved, quiet]
    exact ⟨still, rfl⟩

theorem books_addJob (books : Books events s) (jobId : JobId) (items : List WorkItem)
    (priority : Priority) (spent : List JobId) (fresh : jobId ∉ addedIds events) :
    Books (events ++ [.added jobId items spent]) (s.addJob jobId items priority) := by
  have unqueued : s.queues.get? jobId = none := by
    cases found : s.queues.get? jobId with
    | none => rfl
    | some q => exact absurd (books.known jobId q found) fresh
  have notAdded := itemsFor_added_of_unknown fresh
  have notServed : itemsFor jobId (served events) = [] := by
    have before := books.inOrder jobId
    rw [notAdded] at before
    exact List.prefix_nil.mp before
  have addedNow : ∀ other, itemsFor other (added [.added jobId items spent]) =
      if jobId = other then items else [] := by
    intro other
    simp only [added, additionsOf, List.flatMap_cons, List.flatMap_nil, List.append_nil,
      itemsFor_map]
  have servedNow : served [.added jobId items spent] = [] := rfl
  constructor
  · exact s.addJob_wellFormed books.wellFormed jobId items priority unqueued
  · intro other q found
    rw [addedIds_append, List.mem_append]
    simp only [addJob, Dict.get?_set] at found
    by_cases same : other = jobId
    · right
      simp [addedIds, admissionOf, same]
    · rw [if_neg same] at found
      exact Or.inl (books.known other q found)
  · obtain ⟨dropped, counts, balance⟩ := books.balance
    refine ⟨dropped, ?_, ?_⟩
    · intro other
      rw [removedFor_append, counts other]
      rfl
    · rw [contents_addJob s jobId items priority unqueued, added_append, served_append,
        servedNow, List.append_nil, ← Multiset.coe_add, balance]
      simp [added, additionsOf, add_assoc]
  · intro other
    rw [added_append, served_append, servedNow, List.append_nil, itemsFor_append]
    exact (books.inOrder other).trans (List.prefix_append _ _)
  · intro other waiting
    rw [itemsOf_addJob] at waiting ⊢
    rw [added_append, served_append, servedNow, List.append_nil, itemsFor_append, addedNow]
    by_cases same : other = jobId
    · subst same
      simp [notAdded, notServed]
    · rw [if_neg same] at waiting ⊢
      rw [if_neg (fun equal => same equal.symm), List.append_nil]
      exact books.queue other waiting
  · apply gone_snoc books
    · intro other unknown early
      have different : other ≠ jobId := by
        intro same
        exact fresh (same ▸ early)
      refine ⟨?_, rfl⟩
      simp only [addJob, Dict.get?_set, if_neg different, unknown]
    · intro _ _ impossible
      cases impossible

theorem books_removeJob (books : Books events s) (jobId : JobId) :
    Books (events ++ [.removed jobId (s.removeJob jobId).2]) (s.removeJob jobId).1 := by
  have quiet : added [.removed jobId (s.removeJob jobId).2] = [] := rfl
  have silent : served [.removed jobId (s.removeJob jobId).2] = [] := rfl
  constructor
  · exact s.removeJob_wellFormed books.wellFormed jobId
  · intro other q found
    rw [get?_removeJob] at found
    rw [addedIds_append, List.mem_append]
    by_cases same : other = jobId
    · rw [if_pos same] at found
      cases found
    · rw [if_neg same] at found
      exact Or.inl (books.known other q found)
  · obtain ⟨dropped, counts, balance⟩ := books.balance
    refine ⟨dropped + ↑((s.itemsOf jobId).map (Prod.mk jobId)), ?_, ?_⟩
    · intro other
      rw [Multiset.countP_add, counts other, removedFor_append, removeJob_snd]
      simp only [removedFor, removedBy, List.map_cons, List.map_nil, List.sum_cons, List.sum_nil,
        jobPending, Multiset.coe_countP, List.countP_map]
      by_cases same : jobId = other
      · simp [same, Function.comp_def]
      · simp [same, Function.comp_def]
    · rw [added_append, served_append, quiet, silent, List.append_nil, List.append_nil, balance,
        contents_removeJob s jobId]
      abel
  · intro other
    rw [added_append, served_append, quiet, silent, List.append_nil, List.append_nil]
    exact books.inOrder other
  · intro other waiting
    rw [itemsOf_removeJob] at waiting ⊢
    rw [added_append, served_append, quiet, silent, List.append_nil, List.append_nil]
    by_cases same : other = jobId
    · rw [if_pos same] at waiting
      exact absurd rfl waiting
    · rw [if_neg same] at waiting ⊢
      exact books.queue other waiting
  · apply gone_snoc books
    · intro other unknown _
      refine ⟨?_, rfl⟩
      rw [get?_removeJob, unknown]
      split <;> rfl
    · intro other count same
      cases same
      rw [get?_removeJob, if_pos rfl]

theorem books_pop_none (books : Books events s) (popped : s.pop = (s', none)) :
    Books (events ++ [.popped none]) s' := by
  obtain ⟨_, nothing, rfl⟩ := s.pop_none_spec s' books.wellFormed popped
  have quiet : added [.popped none] = [] := rfl
  have silent : served [.popped none] = [] := rfl
  have wf := s.pop_wellFormed books.wellFormed
  rw [popped] at wf
  constructor
  · exact wf
  · intro jobId q found
    cases found
  · obtain ⟨dropped, counts, balance⟩ := books.balance
    refine ⟨dropped, ?_, ?_⟩
    · intro jobId
      rw [removedFor_append, counts jobId]
      rfl
    · have empty : s.contents = 0 := by
        apply Dict.total_eq_zero
        intro jobId q member
        have items := nothing jobId
        unfold itemsOf queuedItems at items
        rw [(s.queues.mem_entries_iff jobId q).mp member] at items
        simp only at items
        rw [items]
        rfl
      rw [added_append, served_append, quiet, silent, List.append_nil, List.append_nil, balance,
        empty]
      rfl
  · intro jobId
    rw [added_append, served_append, quiet, silent, List.append_nil, List.append_nil]
    exact books.inOrder jobId
  · intro jobId waiting
    exact absurd rfl waiting
  · apply gone_snoc books
    · intro jobId _ _
      exact ⟨rfl, rfl⟩
    · intro _ _ impossible
      cases impossible

theorem books_pop_some (books : Books events s) (jobId : JobId) (item : WorkItem)
    (popped : s.pop = (s', some (jobId, item))) :
    Books (events ++ [.popped (some (jobId, item))]) s' := by
  obtain ⟨front, others, _, wf⟩ := s.pop_some_spec s' books.wellFormed jobId item popped
  have quiet : added [.popped (some (jobId, item))] = [] := rfl
  have single : served [.popped (some (jobId, item))] = [(jobId, item)] := rfl
  have known : ∀ other q, s'.queues.get? other = some q →
      ∃ old, s.queues.get? other = some old := by
    intro other q found
    apply s.known_of_pop books.wellFormed.queue
    rw [popped]
    exact found
  have advanced : itemsFor jobId (added events) =
      (itemsFor jobId (served events) ++ [item]) ++ s'.itemsOf jobId := by
    have before := books.queue jobId (by rw [front]; exact List.cons_ne_nil _ _)
    rw [before, front, List.append_assoc]
    rfl
  constructor
  · exact wf
  · intro other q found
    obtain ⟨old, read⟩ := known other q found
    rw [addedIds_append, List.mem_append]
    exact Or.inl (books.known other old read)
  · obtain ⟨dropped, counts, balance⟩ := books.balance
    refine ⟨dropped, ?_, ?_⟩
    · intro other
      rw [removedFor_append, counts other]
      rfl
    · rw [added_append, served_append, quiet, single, List.append_nil, balance,
        contents_pop s s' books.wellFormed jobId item popped, ← Multiset.coe_add,
        Multiset.coe_singleton]
      abel
  · intro other
    rw [added_append, served_append, quiet, single, List.append_nil, itemsFor_append,
      itemsFor_singleton]
    by_cases same : jobId = other
    · subst same
      rw [if_pos rfl, advanced]
      exact List.prefix_append _ _
    · rw [if_neg same, List.append_nil]
      exact books.inOrder other
  · intro other waiting
    rw [added_append, served_append, quiet, single, List.append_nil, itemsFor_append,
      itemsFor_singleton]
    by_cases same : jobId = other
    · subst same
      rw [if_pos rfl]
      exact advanced
    · have kept := others other (fun equal => same equal.symm)
      rw [kept] at waiting ⊢
      rw [if_neg same, List.append_nil]
      exact books.queue other waiting
  · apply gone_snoc books
    · intro other unknown _
      have different : jobId ≠ other := by
        intro same
        subst same
        have none : s.itemsOf jobId = [] := by
          unfold itemsOf queuedItems
          rw [unknown]
        rw [none] at front
        cases front
      constructor
      · cases found : s'.queues.get? other with
        | none => rfl
        | some q =>
            obtain ⟨old, read⟩ := known other q found
            rw [unknown] at read
            cases read
      · rw [single, itemsFor_singleton, if_neg different]
    · intro _ _ impossible
      cases impossible

/-- Every operation keeps the books, as long as no job id comes back. -/
theorem books_apply (books : Books events s) (op : SchedulerOp)
    (fresh : (addedIds (events ++ [(s.apply op).2])).Nodup) :
    Books (events ++ [(s.apply op).2]) (s.apply op).1 := by
  cases op with
  | addJob jobId items priority =>
      apply books_addJob books
      intro member
      rw [addedIds_append] at fresh
      exact (List.nodup_append.mp fresh).2.2 jobId member jobId List.mem_cons_self rfl
  | removeJob jobId => exact books_removeJob books jobId
  | pop =>
      change Books (events ++ [.popped s.pop.2]) s.pop.1
      cases popped : s.pop with
      | mk s' result =>
          cases result with
          | none => exact books_pop_none books popped
          | some served => exact books_pop_some books served.1 served.2 popped

theorem reachable_books {ok : FairScheduler → SchedulerOp → FairScheduler → Prop}
    (run : schedulerMachine.Reaches ok events s) (fresh : (addedIds events).Nodup) :
    Books events s := by
  induction run with
  | refl => exact books_empty
  | @tail earlier emitted middle last op _ _ stepped ih =>
      obtain ⟨rfl, rfl⟩ := step_eq stepped
      have freshBefore := fresh
      rw [addedIds_append] at freshBefore
      exact books_apply (ih freshBefore.of_append_left) op fresh

theorem pop_eq_none_iff (wf : s.WellFormed) : s.pop.2 = none ↔ s.pending = 0 := by
  cases popped : s.pop with
  | mk s' result =>
      cases result with
      | none => exact ⟨fun _ => (s.pop_none_spec s' wf popped).1, fun _ => rfl⟩
      | some served =>
          have front := (s.pop_some_spec s' wf served.1 served.2 popped).1
          constructor
          · intro impossible
            cases impossible
          · intro zero
            rw [wf.itemsOf_of_no_pending zero] at front
            cases front

/-- Nothing is lost, duplicated or reordered, and the bookkeeping of the
scheduler is exact. -/
structure Conserved (events : List SchedulerEvent) (s : FairScheduler) : Prop where
  /-- What was added was returned, dropped by a removal or is still queued. -/
  balance : ∃ dropped : Multiset (JobId × WorkItem),
    (∀ jobId, dropped.countP (fun pair => pair.1 = jobId) = removedFor jobId events) ∧
      (↑(added events) : Multiset (JobId × WorkItem)) = ↑(served events) + dropped + s.contents
  inOrder : ∀ jobId, itemsFor jobId (served events) <+: itemsFor jobId (added events)
  gone : ∀ before jobId count after, events = before ++ .removed jobId count :: after →
    jobId ∈ addedIds before → itemsFor jobId (served after) = []
  counted : s.pending = s.queues.total (fun _ q => (q.items.length : Int))
  nonneg : 0 ≤ s.pending
  exhausted : s.pop.2 = none ↔ s.pending = 0
  credited : ∀ jobId q, s.queues.get? jobId = some q → 0 ≤ q.credit ∧ q.credit ≤ q.weight
  noFallback : s.fallsBack = false

/-- Every run in which no job id is added twice conserves the items. -/
theorem items_conserved_in_order
    (run : schedulerMachine.Reaches Machine.anyStep events s) (fresh : (addedIds events).Nodup) :
    Conserved events s := by
  have books := reachable_books run fresh
  have wf := books.wellFormed
  exact
    { balance := books.balance
      inOrder := books.inOrder
      gone := fun before jobId count after split member =>
        (books.gone before jobId count after split member).2
      counted := wf.counted
      nonneg := wf.pending_nonneg
      exhausted := pop_eq_none_iff wf
      credited := fun jobId q found => (wf.queue jobId q found).credited
      noFallback := s.fallsBack_eq_false wf }

def numbered (seq : Nat) : WorkItem :=
  { seq := seq
    id := "p"
    prompt := "hello" }

/-- One job is served once and then removed, an empty one is never served, and a
third one is still queued. -/
def mixedOps : List SchedulerOp :=
  [.addJob "a" [numbered 0, numbered 1] .low, .addJob "b" [] .high, .pop, .removeJob "a",
    .addJob "c" [numbered 0] .normal]

def mixedTest (outcome : List SchedulerEvent × FairScheduler) : Bool :=
  served outcome.1 == [("a", numbered 0)] && removedFor "a" outcome.1 == 1 &&
    outcome.2.pending == 1 && addedIds outcome.1 == ["a", "b", "c"]

theorem items_conserved_in_order_mixed :
    ∃ events s, schedulerMachine.Reaches Machine.anyStep events s ∧
      served events = [("a", numbered 0)] ∧ removedFor "a" events = 1 ∧ s.pending = 1 ∧
        Conserved events s := by
  obtain ⟨events, s, run, passed⟩ :=
    Machine.exists_anyRun_of_exec schedulerMachine
      schedulerMachine.initial mixedOps mixedTest (by decide +kernel)
  simp only [mixedTest, Bool.and_eq_true, beq_iff_eq] at passed
  obtain ⟨⟨⟨once, dropped⟩, left⟩, ids⟩ := passed
  have fresh : (addedIds events).Nodup := by
    rw [ids]
    decide
  exact ⟨events, s, run, once, dropped, left, items_conserved_in_order run fresh⟩

end SchedulerContents

end BatchInference
