/-
How long a job with pending items waits for the scheduler.

The bound on the wait is a potential: the credits of the queues in front of the
job while it has credit itself, and otherwise all credits that must be spent
before the round ends plus the weights in front of it. A service of another job
lowers the potential. An arrival raises it when the waiting job has used up its
credit, and this is where the bound is lost: a stream of short jobs that arrive
with fresh credit keeps the round open for ever.
-/

import BatchInference.SchedulerRuns

set_option autoImplicit false

namespace BatchInference.SchedulerStarvation

open FairScheduler SchedulerRuns

/-! ### Credits and weights of a stretch of the insertion order -/

def creditOf (q : JobQueue) : Int := if q.items.isEmpty then 0 else q.credit

def weightOf (q : JobQueue) : Int := if q.items.isEmpty then 0 else q.weight

def creditSum (part : List (JobId × JobQueue)) : Int :=
  (part.map (fun entry => creditOf entry.2)).sum

def weightSum (part : List (JobId × JobQueue)) : Int :=
  (part.map (fun entry => weightOf entry.2)).sum

/-- The number of jobs with pending items. -/
def pendingJobs (queues : Dict JobId JobQueue) : Nat :=
  queues.total (fun _ q => if q.items.isEmpty then 0 else 1)

def PartWellFormed (part : List (JobId × JobQueue)) : Prop :=
  ∀ entry ∈ part, QueueWellFormed entry.1 entry.2

private theorem entries_wellFormed {queues : Dict JobId JobQueue}
    (wf : ∀ key q, queues.get? key = some q → QueueWellFormed key q) :
    PartWellFormed queues.entries :=
  fun entry member => wf entry.1 entry.2 ((queues.mem_entries_iff _ _).mp member)

private theorem creditOf_bounds {key : JobId} {q : JobQueue} (wf : QueueWellFormed key q) :
    0 ≤ creditOf q ∧ creditOf q ≤ weightOf q ∧ weightOf q ≤ 4 := by
  obtain ⟨_, weighted, credited⟩ := wf
  unfold creditOf weightOf
  split <;> omega

private theorem sum_bounds (part : List (JobId × JobQueue)) (wf : PartWellFormed part) :
    0 ≤ creditSum part ∧ creditSum part ≤ weightSum part ∧
      weightSum part ≤
        4 * ((part.map (fun entry => if entry.2.items.isEmpty then 0 else 1)).sum : Nat) := by
  induction part with
  | nil => simp [creditSum, weightSum]
  | cons head tail ih =>
      obtain ⟨nonneg, le, small⟩ := ih (fun entry member => wf entry (.tail head member))
      have headWf := wf head List.mem_cons_self
      obtain ⟨headNonneg, headLe, _⟩ := creditOf_bounds headWf
      have headSmall : weightOf head.2 ≤
          4 * ((if head.2.items.isEmpty then 0 else 1 : Nat) : Int) := by
        have weighted := headWf.weighted
        unfold weightOf
        split
        · simp
        · simp only [Nat.cast_one]
          omega
      unfold creditSum weightSum at *
      simp only [List.map_cons, List.sum_cons, Nat.cast_add] at *
      omega

private theorem creditSum_append (first second : List (JobId × JobQueue)) :
    creditSum (first ++ second) = creditSum first + creditSum second := by
  simp [creditSum]

private theorem weightSum_append (first second : List (JobId × JobQueue)) :
    weightSum (first ++ second) = weightSum first + weightSum second := by
  simp [weightSum]

private theorem creditSum_cons (entry : JobId × JobQueue) (part : List (JobId × JobQueue)) :
    creditSum (entry :: part) = creditOf entry.2 + creditSum part := by
  simp [creditSum]

private theorem weightSum_cons (entry : JobId × JobQueue) (part : List (JobId × JobQueue)) :
    weightSum (entry :: part) = weightOf entry.2 + weightSum part := by
  simp [weightSum]

/-- Dropping queues lowers the sums, and keeps them if only drained ones go. -/
private theorem sums_filter (part : List (JobId × JobQueue)) (wf : PartWellFormed part)
    (test : JobId × JobQueue → Bool) :
    creditSum (part.filter test) ≤ creditSum part ∧
      weightSum (part.filter test) ≤ weightSum part := by
  induction part with
  | nil => exact ⟨le_refl _, le_refl _⟩
  | cons head tail ih =>
      obtain ⟨credits, weights⟩ := ih (fun entry member => wf entry (.tail head member))
      obtain ⟨nonneg, le, _⟩ := creditOf_bounds (wf head List.mem_cons_self)
      rw [List.filter_cons]
      split
      · simp only [creditSum_cons, weightSum_cons]
        omega
      · simp only [creditSum_cons, weightSum_cons]
        omega

/-! ### The potential of a waiting job -/

def waitCost (before after : List (JobId × JobQueue)) (q : JobQueue) : Int :=
  if 0 < q.credit then creditSum before
  else creditSum before + creditSum after + weightSum before

/-- At most `n` services of other jobs come before the next one of `jobId`,
unless more jobs arrive. -/
def Waits (queues : Dict JobId JobQueue) (jobId : JobId) (n : Int) : Prop :=
  ∃ before q after, queues.entries = before ++ (jobId, q) :: after ∧ q.items ≠ [] ∧
    waitCost before after q ≤ n

private theorem part_wellFormed {queues : Dict JobId JobQueue}
    (wf : ∀ key q, queues.get? key = some q → QueueWellFormed key q)
    {before after : List (JobId × JobQueue)} {entry : JobId × JobQueue}
    (split : queues.entries = before ++ entry :: after) :
    PartWellFormed before ∧ QueueWellFormed entry.1 entry.2 ∧ PartWellFormed after := by
  have all := entries_wellFormed wf
  rw [split] at all
  refine ⟨fun e member => all e (by simp [member]), all entry (by simp),
    fun e member => all e (by simp [member])⟩

/-- Whatever the state, eight times the number of pending jobs is enough. -/
theorem waits_of_pendingJobs {queues : Dict JobId JobQueue}
    (wf : ∀ key q, queues.get? key = some q → QueueWellFormed key q) {jobId : JobId}
    {q : JobQueue} (read : queues.get? jobId = some q) (items : q.items ≠ []) {crowd : Nat}
    (crowded : pendingJobs queues ≤ crowd) : Waits queues jobId (8 * crowd) := by
  obtain ⟨before, after, split⟩ :=
    List.append_of_mem ((queues.mem_entries_iff jobId q).mpr read)
  obtain ⟨beforeWf, _, afterWf⟩ := part_wellFormed wf split
  obtain ⟨beforeNonneg, beforeLe, beforeSmall⟩ := sum_bounds before beforeWf
  obtain ⟨afterNonneg, afterLe, afterSmall⟩ := sum_bounds after afterWf
  unfold pendingJobs Dict.total at crowded
  simp only [split, List.map_append, List.sum_append, List.map_cons, List.sum_cons] at crowded
  refine ⟨before, q, after, split, items, ?_⟩
  unfold waitCost
  split <;> omega

theorem waits_nonneg {queues : Dict JobId JobQueue}
    (wf : ∀ key q, queues.get? key = some q → QueueWellFormed key q) {jobId : JobId} {n : Int}
    (waits : Waits queues jobId n) : 0 ≤ n := by
  obtain ⟨before, q, after, split, _, cost⟩ := waits
  obtain ⟨beforeWf, _, afterWf⟩ := part_wellFormed wf split
  obtain ⟨beforeNonneg, beforeLe, _⟩ := sum_bounds before beforeWf
  obtain ⟨afterNonneg, _, _⟩ := sum_bounds after afterWf
  unfold waitCost at cost
  split at cost <;> omega

/-- Dropping other queues never makes a job wait longer. -/
theorem waits_keep {queues : Dict JobId JobQueue}
    (wf : ∀ key q, queues.get? key = some q → QueueWellFormed key q) {jobId : JobId} {n : Int}
    (waits : Waits queues jobId n) (test : JobId → JobQueue → Bool)
    (kept : ∀ q, q.items ≠ [] → test jobId q = true) : Waits (queues.keep test) jobId n := by
  obtain ⟨before, q, after, split, items, cost⟩ := waits
  obtain ⟨beforeWf, _, afterWf⟩ := part_wellFormed wf split
  obtain ⟨beforeCredit, beforeWeight⟩ :=
    sums_filter before beforeWf (fun entry => test entry.1 entry.2)
  obtain ⟨afterCredit, _⟩ := sums_filter after afterWf (fun entry => test entry.1 entry.2)
  refine ⟨before.filter (fun entry => test entry.1 entry.2), q,
    after.filter (fun entry => test entry.1 entry.2), ?_, items, ?_⟩
  · unfold Dict.keep
    simp only [split, List.filter_append, List.filter_cons, kept q items, if_true]
  · unfold waitCost at *
    split at cost <;> omega

/-- A round starts when all credits are zero, and then only the weights in
front of the job remain. -/
theorem waits_startRound {queues : Dict JobId JobQueue}
    (wf : ∀ key q, queues.get? key = some q → QueueWellFormed key q) {jobId : JobId} {n : Int}
    (waits : Waits queues jobId n) : Waits (startRound queues) jobId n := by
  rcases startRound_cases queues wf with same | ⟨exhausted, reset⟩
  · rw [same]
    exact waits
  · rw [reset]
    obtain ⟨before, q, after, split, items, cost⟩ := waits
    obtain ⟨beforeWf, qWf, afterWf⟩ := part_wellFormed wf split
    have beforeNonneg := (sum_bounds before beforeWf).1
    have afterNonneg := (sum_bounds after afterWf).1
    have spent : q.credit = 0 := by
      apply exhausted jobId q
      rw [← Dict.mem_entries_iff, split]
      simp
    unfold waitCost at cost
    rw [spent, if_neg (lt_irrefl 0)] at cost
    refine ⟨before.map (fun entry => (entry.1, { entry.2 with credit := entry.2.weight })),
      { q with credit := q.weight },
      after.map (fun entry => (entry.1, { entry.2 with credit := entry.2.weight })), ?_, items, ?_⟩
    · unfold resetCredits Dict.mapValues
      simp only [split, List.map_append, List.map_cons]
    · have refilled : creditSum (before.map
          (fun entry => (entry.1, { entry.2 with credit := entry.2.weight }))) =
          weightSum before := by
        unfold creditSum weightSum
        rw [List.map_map]
        rfl
      have weighted := qWf.weighted
      unfold waitCost
      rw [if_pos (by simp only at *; omega), refilled]
      omega

/-- Serving another job lowers the potential. -/
theorem waits_serve {round : Dict JobId JobQueue}
    (wf : ∀ key q, round.get? key = some q → QueueWellFormed key q) {jobId : JobId} {n : Int}
    (waits : Waits round jobId n) {before after : List (JobId × JobQueue)} {key : JobId}
    {q : JobQueue} {item : WorkItem} {rest : List WorkItem}
    (split : round.entries = before ++ (key, q) :: after) (shape : q.items = item :: rest)
    (credit : 0 < q.credit) (spentBefore : ∀ entry ∈ before, entry.2.credit = 0)
    (other : key ≠ jobId) :
    Waits (round.set key { q with credit := q.credit - 1, items := rest }) jobId (n - 1) := by
  obtain ⟨front, own, back, ownSplit, items, cost⟩ := waits
  obtain ⟨_, qWf, _⟩ := part_wellFormed wf split
  have weighted : 1 ≤ q.weight ∧ q.weight ≤ 4 := qWf.weighted
  have served : creditOf { q with credit := q.credit - 1, items := rest } ≤ creditOf q - 1 ∧
      weightOf { q with credit := q.credit - 1, items := rest } ≤ weightOf q := by
    unfold creditOf weightOf
    rw [shape]
    cases rest with
    | nil =>
        simp only [List.isEmpty_nil, List.isEmpty_cons, if_true, Bool.false_eq_true, if_false]
        omega
    | cons next others =>
        simp only [List.isEmpty_cons, Bool.false_eq_true, if_false]
        omega
  have result := round.entries_set_of_split
    { q with credit := q.credit - 1, items := rest } split
  have both := ownSplit.symm.trans split
  rcases List.append_eq_append_iff.mp both with
    ⟨middle, beforeEq, tailEq⟩ | ⟨middle, frontEq, tailEq⟩
  · -- The served queue stands behind the job, so the job has no credit left.
    cases middle with
    | nil =>
        rw [List.nil_append, List.cons.injEq, Prod.mk.injEq] at tailEq
        exact False.elim (other tailEq.1.1.symm)
    | cons head middle =>
        rw [List.cons_append, List.cons.injEq] at tailEq
        obtain ⟨rfl, backEq⟩ := tailEq
        have spent : own.credit = 0 := spentBefore (jobId, own) (by rw [beforeEq]; simp)
        refine ⟨front, own,
          middle ++ (key, { q with credit := q.credit - 1, items := rest }) :: after,
          ?_, items, ?_⟩
        · rw [result, beforeEq]
          simp
        · have exhausted : ¬0 < own.credit := by omega
          unfold waitCost at *
          rw [if_neg exhausted] at *
          rw [backEq] at cost
          simp only [creditSum_append, creditSum_cons] at *
          omega
  · cases middle with
    | nil =>
        rw [List.nil_append, List.cons.injEq, Prod.mk.injEq] at tailEq
        exact False.elim (other tailEq.1.1)
    | cons head middle =>
        rw [List.cons_append, List.cons.injEq] at tailEq
        obtain ⟨rfl, afterEq⟩ := tailEq
        refine ⟨before ++ (key, { q with credit := q.credit - 1, items := rest }) :: middle, own,
          back, ?_, items, ?_⟩
        · rw [result, afterEq]
          simp
        · unfold waitCost at *
          rw [frontEq] at cost
          simp only [creditSum_append, creditSum_cons, weightSum_append, weightSum_cons] at *
          split at cost
          · rename_i positive
            rw [if_pos positive]
            omega
          · rename_i exhausted
            rw [if_neg exhausted]
            omega

/-- Serving goes through dropping the drained queues and starting a round. -/
theorem waits_pop {s : FairScheduler} (wf : s.WellFormed) {jobId : JobId} {n : Int}
    (waits : Waits s.queues jobId n) (unserved : isServed jobId (.popped s.pop.2) = false) :
    Waits s.pop.1.queues jobId (n - 1) := by
  have keptWf : ∀ key q, (dropDrained s.queues).get? key = some q → QueueWellFormed key q :=
    fun key q read => wf.queue key q ((get?_dropDrained _ _ _).mp read).1
  have roundWf := (startRound_spec _ keptWf).1
  have kept : Waits (dropDrained s.queues) jobId n :=
    waits_keep wf.queue waits _ (fun q items => by simp [items])
  rcases s.pop_cases wf.queue with ⟨nothing, _⟩ |
    ⟨before, key, q, item, rest, after, split, shape, credit, spentBefore, result⟩
  · obtain ⟨front, own, back, listed, _, _⟩ := kept
    rw [nothing] at listed
    cases front <;> cases listed
  · rw [result] at unserved ⊢
    have other : key ≠ jobId := by
      intro same
      simp [isServed, same] at unserved
    exact waits_serve roundWf (waits_startRound keptWf kept) split shape credit spentBefore other

/-! ### Windows of consecutive pops -/

/-- Additions bring fresh ids and at least one item, and never more than
`crowd` jobs have pending items. -/
def CrowdAtMost (crowd : Nat) (s : FairScheduler) (op : SchedulerOp) (s' : FairScheduler) : Prop :=
  FreshOp s op ∧ (∀ jobId items priority, op = .addJob jobId items priority → items ≠ []) ∧
    pendingJobs s.queues ≤ crowd ∧ pendingJobs s'.queues ≤ crowd

def addedId : SchedulerEvent → Option JobId
  | .added jobId _ _ => some jobId
  | _ => none

def addedIds (events : List SchedulerEvent) : List JobId := events.filterMap addedId

def isPopped : SchedulerEvent → Bool
  | .popped _ => true
  | _ => false

def popCount (events : List SchedulerEvent) : Nat := events.countP isPopped

def isLate (jobId : JobId) : SchedulerEvent → Bool
  | .added _ _ spent => spent.contains jobId
  | _ => false

/-- The number of jobs added while `jobId` had pending items but no credit. -/
def lateArrivals (jobId : JobId) (events : List SchedulerEvent) : Nat :=
  events.countP (isLate jobId)

/-- A stretch of a run in which `jobId` has pending items before every `pop`. -/
structure WaitingWindow (crowd : Nat) (jobId : JobId) (history window : List SchedulerEvent)
    (s s' : FairScheduler) : Prop where
  reached : schedulerMachine.Reaches (CrowdAtMost crowd) history s
  run : schedulerMachine.Run
    (fun s op s' => CrowdAtMost crowd s op s' ∧ (op = .pop → s.jobPending jobId ≠ 0)) s window s'
  freshIds : (addedIds (history ++ window)).Nodup

private theorem addedIds_append (first second : List SchedulerEvent) :
    addedIds (first ++ second) = addedIds first ++ addedIds second :=
  List.filterMap_append

private theorem apply_queued (s : FairScheduler) (wf : s.WellFormed) (op : SchedulerOp)
    {jobId : JobId} (queued : ((s.apply op).1.queues.get? jobId).isSome) :
    (s.queues.get? jobId).isSome ∨ addedId (s.apply op).2 = some jobId := by
  cases op with
  | addJob other items priority =>
      simp only [apply, addJob, Dict.get?_set] at queued
      by_cases same : jobId = other
      · exact Or.inr (congrArg some same.symm)
      · rw [if_neg same] at queued
        exact Or.inl queued
  | removeJob other =>
      left
      simp only [apply, get?_removeJob] at queued
      split at queued
      · cases queued
      · exact queued
  | pop =>
      left
      have kept : ∀ key, ((dropDrained s.queues).get? key).isSome →
          (s.queues.get? key).isSome := by
        intro key present
        obtain ⟨q, read⟩ := Option.isSome_iff_exists.mp present
        rw [((get?_dropDrained _ _ _).mp read).1]
        rfl
      have round : ∀ key, ((startRound (dropDrained s.queues)).get? key).isSome →
          (s.queues.get? key).isSome := by
        intro key present
        apply kept
        unfold startRound at present
        split at present
        · exact present
        · unfold resetCredits at present
          rw [Dict.get?_mapValues, Option.isSome_map] at present
          exact present
      simp only [apply] at queued
      rcases s.pop_cases wf.queue with ⟨_, result⟩ |
        ⟨_, key, q, item, rest, _, split, _, _, _, result⟩
      · rw [result] at queued
        exact kept jobId queued
      · rw [result] at queued
        simp only [Dict.get?_set] at queued
        by_cases same : jobId = key
        · subst same
          have read : (startRound (dropDrained s.queues)).get? jobId = some q := by
            rw [← Dict.mem_entries_iff, split]
            simp
          apply round
          rw [read]
          rfl
        · rw [if_neg same] at queued
          exact round jobId queued

private theorem queued_of_jobPending {s : FairScheduler} {jobId : JobId}
    (pending : s.jobPending jobId ≠ 0) :
    ∃ q, s.queues.get? jobId = some q ∧ q.items ≠ [] := by
  unfold jobPending itemsOf queuedItems at pending
  cases found : s.queues.get? jobId with
  | none =>
      rw [found] at pending
      exact False.elim (pending rfl)
  | some q =>
      rw [found] at pending
      exact ⟨q, rfl, fun none => pending (by simp [none])⟩

/-- Where the account of a window stands: what the job may still wait, and how
many pops there have been. -/
structure Account (crowd : Nat) (jobId : JobId) (history events : List SchedulerEvent)
    (s : FairScheduler) : Prop where
  wellFormed : s.WellFormed
  queued : ∀ other, (s.queues.get? other).isSome → other ∈ addedIds (history ++ events)
  bound : (popCount events : Int) ≤ 8 * crowd + 4 * lateArrivals jobId events
  waiting : s.jobPending jobId ≠ 0 →
    Waits s.queues jobId (8 * crowd + 4 * lateArrivals jobId events - popCount events)
  started : jobId ∈ addedIds (history ++ events) ∨ popCount events = 0

private theorem account_queued {crowd : Nat} {jobId : JobId}
    {history events : List SchedulerEvent} {s : FairScheduler}
    (account : Account crowd jobId history events s) (op : SchedulerOp) {other : JobId}
    (present : ((s.apply op).1.queues.get? other).isSome) :
    other ∈ addedIds (history ++ (events ++ [(s.apply op).2])) := by
  rw [← List.append_assoc, addedIds_append, List.mem_append]
  rcases apply_queued s account.wellFormed op present with before | added
  · exact Or.inl (account.queued other before)
  · right
    simp [addedIds, added]

/-- An arrival of another job costs its weight when the job is out of credit. -/
private theorem waits_addJob {s : FairScheduler} {jobId other : JobId} {n : Int}
    (waits : Waits s.queues jobId n) (items : List WorkItem) (priority : Priority)
    (fresh : s.queues.get? other = none) :
    Waits (s.addJob other items priority).queues jobId
      (n + 4 * (if s.spentJobs.contains jobId then 1 else 0)) := by
  obtain ⟨before, q, after, split, own, cost⟩ := waits
  have weights := priorityWeights_bounds priority
  refine ⟨before, q, after ++ [(other, { jobId := other
                                         weight := priorityWeights priority
                                         items := items
                                         credit := priorityWeights priority })], ?_, own, ?_⟩
  · simp only [addJob]
    rw [Dict.entries_set_of_get?_none _ _ fresh, split]
    simp
  · unfold waitCost at *
    by_cases positive : 0 < q.credit
    · rw [if_pos positive] at *
      split <;> omega
    · have spent : s.spentJobs.contains jobId = true := by
        rw [List.contains_iff_mem]
        unfold spentJobs
        rw [Dict.mem_keys_iff]
        refine ⟨q, ?_⟩
        have read : s.queues.get? jobId = some q := by
          rw [← Dict.mem_entries_iff, split]
          simp
        rw [Dict.get?_keep, read]
        have exhausted : q.credit ≤ 0 := by omega
        simp [Option.filter, hasItems, own, exhausted]
      rw [if_neg positive] at *
      rw [spent, if_pos rfl, creditSum_append]
      have newCredit : creditSum [(other, { jobId := other
                                            weight := priorityWeights priority
                                            items := items
                                            credit := priorityWeights priority })] ≤ 4 := by
        unfold creditSum creditOf
        simp only [List.map_cons, List.map_nil, List.sum_cons, List.sum_nil, add_zero]
        split <;> omega
      omega

private theorem account_addJob {crowd : Nat} {jobId other : JobId}
    {history events : List SchedulerEvent} {s : FairScheduler} {items : List WorkItem}
    {priority : Priority} (account : Account crowd jobId history events s)
    (fresh : s.queues.get? other = none)
    (crowded : pendingJobs (s.addJob other items priority).queues ≤ crowd)
    (distinct : (addedIds (history ++ (events ++ [.added other items s.spentJobs]))).Nodup) :
    Account crowd jobId history (events ++ [.added other items s.spentJobs])
      (s.addJob other items priority) := by
  have wf := s.addJob_wellFormed account.wellFormed other items priority fresh
  have pops : popCount (events ++ [.added other items s.spentJobs]) = popCount events := by
    simp [popCount, isPopped]
  have late : (lateArrivals jobId (events ++ [.added other items s.spentJobs]) : Int) =
      lateArrivals jobId events + (if s.spentJobs.contains jobId then 1 else 0) := by
    unfold lateArrivals
    have whether : isLate jobId (.added other items s.spentJobs) =
        s.spentJobs.contains jobId := rfl
    rw [List.countP_append, List.countP_singleton, whether]
    by_cases spent : s.spentJobs.contains jobId = true
    · rw [if_pos spent, if_pos spent, Nat.cast_add, Nat.cast_one]
    · rw [if_neg spent, if_neg spent, Nat.cast_add, Nat.cast_zero]
  have bound := account.bound
  refine
    { wellFormed := wf
      queued := fun key present => account_queued account (.addJob other items priority) present
      bound := ?_
      waiting := ?_
      started := ?_ }
  · rw [pops, late]
    split <;> omega
  · intro pending
    rw [pops, late]
    by_cases same : jobId = other
    · -- The job itself arrives: there was no pop yet, and the general bound applies.
      subst same
      have absent : jobId ∉ addedIds (history ++ events) := by
        intro member
        rw [← List.append_assoc, addedIds_append, List.nodup_append] at distinct
        exact distinct.2.2 jobId member jobId (by simp [addedIds, addedId]) rfl
      have noPop := account.started.resolve_left absent
      obtain ⟨q, read, own⟩ := queued_of_jobPending pending
      obtain ⟨before, q', after, split, own', cost⟩ :=
        waits_of_pendingJobs wf.queue read own crowded
      refine ⟨before, q', after, split, own', ?_⟩
      split <;> omega
    · have before : s.jobPending jobId ≠ 0 := by
        unfold jobPending at *
        rw [itemsOf_addJob, if_neg same] at pending
        exact pending
      have waits := waits_addJob (account.waiting before) items priority fresh
      have amount : (8 * (crowd : Int) + 4 * lateArrivals jobId events - popCount events +
          4 * (if s.spentJobs.contains jobId then 1 else 0)) =
          8 * crowd + 4 * (lateArrivals jobId events +
            (if s.spentJobs.contains jobId then 1 else 0)) - popCount events := by
        ring
      rw [amount] at waits
      exact waits
  · rw [pops, ← List.append_assoc, addedIds_append]
    exact account.started.imp_left (List.mem_append_left _)

private theorem account_removeJob {crowd : Nat} {jobId other : JobId}
    {history events : List SchedulerEvent} {s : FairScheduler} {count : Nat}
    (account : Account crowd jobId history events s)
    (same : (s.apply (.removeJob other)).2 = .removed other count) :
    Account crowd jobId history (events ++ [.removed other count]) (s.removeJob other).1 := by
  have pops : popCount (events ++ [.removed other count]) = popCount events := by
    simp [popCount, isPopped]
  have late : lateArrivals jobId (events ++ [.removed other count]) =
      lateArrivals jobId events := by
    simp [lateArrivals, isLate]
  refine
    { wellFormed := s.removeJob_wellFormed account.wellFormed other
      queued := fun key present =>
        same ▸ account_queued account (.removeJob other) present
      bound := by rw [pops, late]; exact account.bound
      waiting := ?_
      started := ?_ }
  · intro pending
    rw [pops, late]
    unfold jobPending at pending
    rw [itemsOf_removeJob] at pending
    by_cases own : jobId = other
    · rw [if_pos own] at pending
      exact False.elim (pending rfl)
    · rw [if_neg own] at pending
      have waits := account.waiting pending
      unfold removeJob
      cases found : s.queues.get? other with
      | none => exact waits
      | some q =>
          exact waits_keep account.wellFormed.queue waits _ (fun _ _ => by simp [own])
  · rw [pops, ← List.append_assoc, addedIds_append]
    exact account.started.imp_left (List.mem_append_left _)

private theorem account_pop {crowd : Nat} {jobId : JobId}
    {history events : List SchedulerEvent} {s : FairScheduler}
    (account : Account crowd jobId history events s) (pending : s.jobPending jobId ≠ 0)
    (unserved : isServed jobId (.popped s.pop.2) = false) :
    Account crowd jobId history (events ++ [.popped s.pop.2]) s.pop.1 := by
  have wf := s.pop_wellFormed account.wellFormed
  have pops : (popCount (events ++ [.popped s.pop.2]) : Int) = popCount events + 1 := by
    simp [popCount, isPopped]
  have late : lateArrivals jobId (events ++ [.popped s.pop.2]) = lateArrivals jobId events := by
    simp [lateArrivals, isLate]
  have waits := waits_pop account.wellFormed (account.waiting pending) unserved
  have nonneg := waits_nonneg wf.queue waits
  refine
    { wellFormed := wf
      queued := fun key present => account_queued account .pop present
      bound := by rw [pops, late]; omega
      waiting := ?_
      started := ?_ }
  · intro _
    rw [pops, late]
    have amount : (8 * (crowd : Int) + 4 * lateArrivals jobId events - popCount events - 1) =
        8 * crowd + 4 * lateArrivals jobId events - (popCount events + 1) := by
      ring
    rw [amount] at waits
    exact waits
  · left
    obtain ⟨q, read, _⟩ := queued_of_jobPending pending
    have present := account.queued jobId (by rw [read]; rfl)
    rw [← List.append_assoc, addedIds_append]
    exact List.mem_append_left _ present

/-- In a crowd of bounded size, only added jobs are queued. -/
private theorem reachable_crowd {crowd : Nat} {events : List SchedulerEvent}
    {s : FairScheduler} (reached : schedulerMachine.Reaches (CrowdAtMost crowd) events s) :
    (∀ other, (s.queues.get? other).isSome → other ∈ addedIds events) ∧
      pendingJobs s.queues ≤ crowd := by
  have facts := reached.along WellFormed
    (fun earlier => reachable_wellFormed (fun _ _ _ admissible => admissible.1) earlier)
  refine Machine.Run.invariant facts
    (fun events s => (∀ other, (s.queues.get? other).isSome → other ∈ addedIds events) ∧
      pendingJobs s.queues ≤ crowd) ⟨fun _ present => (by cases present), Nat.zero_le _⟩ ?_
  intro events _ s s' op ⟨queued, _⟩ ⟨admissible, wf⟩ stepped
  obtain ⟨rfl, rfl⟩ := step_eq stepped
  refine ⟨fun other present => ?_, admissible.2.2.2⟩
  rw [addedIds_append, List.mem_append]
  rcases apply_queued s wf op present with before | added
  · exact Or.inl (queued other before)
  · right
    simp [addedIds, added]

/-- While the job is not served, every admissible step keeps the account. -/
private theorem window_account {crowd : Nat} {jobId : JobId}
    {history window : List SchedulerEvent} {s s' : FairScheduler}
    (given : WaitingWindow crowd jobId history window s s')
    (unserved : servedCount jobId window = 0) : Account crowd jobId history window s' := by
  obtain ⟨reached, run, distinct⟩ := given
  have wf : s.WellFormed :=
    reachable_wellFormed (fun _ _ _ admissible => admissible.1) reached
  obtain ⟨queued, crowded⟩ := reachable_crowd reached
  have whole := run.invariant
    (fun events t => (addedIds (history ++ events)).Nodup → servedCount jobId events = 0 →
      Account crowd jobId history events t) ?_ ?_
  · exact whole distinct unserved
  · intro _ _
    refine
      { wellFormed := wf
        queued := by rw [List.append_nil]; exact queued
        bound := by simp [popCount, lateArrivals]
        waiting := ?_
        started := Or.inr rfl }
    intro pending
    obtain ⟨q, read, own⟩ := queued_of_jobPending pending
    have waits := waits_of_pendingJobs wf.queue read own crowded
    simpa [popCount, lateArrivals] using waits
  · intro events emitted t t' op ih admissible stepped distinctHere unservedHere
    obtain ⟨⟨fresh, _, _, crowdedAfter⟩, pendingBefore⟩ := admissible
    obtain ⟨rfl, rfl⟩ := step_eq stepped
    unfold servedCount at unservedHere
    rw [List.countP_append, List.countP_singleton] at unservedHere
    have earlier : (addedIds (history ++ events)).Nodup := by
      rw [← List.append_assoc, addedIds_append] at distinctHere
      exact distinctHere.of_append_left
    have account := ih earlier (by unfold servedCount; omega)
    have quiet : isServed jobId (t.apply op).2 = false := by
      cases served : isServed jobId (t.apply op).2 with
      | false => rfl
      | true =>
          rw [served, if_pos rfl] at unservedHere
          omega
    cases op with
    | addJob other items priority =>
        exact account_addJob account fresh crowdedAfter distinctHere
    | removeJob other => exact account_removeJob account rfl
    | pop => exact account_pop account (pendingBefore rfl) quiet

/-- A job that is not served waits for at most eight pops per pending job and
four more for each late arrival. -/
theorem pops_without_service {crowd : Nat} {jobId : JobId}
    {history window : List SchedulerEvent} {s s' : FairScheduler}
    (given : WaitingWindow crowd jobId history window s s')
    (unserved : servedCount jobId window = 0) :
    popCount window ≤ 8 * crowd + 4 * lateArrivals jobId window := by
  have bound := (window_account given unserved).bound
  omega

private def nineItems : List WorkItem :=
  (List.range 9).map (fun n =>
    { seq := n
      id := "item"
      prompt := "text" })

private def nineServed : List SchedulerEvent :=
  .added "only" nineItems [] :: nineItems.map (fun item => .popped (some ("only", item)))

private def checkedSingle (s : FairScheduler) (op : SchedulerOp) (s' : FairScheduler) : Bool :=
  (match op with
    | .addJob jobId items _ => (s.queues.get? jobId).isNone && !items.isEmpty
    | .removeJob _ => true
    | .pop => s.jobPending "only" != 0) &&
  (decide (pendingJobs s.queues ≤ 1) && decide (pendingJobs s'.queues ≤ 1))

private theorem checkedSingle_sound (s : FairScheduler) (op : SchedulerOp) (s' : FairScheduler)
    (checked : checkedSingle s op s' = true) :
    CrowdAtMost 1 s op s' ∧ (op = .pop → s.jobPending "only" ≠ 0) := by
  unfold checkedSingle at checked
  simp only [Bool.and_eq_true, decide_eq_true_eq] at checked
  obtain ⟨admissible, few, fewAfter⟩ := checked
  cases op with
  | addJob jobId items priority =>
      simp only [Bool.and_eq_true, Option.isNone_iff_eq_none, Bool.not_eq_true',
        List.isEmpty_eq_false_iff] at admissible
      refine ⟨⟨admissible.1, ?_, few, fewAfter⟩, fun same => (by cases same)⟩
      intro _ _ _ same
      cases same
      exact admissible.2
  | removeJob jobId =>
      exact ⟨⟨trivial, fun _ _ _ same => (by cases same), few, fewAfter⟩,
        fun same => (by cases same)⟩
  | pop =>
      exact ⟨⟨trivial, fun _ _ _ same => (by cases same), few, fewAfter⟩,
        fun _ => bne_iff_ne.mp admissible⟩

private def victim : JobId := "victim"

private def passerBy (n : Nat) : JobId := String.ofList ('p' :: List.replicate n 'x')

private theorem passerBy_injective {m n : Nat} (same : passerBy m = passerBy n) : m = n := by
  have lists := congrArg (fun name => name.toList.length) same
  simpa [passerBy] using lists

private theorem passerBy_ne_victim (n : Nat) : passerBy n ≠ victim := by
  intro same
  have lists := congrArg String.toList same
  simp [passerBy, victim] at lists

private def prompt : WorkItem :=
  { seq := 0
    id := "prompt-1"
    prompt := "text" }

/-- The victim has spent its credit, one of its items is still pending, and
all passers-by that are still listed are drained. -/
private structure Starving (n : Nat) (s : FairScheduler) : Prop where
  wellFormed : s.WellFormed
  listed : ∃ q rest, s.queues.entries = (victim, q) :: rest ∧ q.items = [prompt] ∧
    q.credit = 0 ∧ ∀ entry ∈ rest, entry.2.items = [] ∧ ∃ m < n, entry.1 = passerBy m

private def firstState : FairScheduler :=
  (empty.addJob victim [prompt, prompt] .low).pop.1

private def firstEvents : List SchedulerEvent :=
  [.added victim [prompt, prompt] [], .popped (some (victim, prompt))]

private theorem first_reached :
    schedulerMachine.Reaches (CrowdAtMost 2) firstEvents firstState := by
  have added : schedulerMachine.Reaches (CrowdAtMost 2) ([] ++ [.added victim [prompt, prompt] []])
      (empty.addJob victim [prompt, prompt] .low) := by
    refine Machine.Run.refl.snoc (.addJob victim [prompt, prompt] .low) ⟨rfl, ?_, ?_, ?_⟩ rfl
    · intro jobId items priority same
      cases same
      exact List.cons_ne_nil _ _
    · decide
    · decide
  refine added.snoc .pop ⟨trivial, ?_, ?_, ?_⟩ rfl
  · intro jobId items priority same
    cases same
  · decide
  · decide

private theorem first_starving : Starving 0 firstState where
  wellFormed := pop_wellFormed _ (addJob_wellFormed _ wellFormed_empty _ _ _ rfl)
  listed := ⟨{ jobId := victim
               weight := 1
               items := [prompt]
               credit := 0 }, [], rfl, rfl, rfl, fun _ member => by cases member⟩

private theorem starving_pendingJobs {n : Nat} {s : FairScheduler} (starving : Starving n s) :
    pendingJobs s.queues = 1 ∧ s.jobPending victim ≠ 0 ∧
      s.queues.get? (passerBy n) = none := by
  obtain ⟨q, rest, split, items, _, drained⟩ := starving.listed
  refine ⟨?_, ?_, ?_⟩
  · unfold pendingJobs Dict.total
    simp only [split, List.map_cons, List.sum_cons, items]
    have none : (rest.map (fun entry => if entry.2.items.isEmpty then 0 else 1)).sum = 0 := by
      apply List.sum_eq_zero
      intro amount member
      obtain ⟨entry, entryMember, rfl⟩ := List.mem_map.mp member
      simp [(drained entry entryMember).1]
    rw [none]
    rfl
  · have read : s.queues.get? victim = some q := by
      rw [← Dict.mem_entries_iff, split]
      exact List.mem_cons_self
    unfold jobPending itemsOf queuedItems
    rw [read]
    simp [items]
  · rw [← Dict.not_mem_keys_iff]
    unfold Dict.keys
    rw [split, List.map_cons, List.mem_cons, not_or]
    refine ⟨passerBy_ne_victim n, ?_⟩
    intro member
    obtain ⟨entry, entryMember, same⟩ := List.mem_map.mp member
    obtain ⟨m, earlier, named⟩ := (drained entry entryMember).2
    have equal := passerBy_injective (named.symm.trans same)
    omega

/-- One more passer-by arrives and is served at once. -/
private theorem starving_round {n : Nat} {s : FairScheduler} (starving : Starving n s) :
    pendingJobs (s.addJob (passerBy n) [prompt] .low).queues = 2 ∧
      (s.addJob (passerBy n) [prompt] .low).jobPending victim ≠ 0 ∧
      (s.addJob (passerBy n) [prompt] .low).pop.2 = some (passerBy n, prompt) ∧
      Starving (n + 1) (s.addJob (passerBy n) [prompt] .low).pop.1 := by
  obtain ⟨alone, pending, fresh⟩ := starving_pendingJobs starving
  have wf := s.addJob_wellFormed starving.wellFormed (passerBy n) [prompt] .low fresh
  obtain ⟨q, rest, split, items, spent, drained⟩ := starving.listed
  have kept : (dropDrained (s.addJob (passerBy n) [prompt] .low).queues).entries =
      [(victim, q), (passerBy n, { jobId := passerBy n
                                   weight := 1
                                   items := [prompt]
                                   credit := 1 })] := by
    unfold dropDrained Dict.keep addJob
    simp only
    rw [Dict.entries_set_of_get?_none _ _ fresh, split]
    have gone : rest.filter (fun entry => !entry.2.items.isEmpty) = [] := by
      apply List.filter_eq_nil_iff.mpr
      intro entry member
      simp [(drained entry member).1]
    simp [items, gone, priorityWeights]
  have round : startRound (dropDrained (s.addJob (passerBy n) [prompt] .low).queues) =
      dropDrained (s.addJob (passerBy n) [prompt] .low).queues := by
    unfold startRound
    apply if_pos
    unfold Dict.values
    rw [kept]
    simp
  refine ⟨?_, ?_, ?_⟩
  · unfold pendingJobs at *
    simp only [addJob, Dict.total_set_of_get?_none _ _ _ fresh]
    rw [alone]
    rfl
  · unfold jobPending at *
    rw [itemsOf_addJob, if_neg (Ne.symm (passerBy_ne_victim n))]
    exact pending
  · rcases pop_cases _ wf.queue with ⟨nothing, _⟩ |
      ⟨before, key, served, item, left, after, servedSplit, shape, credit, _, result⟩
    · rw [kept] at nothing
      cases nothing
    · rw [round] at servedSplit result
      have listing := kept.symm.trans servedSplit
      -- The victim stands first, but without credit it is passed over.
      cases before with
      | nil =>
          rw [List.nil_append, List.cons.injEq, Prod.mk.injEq] at listing
          rw [← listing.1.2, spent] at credit
          exact False.elim (lt_irrefl 0 credit)
      | cons head before =>
          rw [List.cons_append, List.cons.injEq] at listing
          obtain ⟨rfl, listing⟩ := listing
          cases before with
          | cons other before =>
              rw [List.cons_append, List.cons.injEq] at listing
              exact False.elim (by simpa using listing.2)
          | nil =>
              rw [List.nil_append, List.cons.injEq, Prod.mk.injEq] at listing
              obtain ⟨⟨rfl, rfl⟩, rfl⟩ := listing
              simp only [List.cons.injEq] at shape
              obtain ⟨rfl, rfl⟩ := shape
              rw [result]
              refine ⟨rfl, ?_⟩
              refine
                { wellFormed := result ▸ pop_wellFormed _ wf
                  listed := ⟨q, _, Dict.entries_set_of_split _ _ servedSplit, items, spent, ?_⟩ }
              intro entry member
              have same := List.mem_singleton.mp member
              subst same
              exact ⟨rfl, n, by omega, rfl⟩

private theorem starving_window (n : Nat) :
    ∃ window s, WaitingWindow 2 victim firstEvents window firstState s ∧ Starving n s ∧
      popCount window = n ∧ servedCount victim window = 0 ∧
      addedIds window = (List.range n).map passerBy := by
  induction n with
  | zero =>
      refine ⟨[], firstState, ?_, first_starving, rfl, rfl, rfl⟩
      exact { reached := first_reached
              run := .refl
              freshIds := by decide }
  | succ n ih =>
      obtain ⟨window, s, given, starving, pops, unserved, ids⟩ := ih
      obtain ⟨alone, pending, fresh⟩ := starving_pendingJobs starving
      obtain ⟨two, stillPending, served, next⟩ := starving_round starving
      have afterwards : pendingJobs ((s.addJob (passerBy n) [prompt] .low).apply .pop).1.queues
          ≤ 2 := (starving_pendingJobs next).1.le.trans (by omega)
      have added := given.run.snoc (.addJob (passerBy n) [prompt] .low)
        ⟨⟨fresh, fun _ _ _ same => (by cases same; exact List.cons_ne_nil _ _), by omega,
          two.le⟩, fun same => (by cases same)⟩ rfl
      have popped := added.snoc .pop
        ⟨⟨trivial, fun _ _ _ same => (by cases same), two.le, afterwards⟩,
          fun _ => stillPending⟩ rfl
      refine ⟨_, _, ⟨first_reached, popped, ?_⟩, next, ?_, ?_, ?_⟩
      · have names : (List.range (n + 1)).map passerBy =
            (List.range n).map passerBy ++ [passerBy n] := by
          rw [List.range_succ, List.map_append]
          rfl
        have distinct : ((List.range (n + 1)).map passerBy).Nodup :=
          List.Nodup.map (fun _ _ => passerBy_injective) List.nodup_range
        have listed : addedIds (firstEvents ++ (window ++
            [(s.apply (.addJob (passerBy n) [prompt] .low)).2] ++ [(FairScheduler.apply
              (s.addJob (passerBy n) [prompt] .low) .pop).2])) =
            victim :: (List.range (n + 1)).map passerBy := by
          rw [names, ← ids, addedIds_append, addedIds_append, addedIds_append]
          change [victim] ++ (addedIds window ++ [passerBy n] ++ []) = _
          rw [List.append_nil]
          rfl
        rw [show _ = _ from listed, List.nodup_cons]
        refine ⟨?_, distinct⟩
        intro member
        obtain ⟨m, _, same⟩ := List.mem_map.mp member
        exact passerBy_ne_victim m same
      · simp [popCount, isPopped, apply]
        exact pops
      · simp only [servedCount, List.countP_append] at unserved ⊢
        rw [unserved]
        simp [isServed, apply, served, passerBy_ne_victim]
      · rw [List.range_succ, List.map_append, ← ids, addedIds_append, addedIds_append]
        exact List.append_nil _

end BatchInference.SchedulerStarvation
