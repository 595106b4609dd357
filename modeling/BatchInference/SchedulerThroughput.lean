/-
Throughput proportional to the priority weight.

Along the insertion order the credits read: spent queues, then at most one that
is partly used, then full ones. While two jobs stay queued, the difference of
their weighted service counts is the change of the lead of one over the other.
-/

import BatchInference.SchedulerRuns

set_option autoImplicit false

namespace BatchInference

def JobQueue.share (q : JobQueue) : Share :=
  { weight := q.weight
    credit := q.credit }

namespace SchedulerThroughput

open FairScheduler SchedulerRuns

/-- Zeros, then at most one partly used credit, then full ones. -/
def Orderly (queues : Dict JobId JobQueue) : Prop :=
  queues.entries.Pairwise (fun earlier later => Share.InTurn earlier.2.share later.2.share)

private theorem orderly_keep (queues : Dict JobId JobQueue) (test : JobId → JobQueue → Bool)
    (orderly : Orderly queues) : Orderly (queues.keep test) :=
  List.Pairwise.sublist List.filter_sublist orderly

private theorem orderly_resetCredits (queues : Dict JobId JobQueue) :
    Orderly (resetCredits queues) := by
  apply List.pairwise_of_forall_mem_list
  intro earlier _ later laterMember
  obtain ⟨entry, _, rfl⟩ := List.mem_map.mp laterMember
  exact Or.inr rfl

private theorem orderly_startRound (queues : Dict JobId JobQueue) (orderly : Orderly queues) :
    Orderly (startRound queues) := by
  unfold startRound
  split
  · exact orderly
  · exact orderly_resetCredits queues

private theorem orderly_serve (round : Dict JobId JobQueue) (orderly : Orderly round)
    {before after : List (JobId × JobQueue)} {key : JobId} {q served : JobQueue}
    (split : round.entries = before ++ (key, q) :: after)
    (spentBefore : ∀ entry ∈ before, entry.2.credit = 0) (credit : 0 < q.credit) :
    Orderly (round.set key served) := by
  unfold Orderly at *
  rw [round.entries_set_of_split served split]
  rw [split, List.pairwise_append, List.pairwise_cons] at orderly
  obtain ⟨inBefore, ⟨fullAfter, inAfter⟩, _across⟩ := orderly
  have full : ∀ entry ∈ after, entry.2.credit = entry.2.weight := by
    intro entry member
    rcases fullAfter entry member with spent | untouched
    · have zero : q.credit = 0 := spent
      omega
    · exact untouched
  rw [List.pairwise_append, List.pairwise_cons]
  refine ⟨inBefore, ⟨fun entry member => Or.inr (full entry member), inAfter⟩, ?_⟩
  intro entry member _ _
  exact Or.inl (spentBefore entry member)

theorem apply_orderly (s : FairScheduler) (wf : s.WellFormed) (op : SchedulerOp)
    (fresh : FreshOp s op) (orderly : Orderly s.queues) : Orderly (s.apply op).1.queues := by
  cases op with
  | addJob jobId items priority =>
      unfold Orderly
      simp only [apply, addJob]
      rw [Dict.entries_set_of_get?_none _ _ fresh, List.pairwise_append]
      refine ⟨orderly, List.pairwise_singleton _ _, ?_⟩
      intro entry _ new newMember
      rw [List.mem_singleton] at newMember
      subst newMember
      exact Or.inr rfl
  | removeJob jobId =>
      simp only [apply, removeJob]
      cases s.queues.get? jobId with
      | none => exact orderly
      | some q => exact orderly_keep s.queues _ orderly
  | pop =>
      have kept : Orderly (dropDrained s.queues) := orderly_keep s.queues _ orderly
      simp only [apply]
      rcases s.pop_cases wf.queue with ⟨_, result⟩ |
        ⟨before, key, q, item, rest, after, split, _, credit, spentBefore, result⟩
      · rw [result]
        exact kept
      · rw [result]
        exact orderly_serve _ (orderly_startRound _ kept) split spentBefore credit

/-- The representation invariant that the credits obey in every reachable state. -/
theorem reachable_orderly {events : List SchedulerEvent} {s : FairScheduler}
    (reached : schedulerMachine.Reaches freshAdds events s) :
    s.WellFormed ∧ Orderly s.queues := by
  have wellFormed : ∀ {events s}, schedulerMachine.Reaches freshAdds events s → s.WellFormed :=
    fun earlier => reachable_wellFormed (fun _ _ _ fresh => fresh) earlier
  have facts := reached.along WellFormed wellFormed
  refine ⟨wellFormed reached, ?_⟩
  refine Machine.Run.invariant facts (fun _ s => Orderly s.queues) List.Pairwise.nil ?_
  intro _ _ s s' op orderly admissible stepped
  rw [(step_eq stepped).1]
  exact apply_orderly s admissible.2 op admissible.1 orderly

/-! ### The order of two queued jobs -/

/-- `first` stands before `second` in the insertion order. -/
def Precedes (s : FairScheduler) (first second : JobId) : Prop :=
  [first, second].Sublist s.queues.keys

theorem precedes_total (s : FairScheduler) {i j : JobId} (different : i ≠ j)
    (iQueued : i ∈ s.queues.keys) (jQueued : j ∈ s.queues.keys) :
    Precedes s i j ∨ Precedes s j i := by
  unfold Precedes
  generalize s.queues.keys = keys at *
  induction keys with
  | nil => cases iQueued
  | cons head tail ih =>
      by_cases iHead : i = head
      · left
        subst iHead
        exact (List.singleton_sublist.mpr
          ((List.mem_cons.mp jQueued).resolve_left (Ne.symm different))).cons_cons i
      · by_cases jHead : j = head
        · right
          subst jHead
          exact (List.singleton_sublist.mpr
            ((List.mem_cons.mp iQueued).resolve_left different)).cons_cons j
        · rcases ih ((List.mem_cons.mp iQueued).resolve_left iHead)
            ((List.mem_cons.mp jQueued).resolve_left jHead) with before | after
          · exact Or.inl (before.cons head)
          · exact Or.inr (after.cons head)

/-- The earlier of two jobs has spent its credit or the later one is full. -/
theorem inTurn_of_precedes (s : FairScheduler) (orderly : Orderly s.queues) {i j : JobId}
    {qi qj : JobQueue} (before : Precedes s i j) (iRead : s.queues.get? i = some qi)
    (jRead : s.queues.get? j = some qj) : Share.InTurn qi.share qj.share := by
  obtain ⟨pair, pairSublist, pairKeys⟩ := List.sublist_map_iff.mp before
  obtain ⟨a, tail, rfl, iKey, tailKeys⟩ := List.map_eq_cons_iff.mp pairKeys.symm
  obtain ⟨b, last, rfl, jKey, lastKeys⟩ := List.map_eq_cons_iff.mp tailKeys
  have aMember : (a.1, a.2) ∈ s.queues.entries := pairSublist.subset List.mem_cons_self
  have bMember : (b.1, b.2) ∈ s.queues.entries :=
    pairSublist.subset (List.mem_cons_of_mem _ List.mem_cons_self)
  rw [Dict.mem_entries_iff, iKey, iRead, Option.some.injEq] at aMember
  rw [Dict.mem_entries_iff, jKey, jRead, Option.some.injEq] at bMember
  have ordered := List.Pairwise.sublist pairSublist orderly
  rw [List.pairwise_cons] at ordered
  have turn := ordered.1 b List.mem_cons_self
  rw [aMember, bMember]
  exact turn

theorem keys_startRound (queues : Dict JobId JobQueue) :
    (startRound queues).keys = queues.keys := by
  unfold Dict.keys
  rw [startRound_entries, List.map_map]
  rfl

/-- Two jobs that stay queued keep their order under every operation. -/
theorem apply_precedes (s : FairScheduler) (wf : s.WellFormed) (op : SchedulerOp)
    (fresh : FreshOp s op) {i j : JobId} (before : Precedes s i j)
    (iKept : i ∈ (s.apply op).1.queues.keys) (jKept : j ∈ (s.apply op).1.queues.keys) :
    Precedes (s.apply op).1 i j := by
  unfold Precedes at *
  cases op with
  | addJob jobId items priority =>
      simp only [apply, addJob] at *
      unfold Dict.keys
      rw [Dict.entries_set_of_get?_none _ _ fresh, List.map_append]
      exact before.trans (List.sublist_append_left _ _)
  | removeJob jobId =>
      simp only [apply, removeJob] at *
      cases found : s.queues.get? jobId with
      | none =>
          rw [found] at iKept jKept
          exact before
      | some q =>
          rw [found] at iKept jKept
          exact s.queues.pair_sublist_keep _ before iKept jKept
  | pop =>
      simp only [apply] at *
      rcases s.pop_cases wf.queue with ⟨_, result⟩ |
        ⟨_, key, q, item, rest, _, split, _, _, _, result⟩
      · rw [result] at iKept jKept ⊢
        exact s.queues.pair_sublist_keep _ before iKept jKept
      · have listed : key ∈ (startRound (dropDrained s.queues)).keys := by
          unfold Dict.keys
          rw [split]
          simp
        rw [result] at iKept jKept ⊢
        simp only at *
        rw [Dict.keys_set_of_mem _ _ listed, keys_startRound] at iKept jKept ⊢
        exact s.queues.pair_sublist_keep _ before iKept jKept

/-! ### Service and lead -/

/-- Job `jobId` is queued with the share `a` and has a pending item. -/
def PendingShare (s : FairScheduler) (jobId : JobId) (a : Share) : Prop :=
  ∃ q, s.queues.get? jobId = some q ∧ q.items ≠ [] ∧ q.share = a

theorem PendingShare.bounded {s : FairScheduler} {jobId : JobId} {a : Share}
    (pending : PendingShare s jobId a) (wf : s.WellFormed) : a.Bounded := by
  obtain ⟨q, read, _, rfl⟩ := pending
  have credited := (wf.queue jobId q read).credited
  exact { nonneg := credited.1
          le_weight := credited.2 }

theorem PendingShare.mem_keys {s : FairScheduler} {jobId : JobId} {a : Share}
    (pending : PendingShare s jobId a) : jobId ∈ s.queues.keys := by
  obtain ⟨q, read, _, _⟩ := pending
  exact (Dict.mem_keys_iff _ _).mpr ⟨q, read⟩

/-- What a round start makes of two pending shares: both stay, or both were
exhausted and are refilled. -/
private theorem startRound_shares (s : FairScheduler) (wf : s.WellFormed) {i j : JobId}
    {qi qj : JobQueue} (iRead : s.queues.get? i = some qi) (iItems : qi.items ≠ [])
    (jRead : s.queues.get? j = some qj) (jItems : qj.items ≠ []) :
    ∃ ri rj, (startRound (dropDrained s.queues)).get? i = some ri ∧
      (startRound (dropDrained s.queues)).get? j = some rj ∧
      ri.weight = qi.weight ∧ rj.weight = qj.weight ∧
      Share.lead ri.share rj.share = Share.lead qi.share qj.share := by
  have keptWf : ∀ key q, (dropDrained s.queues).get? key = some q → QueueWellFormed key q :=
    fun key q read => wf.queue key q ((get?_dropDrained _ _ _).mp read).1
  have iKept := (get?_dropDrained s.queues i qi).mpr ⟨iRead, iItems⟩
  have jKept := (get?_dropDrained s.queues j qj).mpr ⟨jRead, jItems⟩
  rcases startRound_cases _ keptWf with same | ⟨exhausted, reset⟩
  · rw [same]
    exact ⟨qi, qj, iKept, jKept, rfl, rfl, rfl⟩
  · rw [reset]
    unfold resetCredits
    refine ⟨{ qi with credit := qi.weight }, { qj with credit := qj.weight }, ?_, ?_, rfl, rfl, ?_⟩
    · rw [Dict.get?_mapValues, iKept]
      rfl
    · rw [Dict.get?_mapValues, jKept]
      rfl
    · have iSpent : qi.share.credit = 0 := exhausted i qi iKept
      have jSpent : qj.share.credit = 0 := exhausted j qj jKept
      exact Share.lead_refill iSpent jSpent

/-- The number of items of `jobId` that one event returns. -/
def servedBy (jobId : JobId) (event : SchedulerEvent) : Int :=
  if isServed jobId event then 1 else 0

private theorem pop_lead (s : FairScheduler) (wf : s.WellFormed) {i j : JobId}
    (different : i ≠ j) {qi qj qi' qj' : JobQueue} (iRead : s.queues.get? i = some qi)
    (iItems : qi.items ≠ []) (jRead : s.queues.get? j = some qj) (jItems : qj.items ≠ [])
    (iRead' : s.pop.1.queues.get? i = some qi') (jRead' : s.pop.1.queues.get? j = some qj') :
    qi'.share.weight = qi.share.weight ∧ qj'.share.weight = qj.share.weight ∧
      Share.lead qi'.share qj'.share = Share.lead qi.share qj.share +
        servedBy i (.popped s.pop.2) * qj.share.weight -
          servedBy j (.popped s.pop.2) * qi.share.weight := by
  obtain ⟨ri, rj, iRound, jRound, iWeight, jWeight, leadSame⟩ :=
    startRound_shares s wf iRead iItems jRead jItems
  rcases s.pop_cases wf.queue with ⟨nothing, _⟩ |
    ⟨_, key, q, item, rest, _, split, _, _, _, result⟩
  · have iKept := (get?_dropDrained s.queues i qi).mpr ⟨iRead, iItems⟩
    rw [← Dict.mem_entries_iff, nothing] at iKept
    cases iKept
  · have keyRead : (startRound (dropDrained s.queues)).get? key = some q := by
      rw [← Dict.mem_entries_iff, split]
      simp
    rw [result] at iRead' jRead' ⊢
    simp only [servedBy, isServed, decide_eq_true_eq] at *
    rw [Dict.get?_set] at iRead' jRead'
    by_cases iServed : i = key
    · have jOther : j ≠ key := fun same => different (iServed.trans same.symm)
      rw [if_pos iServed, Option.some.injEq] at iRead'
      rw [if_neg jOther, jRound, Option.some.injEq] at jRead'
      rw [iServed, keyRead, Option.some.injEq] at iRound
      subst iRound iRead' jRead'
      rw [if_pos iServed.symm, if_neg (Ne.symm jOther)]
      refine ⟨iWeight, jWeight, ?_⟩
      have moved := Share.lead_spend_left q.share rj.share
      change Share.lead q.share.spend rj.share = _
      rw [moved, leadSame]
      change _ + rj.weight = _ + 1 * qj.weight - 0 * qi.weight
      rw [jWeight]
      ring
    · rw [if_neg iServed, iRound, Option.some.injEq] at iRead'
      by_cases jServed : j = key
      · rw [if_pos jServed, Option.some.injEq] at jRead'
        rw [jServed, keyRead, Option.some.injEq] at jRound
        subst jRound iRead' jRead'
        rw [if_pos jServed.symm, if_neg (Ne.symm iServed)]
        refine ⟨iWeight, jWeight, ?_⟩
        have moved := Share.lead_spend_right ri.share q.share
        change Share.lead ri.share q.share.spend = _
        rw [moved, leadSame]
        change _ - ri.weight = _ + 0 * qj.weight - 1 * qi.weight
        rw [iWeight]
        ring
      · rw [if_neg jServed, jRound, Option.some.injEq] at jRead'
        subst iRead' jRead'
        rw [if_neg (Ne.symm iServed), if_neg (Ne.symm jServed)]
        refine ⟨iWeight, jWeight, ?_⟩
        rw [leadSame]
        ring

/-- One operation moves the lead by exactly the weighted difference of what it
serves, and leaves the weights alone. -/
theorem apply_lead (s : FairScheduler) (wf : s.WellFormed) (op : SchedulerOp)
    (fresh : FreshOp s op) {i j : JobId} (different : i ≠ j) {a b a' b' : Share}
    (iBefore : PendingShare s i a) (jBefore : PendingShare s j b)
    (iAfter : PendingShare (s.apply op).1 i a') (jAfter : PendingShare (s.apply op).1 j b') :
    a'.weight = a.weight ∧ b'.weight = b.weight ∧
      Share.lead a' b' = Share.lead a b + servedBy i (s.apply op).2 * b.weight -
        servedBy j (s.apply op).2 * a.weight := by
  obtain ⟨qi, iRead, iItems, rfl⟩ := iBefore
  obtain ⟨qj, jRead, jItems, rfl⟩ := jBefore
  obtain ⟨qi', iRead', _, rfl⟩ := iAfter
  obtain ⟨qj', jRead', _, rfl⟩ := jAfter
  have unserved : qi' = qi → qj' = qj → servedBy i (s.apply op).2 = 0 →
      servedBy j (s.apply op).2 = 0 →
      qi'.share.weight = qi.share.weight ∧ qj'.share.weight = qj.share.weight ∧
        Share.lead qi'.share qj'.share = Share.lead qi.share qj.share +
          servedBy i (s.apply op).2 * qj.share.weight -
            servedBy j (s.apply op).2 * qi.share.weight := by
    intro iSame jSame iZero jZero
    rw [iSame, jSame, iZero, jZero]
    refine ⟨rfl, rfl, by ring⟩
  cases op with
  | addJob jobId items priority =>
      simp only [apply, addJob] at iRead' jRead'
      have other : ∀ key q, s.queues.get? key = some q → key ≠ jobId := by
        intro key q read same
        rw [same, fresh] at read
        cases read
      rw [Dict.get?_set_other _ _ (other i qi iRead), iRead, Option.some.injEq] at iRead'
      rw [Dict.get?_set_other _ _ (other j qj jRead), jRead, Option.some.injEq] at jRead'
      exact unserved iRead'.symm jRead'.symm rfl rfl
  | removeJob jobId =>
      have stays : ∀ key q q', s.queues.get? key = some q →
          (s.removeJob jobId).1.queues.get? key = some q' → q' = q := by
        intro key q q' read read'
        rw [get?_removeJob] at read'
        split at read'
        · cases read'
        · rw [read, Option.some.injEq] at read'
          exact read'.symm
      exact unserved (stays i qi qi' iRead iRead') (stays j qj qj' jRead jRead') rfl rfl
  | pop => exact pop_lead s wf different iRead iItems jRead jItems iRead' jRead'

/-- Both jobs have a pending item. -/
def BothPending (i j : JobId) (s : FairScheduler) : Prop :=
  s.jobPending i ≠ 0 ∧ s.jobPending j ≠ 0

theorem pendingShare_of_jobPending (s : FairScheduler) {jobId : JobId}
    (pending : s.jobPending jobId ≠ 0) : ∃ a, PendingShare s jobId a := by
  unfold jobPending itemsOf queuedItems at pending
  cases found : s.queues.get? jobId with
  | none =>
      rw [found] at pending
      exact False.elim (pending rfl)
  | some q =>
      rw [found] at pending
      exact ⟨q.share, q, found, fun none => pending (by simp [none]), rfl⟩

/-- An operation with a fresh id between two states in which both jobs wait. -/
def KeepsBoth (i j : JobId) (s : FairScheduler) (op : SchedulerOp) (s' : FairScheduler) : Prop :=
  FreshOp s op ∧ BothPending i j s ∧ BothPending i j s'

/-- The telescoped account of a run during which two jobs stay queued. -/
private theorem run_lead {s s' : FairScheduler} {events : List SchedulerEvent} {i j : JobId}
    (different : i ≠ j) {a b : Share} (wf : s.WellFormed) (orderly : Orderly s.queues)
    (iStart : PendingShare s i a) (jStart : PendingShare s j b) (before : Precedes s i j)
    (run : schedulerMachine.Run (KeepsBoth i j) s events s') :
    s'.WellFormed ∧ Orderly s'.queues ∧ Precedes s' i j ∧
      ∃ a' b', PendingShare s' i a' ∧ PendingShare s' j b' ∧
        a'.weight = a.weight ∧ b'.weight = b.weight ∧
        Share.lead a' b' = Share.lead a b + servedCount i events * b.weight -
          servedCount j events * a.weight := by
  refine run.invariant (fun events s' => s'.WellFormed ∧ Orderly s'.queues ∧ Precedes s' i j ∧
      ∃ a' b', PendingShare s' i a' ∧ PendingShare s' j b' ∧
        a'.weight = a.weight ∧ b'.weight = b.weight ∧
        Share.lead a' b' = Share.lead a b + servedCount i events * b.weight -
          servedCount j events * a.weight)
    ⟨wf, orderly, before, a, b, iStart, jStart, rfl, rfl, by simp [servedCount]⟩ ?_
  intro events emitted t t' op held admissible stepped
  obtain ⟨twf, tOrderly, tBefore, a₁, b₁, iHere, jHere, aWeight, bWeight, account⟩ := held
  obtain ⟨fresh, _, iPending, jPending⟩ := admissible
  obtain ⟨rfl, rfl⟩ := step_eq stepped
  obtain ⟨a₂, iNext⟩ := pendingShare_of_jobPending _ iPending
  obtain ⟨b₂, jNext⟩ := pendingShare_of_jobPending _ jPending
  obtain ⟨aKeeps, bKeeps, moved⟩ := apply_lead t twf op fresh different iHere jHere iNext jNext
  refine ⟨apply_wellFormed t twf op fresh, apply_orderly t twf op fresh tOrderly,
    apply_precedes t twf op fresh tBefore iNext.mem_keys jNext.mem_keys,
    a₂, b₂, iNext, jNext, aKeeps.trans aWeight, bKeeps.trans bWeight, ?_⟩
  have counted : ∀ jobId, (servedCount jobId (events ++ [(t.apply op).2]) : Int) =
      servedCount jobId events + servedBy jobId (t.apply op).2 := by
    intro jobId
    unfold servedCount servedBy
    rw [List.countP_append, List.countP_singleton]
    split <;> simp
  rw [moved, account, counted, counted, aWeight, bWeight]
  ring

private theorem run_bounds {s s' : FairScheduler} {events : List SchedulerEvent} {i j : JobId}
    (different : i ≠ j) {a b : Share} (wf : s.WellFormed) (orderly : Orderly s.queues)
    (iStart : PendingShare s i a) (jStart : PendingShare s j b) (before : Precedes s i j)
    (run : schedulerMachine.Run (KeepsBoth i j) s events s') :
    |(servedCount i events : Int) * b.weight - servedCount j events * a.weight| ≤
      a.weight * b.weight := by
  have inTurn : ∀ t : FairScheduler, Orderly t.queues → Precedes t i j → ∀ a b : Share,
      PendingShare t i a → PendingShare t j b → Share.InTurn a b := by
    intro t tOrderly tBefore a b iHere jHere
    obtain ⟨qi, iRead, _, rfl⟩ := iHere
    obtain ⟨qj, jRead, _, rfl⟩ := jHere
    exact inTurn_of_precedes t tOrderly tBefore iRead jRead
  obtain ⟨wf', orderly', before', a', b', iEnd, jEnd, aWeight, bWeight, account⟩ :=
    run_lead different wf orderly iStart jStart before run
  obtain ⟨startLow, startHigh⟩ := Share.lead_bounds (iStart.bounded wf) (jStart.bounded wf)
    (inTurn s orderly before a b iStart jStart)
  obtain ⟨endLow, endHigh⟩ := Share.lead_bounds (iEnd.bounded wf') (jEnd.bounded wf')
    (inTurn s' orderly' before' a' b' iEnd jEnd)
  rw [aWeight, bWeight] at endHigh
  rw [abs_le]
  constructor <;> linarith

/-- From any reachable state, two jobs that stay queued with pending items are
served in proportion to their weights, up to one round. -/
theorem throughput_proportional {history events : List SchedulerEvent} {s s' : FairScheduler}
    (reached : schedulerMachine.Reaches freshAdds history s) {i j : JobId} {qi qj : JobQueue}
    (iQueued : s.queues.get? i = some qi) (iPending : qi.items ≠ [])
    (jQueued : s.queues.get? j = some qj) (jPending : qj.items ≠ [])
    (run : schedulerMachine.Run (KeepsBoth i j) s events s') :
    |(servedCount i events : Int) * qj.weight - servedCount j events * qi.weight| ≤
      qi.weight * qj.weight := by
  obtain ⟨wf, orderly⟩ := reachable_orderly reached
  have iStart : PendingShare s i qi.share := ⟨qi, iQueued, iPending, rfl⟩
  have jStart : PendingShare s j qj.share := ⟨qj, jQueued, jPending, rfl⟩
  by_cases different : i = j
  · subst different
    have same : qi = qj := Option.some.inj (iQueued.symm.trans jQueued)
    subst same
    have weighted := (wf.queue i qi iQueued).weighted
    rw [sub_self, abs_zero]
    exact mul_nonneg (by omega) (by omega)
  · rcases precedes_total s different iStart.mem_keys jStart.mem_keys with before | after
    · exact run_bounds different wf orderly iStart jStart before run
    · have swapped : schedulerMachine.Run (KeepsBoth j i) s events s' :=
        run.mono (fun _ _ _ kept =>
          ⟨kept.1, ⟨kept.2.1.2, kept.2.1.1⟩, kept.2.2.2, kept.2.2.1⟩)
      have bound := run_bounds (Ne.symm different) wf orderly jStart iStart after swapped
      rw [abs_sub_comm, mul_comm qi.weight]
      exact bound

private def batch (name : String) (size : Nat) : List WorkItem :=
  (List.range size).map (fun n =>
    { seq := n
      id := name
      prompt := "text" })

/-- In the middle of a round: the high job has been served once. -/
private def midRound : FairScheduler :=
  ((empty.addJob "high" (batch "high" 6) .high).addJob "low" (batch "low" 3) .low).pop.1

private def midHistory : List SchedulerEvent :=
  [.added "high" (batch "high" 6) [], .added "low" (batch "low" 3) [],
    .popped (some ("high", { seq := 0, id := "high", prompt := "text" }))]

private def nextFour : List SchedulerEvent :=
  [.popped (some ("high", { seq := 1, id := "high", prompt := "text" })),
    .popped (some ("high", { seq := 2, id := "high", prompt := "text" })),
    .popped (some ("high", { seq := 3, id := "high", prompt := "text" })),
    .popped (some ("low", { seq := 0, id := "low", prompt := "text" }))]

private def checkFresh (s : FairScheduler) (op : SchedulerOp) (_ : FairScheduler) : Bool :=
  match op with
  | .addJob jobId _ _ => (s.queues.get? jobId).isNone
  | .removeJob _ => true
  | .pop => true

private theorem checkFresh_sound (s : FairScheduler) (op : SchedulerOp) (s' : FairScheduler)
    (checked : checkFresh s op s' = true) : freshAdds s op s' := by
  cases op with
  | addJob jobId items priority => exact Option.isNone_iff_eq_none.mp checked
  | removeJob jobId => trivial
  | pop => trivial

private def checkBoth (s : FairScheduler) (op : SchedulerOp) (s' : FairScheduler) : Bool :=
  checkFresh s op s' && ((s.jobPending "high" != 0 && s.jobPending "low" != 0) &&
    (s'.jobPending "high" != 0 && s'.jobPending "low" != 0))

private theorem checkBoth_sound (s : FairScheduler) (op : SchedulerOp) (s' : FairScheduler)
    (checked : checkBoth s op s' = true) : KeepsBoth "high" "low" s op s' := by
  unfold checkBoth at checked
  simp only [Bool.and_eq_true, bne_iff_ne] at checked
  exact ⟨checkFresh_sound s op s' checked.1, checked.2.1, checked.2.2⟩

theorem throughput_proportional_high_low :
    |(servedCount "high" nextFour : Int) * 1 - servedCount "low" nextFour * 4| ≤ 4 * 1 := by
  have arrived : schedulerMachine.exec checkFresh FairScheduler.empty
      [.addJob "high" (batch "high" 6) .high, .addJob "low" (batch "low" 3) .low, .pop] =
        some (midHistory, midRound) := rfl
  have reached : schedulerMachine.Reaches freshAdds midHistory midRound :=
    Machine.run_of_exec checkFresh_sound arrived
  obtain ⟨s', executed⟩ : ∃ s', schedulerMachine.exec checkBoth midRound
      (List.replicate 4 .pop) = some (nextFour, s') := ⟨_, rfl⟩
  exact throughput_proportional reached (i := "high") (j := "low") rfl (List.cons_ne_nil _ _) rfl
    (List.cons_ne_nil _ _) (Machine.run_of_exec checkBoth_sound executed)

end SchedulerThroughput

end BatchInference
