/-
Removing a job does not reorder the others.

The scheduler without the job follows the one with it. It may fall behind by one
refill: while the removed job still keeps a round open, or is served first in a new
one, the scheduler without it has not been asked yet and starts that round later.
-/

import BatchInference.SchedulerRuns
import BatchInference.Lib.Draining

set_option autoImplicit false

namespace BatchInference
namespace SchedulerRemoval

open FairScheduler SchedulerRuns

/-- The queues that `pop` chooses from. -/
def lanes (s : FairScheduler) : List (JobId × JobQueue) := (dropDrained s.queues).entries

/-- The queues of the round that `pop` serves. -/
def round (s : FairScheduler) : List (JobId × JobQueue) :=
  (startRound (dropDrained s.queues)).entries

def refill (lane : JobId × JobQueue) : JobId × JobQueue :=
  (lane.1, { lane.2 with credit := lane.2.weight })

/-- Nobody has credit left. -/
def Spent (lanes : List (JobId × JobQueue)) : Prop := ∀ lane ∈ lanes, ¬0 < lane.2.credit

def others (jobId : JobId) (lanes : List (JobId × JobQueue)) : List (JobId × JobQueue) :=
  lanes.filter (fun lane => lane.1 ≠ jobId)

variable {s s' t : FairScheduler} {jobId : JobId}

theorem round_of_spent (spent : Spent (lanes s)) : round s = (lanes s).map refill := by
  unfold round startRound
  rw [if_neg]
  · rfl
  · intro someone
    obtain ⟨q, member, positive⟩ := List.any_eq_true.mp someone
    obtain ⟨lane, laneMember, rfl⟩ := List.mem_map.mp member
    exact spent lane laneMember (of_decide_eq_true positive)

theorem round_of_credit (credit : ¬Spent (lanes s)) : round s = lanes s := by
  unfold round startRound
  rw [if_pos]
  · rfl
  · unfold Spent at credit
    push Not at credit
    obtain ⟨lane, member, positive⟩ := credit
    apply List.any_eq_true.mpr
    exact ⟨lane.2, List.mem_map.mpr ⟨lane, member, rfl⟩, decide_eq_true positive⟩

theorem others_refill (lanes : List (JobId × JobQueue)) :
    others jobId (lanes.map refill) = (others jobId lanes).map refill := by
  unfold others
  rw [List.filter_map]
  rfl

theorem others_spent {lanes : List (JobId × JobQueue)} (spent : Spent lanes) :
    Spent (others jobId lanes) := by
  intro lane member
  exact spent lane (List.mem_of_mem_filter member)

/-- A waiting queue has items and a positive weight. -/
theorem lane_spec (wf : s.QueuesWellFormed) {lane : JobId × JobQueue} (member : lane ∈ lanes s) :
    lane.2.items ≠ [] ∧ 1 ≤ lane.2.weight := by
  obtain ⟨found, items⟩ := (get?_dropDrained _ _ _).mp
    ((Dict.mem_entries_iff _ lane.1 lane.2).mp member)
  exact ⟨items, (wf lane.1 lane.2 found).weighted.1⟩

theorem refilled_credit (wf : s.QueuesWellFormed) (waiting : lanes s ≠ []) :
    ¬Spent ((lanes s).map refill) := by
  intro spent
  obtain ⟨lane, rest, listed⟩ := List.exists_cons_of_ne_nil waiting
  have member : lane ∈ lanes s := by
    rw [listed]
    exact List.mem_cons_self
  have weighted := (lane_spec wf member).2
  have poor := spent (refill lane) (List.mem_map.mpr ⟨lane, member, rfl⟩)
  simp only [refill] at poor
  omega

/-- The first queue with credit decides what `pop` does. -/
theorem pop_of_round (wf : s.QueuesWellFormed) {before after : List (JobId × JobQueue)}
    {key : JobId} {q : JobQueue} {item : WorkItem} {rest : List WorkItem}
    (split : round s = before ++ (key, q) :: after) (poor : ∀ lane ∈ before, lane.2.credit = 0)
    (credit : 0 < q.credit) (shape : q.items = item :: rest) :
    ∃ s', s.pop = (s', some (key, item)) ∧ s'.queues.entries =
      before ++ (key, { q with credit := q.credit - 1, items := rest }) :: after := by
  have found : (startRound (dropDrained s.queues)).find? hasCredit = some (key, q) := by
    unfold Dict.find?
    change (round s).find? _ = _
    have nobody : before.find? (fun lane => hasCredit lane.2) = none := by
      apply List.find?_eq_none.mpr
      intro lane member
      simp [hasCredit, poor lane member]
    rw [split, List.find?_append, nobody, List.find?_cons_of_pos]
    · rfl
    · simp [hasCredit, credit, shape]
  have read : (startRound (dropDrained s.queues)).get? key = some q := by
    rw [← Dict.mem_entries_iff]
    change (key, q) ∈ round s
    rw [split]
    simp
  have keyed : q.jobId = key := by
    have kept : ∀ key q, (dropDrained s.queues).get? key = some q → QueueWellFormed key q :=
      fun key q read => wf key q ((get?_dropDrained _ _ _).mp read).1
    exact ((startRound_spec _ kept).1 key q read).keyed
  have waiting : (dropDrained s.queues).entries.isEmpty = false := by
    cases listed : (dropDrained s.queues).entries with
    | cons lane rest => rfl
    | nil =>
        unfold round at split
        rw [startRound_entries, listed] at split
        simp at split
  refine ⟨{ queues := (startRound (dropDrained s.queues)).set key
              { q with credit := q.credit - 1, items := rest }
            pending := s.pending - 1 }, ?_, Dict.entries_set_of_split _ _ split⟩
  simp only [pop, waiting, Bool.false_eq_true, if_false, serve, found, shape, keyed]

/-- What `pop` did, read off its result. -/
theorem round_of_pop (wf : s.QueuesWellFormed) {key : JobId} {item : WorkItem}
    (popped : s.pop = (s', some (key, item))) :
    ∃ before q rest after, round s = before ++ (key, q) :: after ∧
      (∀ lane ∈ before, lane.2.credit = 0) ∧ 0 < q.credit ∧ q.items = item :: rest ∧
      s'.queues.entries = before ++ (key, { q with credit := q.credit - 1, items := rest }) :: after
      := by
  rcases s.pop_cases wf with ⟨_, result⟩ |
    ⟨before, served, q, head, rest, after, split, shape, credit, poor, result⟩
  · rw [popped] at result
    cases (Prod.mk.inj result).2
  · rw [popped] at result
    obtain ⟨rfl, same⟩ := Prod.mk.inj result
    simp only [Option.some.injEq, Prod.mk.injEq] at same
    obtain ⟨rfl, rfl⟩ := same
    exact ⟨before, q, rest, after, split, poor, credit, shape,
      Dict.entries_set_of_split _ _ split⟩

/-- Every queue of a round has items. -/
theorem waiting_of_round (wf : s.QueuesWellFormed) {lane : JobId × JobQueue}
    (member : lane ∈ round s) : lane.2.items ≠ [] := by
  by_cases spent : Spent (lanes s)
  · rw [round_of_spent spent] at member
    obtain ⟨old, oldMember, rfl⟩ := List.mem_map.mp member
    exact (lane_spec wf oldMember).1
  · rw [round_of_credit spent] at member
    exact (lane_spec wf member).1

/-- `t` is the scheduler `s` without the job, up to a round that `t` has not started. -/
structure Follows (jobId : JobId) (s t : FairScheduler) : Prop where
  wellFormed : s.QueuesWellFormed
  withoutWellFormed : t.QueuesWellFormed
  caughtUp : lanes t = others jobId (lanes s) ∨
    Spent (lanes t) ∧ (lanes t).map refill = others jobId (lanes s)

/-- When another job is served in `s`, both are in the same round. -/
theorem Follows.sameRound (follows : Follows jobId s t) {lane : JobId × JobQueue}
    (member : lane ∈ round s) (other : lane.1 ≠ jobId) (credit : 0 < lane.2.credit) :
    round t = others jobId (round s) := by
  have visible : lane ∈ others jobId (round s) :=
    List.mem_filter.mpr ⟨member, decide_eq_true other⟩
  rcases follows.caughtUp with together | ⟨spent, behind⟩
  · by_cases spent : Spent (lanes s)
    · have spent' : Spent (lanes t) := by
        rw [together]
        exact others_spent spent
      rw [round_of_spent spent, round_of_spent spent', others_refill, together]
    · rw [round_of_credit spent] at visible ⊢
      have rich : ¬Spent (lanes t) := by
        intro poor
        rw [← together] at visible
        exact poor lane visible credit
      rw [round_of_credit rich, together]
  · -- `t` starts the round now in which `s` has already served the removed job.
    have rich : ¬Spent (lanes s) := by
      intro poor
      have nobody : lanes t = [] := by
        by_contra waiting
        apply refilled_credit follows.withoutWellFormed waiting
        rw [behind]
        exact others_spent poor
      rw [round_of_spent poor, others_refill, ← behind, nobody] at visible
      cases visible
    rw [round_of_credit rich, round_of_spent spent, behind]

theorem others_lanes (s : FairScheduler) : others jobId (lanes s) =
    (others jobId s.queues.entries).filter (fun lane => !lane.2.items.isEmpty) := by
  unfold others lanes dropDrained Dict.keep
  rw [List.filter_filter, List.filter_filter]
  apply List.filter_congr
  intro lane _
  exact Bool.and_comm _ _

theorem others_split (before after : List (JobId × JobQueue)) (lane : JobId × JobQueue) :
    others jobId (before ++ lane :: after) =
      others jobId before ++ (if lane.1 = jobId then [] else [lane]) ++ others jobId after := by
  unfold others
  rw [List.filter_append, List.filter_cons]
  by_cases same : lane.1 = jobId
  · simp [same]
  · simp [same]

theorem entries_removeJob (s : FairScheduler) (jobId : JobId) :
    (s.removeJob jobId).1.queues.entries = others jobId s.queues.entries := by
  unfold removeJob
  cases found : s.queues.get? jobId with
  | some q => rfl
  | none =>
      symm
      apply List.filter_eq_self.mpr
      intro lane member
      have read := (s.queues.mem_entries_iff lane.1 lane.2).mp member
      apply decide_eq_true
      intro same
      rw [same, found] at read
      cases read

theorem follows_removeJob (wf : s.QueuesWellFormed) (jobId : JobId) :
    Follows jobId s (s.removeJob jobId).1 := by
  constructor
  · exact wf
  · exact s.removeJob_queues wf jobId
  · left
    rw [others_lanes, ← entries_removeJob]
    rfl

/-- Serving the removed job changes nothing for the others, apart from the refill
that may have come with it. -/
theorem Follows.hidden (follows : Follows jobId s t) {item : WorkItem}
    (popped : s.pop = (s', some (jobId, item))) : Follows jobId s' t := by
  obtain ⟨before, q, rest, after, split, _, _, _, entries⟩ :=
    round_of_pop follows.wellFormed popped
  have kept : others jobId (lanes s') = others jobId (round s) := by
    have same : others jobId s'.queues.entries = others jobId (round s) := by
      rw [entries, split]
      simp only [others_split, if_true]
    rw [others_lanes, same]
    apply List.filter_eq_self.mpr
    intro lane member
    simpa using waiting_of_round follows.wellFormed (List.mem_of_mem_filter member)
  constructor
  · have wf := s.pop_queues follows.wellFormed
    rw [popped] at wf
    exact wf
  · exact follows.withoutWellFormed
  · rw [kept]
    by_cases spent : Spent (lanes s)
    · rw [round_of_spent spent, others_refill]
      rcases follows.caughtUp with together | ⟨_, behind⟩
      · right
        rw [together]
        exact ⟨others_spent spent, rfl⟩
      · left
        have nobody : lanes t = [] := by
          by_contra waiting
          apply refilled_credit follows.withoutWellFormed waiting
          rw [behind]
          exact others_spent spent
        rw [← behind, nobody]
        rfl
    · rw [round_of_credit spent]
      exact follows.caughtUp

theorem Follows.shown (follows : Follows jobId s t) {key : JobId} {item : WorkItem}
    (popped : s.pop = (s', some (key, item))) (other : key ≠ jobId) :
    ∃ t', t.pop = (t', some (key, item)) ∧ Follows jobId s' t' := by
  obtain ⟨before, q, rest, after, split, poor, credit, shape, entries⟩ :=
    round_of_pop follows.wellFormed popped
  have member : (key, q) ∈ round s := by
    rw [split]
    simp
  have same := follows.sameRound member other credit
  rw [split, others_split, if_neg other, List.append_assoc] at same
  obtain ⟨t', poppedToo, entriesToo⟩ := pop_of_round follows.withoutWellFormed same
    (fun lane early => poor lane (List.mem_of_mem_filter early)) credit shape
  refine ⟨t', poppedToo, ?_⟩
  constructor
  · have wf := s.pop_queues follows.wellFormed
    rw [popped] at wf
    exact wf
  · have wf := t.pop_queues follows.withoutWellFormed
    rw [poppedToo] at wf
    exact wf
  · left
    rw [others_lanes, entries, others_split, if_neg other, List.append_assoc]
    change t'.queues.entries.filter (fun lane => !lane.2.items.isEmpty) = _
    rw [entriesToo]
    rfl

theorem Follows.ends (follows : Follows jobId s t) (popped : s.pop = (s', none)) :
    ∃ t', t.pop = (t', none) := by
  have nothing : lanes s = [] := by
    rcases s.pop_cases follows.wellFormed with ⟨empty, _⟩ | ⟨_, _, _, _, _, _, _, _, _, _, result⟩
    · exact empty
    · rw [popped] at result
      cases (Prod.mk.inj result).2
  have nothingToo : lanes t = [] := by
    rcases follows.caughtUp with together | ⟨_, behind⟩
    · rw [together, nothing]
      rfl
    · rw [nothing] at behind
      exact List.map_eq_nil_iff.mp behind
  refine ⟨{ t with queues := dropDrained t.queues }, ?_⟩
  have empty : (dropDrained t.queues).entries.isEmpty = true := by
    unfold lanes at nothingToo
    rw [nothingToo]
    rfl
  simp only [pop, empty, if_true]

/-- Calling `pop` until it returns `None`. -/
theorem drains (wf : s.QueuesWellFormed) : ∃ items, Drains pop s items := by
  apply Drains.exists_of_measure (fun s => s.queues.total (fun _ q => q.items.length))
    QueuesWellFormed _ wf
  intro s s' served wf popped
  constructor
  · have kept := s.pop_queues wf
    rw [popped] at kept
    exact kept
  · have counted := total_pop (fun _ items => items.length) (fun _ => rfl) (fun _ _ => 1)
      (fun _ _ _ => by simp [Nat.add_comm]) s s' wf served.1 served.2 popped
    omega

theorem reachable_queues {ok : FairScheduler → SchedulerOp → FairScheduler → Prop}
    {events : List SchedulerEvent} (run : schedulerMachine.Reaches ok events s) :
    s.QueuesWellFormed := by
  induction run with
  | refl => exact wellFormed_empty.queue
  | @tail earlier emitted middle last op _ _ stepped ih =>
      obtain ⟨rfl, _⟩ := step_eq stepped
      cases op with
      | addJob jobId items priority => exact middle.addJob_queues ih jobId items priority
      | removeJob jobId => exact middle.removeJob_queues ih jobId
      | pop => exact middle.pop_queues ih

theorem drains_removeJob (wf : s.QueuesWellFormed) {items : List (JobId × WorkItem)}
    (drained : Drains pop s items) (jobId : JobId) :
    Drains pop (s.removeJob jobId).1 (items.filter (fun pair => pair.1 ≠ jobId)) := by
  apply Drains.hide (fun pair => decide (pair.1 ≠ jobId)) (Follows jobId) _ _ _
    (follows_removeJob wf jobId) drained
  · intro s s' t follows popped
    exact follows.ends popped
  · intro s s' t pair follows popped erased
    have same : pair.1 = jobId := by simpa using erased
    subst same
    exact follows.hidden popped
  · intro s s' t pair follows popped seen
    have other : pair.1 ≠ jobId := by simpa using seen
    exact follows.shown popped other

/-- From every reachable state, and for every job, draining the scheduler and erasing
the job gives the one sequence that draining it after the removal of the job gives. -/
theorem removal_keeps_order {events : List SchedulerEvent}
    (reached : schedulerMachine.Reaches Machine.anyStep events s) (jobId : JobId) :
    (∃ items, Drains pop s items) ∧
      ∀ items, Drains pop s items → ∀ rest,
        (Drains pop (s.removeJob jobId).1 rest ↔
          rest = items.filter (fun pair => pair.1 ≠ jobId)) := by
  have wf := reachable_queues reached
  refine ⟨drains wf, ?_⟩
  intro items drained rest
  have removed := drains_removeJob wf drained jobId
  constructor
  · intro drainedToo
    exact drainedToo.unique removed
  · intro same
    rw [same]
    exact removed

def waitingItem (seq : Nat) : WorkItem :=
  { seq := seq
    id := "p"
    prompt := "hello" }

/-- The job that is removed is the only one with credit left in its round. -/
def roundHeldOpen : List SchedulerOp :=
  [.addJob "a" [waitingItem 0, waitingItem 1] .low,
    .addJob "b" [waitingItem 0, waitingItem 1, waitingItem 2] .normal, .pop, .pop]

def heldOpenTest (outcome : List SchedulerEvent × FairScheduler) : Bool :=
  outcome.2.pending == 3 && outcome.2.jobPending "b" == 2 && outcome.2.spentJobs == ["a"]

theorem removal_keeps_order_held_open :
    ∃ events s, schedulerMachine.Reaches Machine.anyStep events s ∧
      heldOpenTest (events, s) = true ∧ (∃ items, Drains pop s items) ∧
        ∀ items, Drains pop s items → ∀ rest,
          (Drains pop (s.removeJob "b").1 rest ↔
            rest = items.filter (fun pair => pair.1 ≠ "b")) := by
  obtain ⟨events, s, run, passed⟩ :=
    Machine.exists_anyRun_of_exec schedulerMachine
      schedulerMachine.initial roundHeldOpen heldOpenTest (by decide +kernel)
  exact ⟨events, s, run, passed, removal_keeps_order run "b"⟩

end SchedulerRemoval

end BatchInference
