/-
The order in which the scheduler serves its jobs.

The fair scheduler is a weighted round robin: popped until it is empty it serves the rest
of the round that is going on and then round after round, each job in turn up to its
weight. So the number of items served before a given one is known in advance.
-/

import BatchInference.SchedulerRemoval
import BatchInference.Lib.RoundRobin

set_option autoImplicit false

namespace BatchInference
namespace SchedulerRounds

open FairScheduler SchedulerRuns SchedulerRemoval RoundRobin

variable {s s' : FairScheduler}

/-- The queue of a job as a lane, each item with the id of the job. -/
def lane (entry : JobId × JobQueue) : Lane (JobId × WorkItem) :=
  { weight := entry.2.weight.toNat
    credit := entry.2.credit.toNat
    items := entry.2.items.map (fun item => (entry.1, item)) }

theorem served_lanes (s : FairScheduler) (rounds : Nat) :
    served ((lanes s).map lane) rounds = served (s.queues.entries.map lane) rounds := by
  rw [← served_filter (s.queues.entries.map lane)]
  unfold lanes dropDrained Dict.keep
  rw [List.filter_map]
  congr 2
  apply List.filter_congr
  intro entry _
  simp [lane]

theorem credit_of_spent (spent : Spent (lanes s)) :
    ∀ entry ∈ (lanes s).map lane, entry.credit = 0 := by
  intro entry member
  obtain ⟨queue, listed, rfl⟩ := List.mem_map.mp member
  have poor := spent queue listed
  simp only [lane]
  omega

/-- The lanes of the round that `pop` serves are served like those before it. -/
theorem served_round (wf : s.QueuesWellFormed) {rounds : Nat}
    (enough : ∀ key q, s.queues.get? key = some q → q.items.length ≤ rounds) :
    served ((round s).map lane) (rounds + 1) =
      served (s.queues.entries.map lane) (rounds + 1) := by
  rw [← served_lanes]
  by_cases spent : Spent (lanes s)
  · rw [round_of_spent spent]
    symm
    have refilled : ((lanes s).map refill).map lane = ((lanes s).map lane).map Lane.refill := by
      rw [List.map_map, List.map_map]
      rfl
    rw [refilled]
    apply served_refill (credit_of_spent spent)
    · intro entry member
      obtain ⟨queue, listed, rfl⟩ := List.mem_map.mp member
      have weighted := (lane_spec wf listed).2
      simp only [lane]
      omega
    · intro entry member
      obtain ⟨queue, listed, rfl⟩ := List.mem_map.mp member
      obtain ⟨found, _⟩ := (get?_dropDrained _ _ _).mp
        ((Dict.mem_entries_iff _ queue.1 queue.2).mp listed)
      simpa [lane] using enough queue.1 queue.2 found
  · rw [round_of_credit spent]

theorem length_of_pop (wf : s.QueuesWellFormed) {served : JobId × WorkItem}
    (popped : s.pop = (s', some served)) {rounds : Nat}
    (enough : ∀ key q, s.queues.get? key = some q → q.items.length ≤ rounds) :
    ∀ key q, s'.queues.get? key = some q → q.items.length ≤ rounds := by
  obtain ⟨before, q, rest, after, split, _, _, shape, entries⟩ := round_of_pop wf popped
  have before_ : ∀ lane ∈ round s, lane.2.items.length ≤ rounds := by
    intro lane member
    by_cases spent : Spent (lanes s)
    · rw [round_of_spent spent] at member
      obtain ⟨old, listed, rfl⟩ := List.mem_map.mp member
      obtain ⟨found, _⟩ := (get?_dropDrained _ _ _).mp
        ((Dict.mem_entries_iff _ old.1 old.2).mp listed)
      exact enough old.1 old.2 found
    · rw [round_of_credit spent] at member
      obtain ⟨found, _⟩ := (get?_dropDrained _ _ _).mp
        ((Dict.mem_entries_iff _ lane.1 lane.2).mp member)
      exact enough lane.1 lane.2 found
  intro key q' found
  have member := (s'.queues.mem_entries_iff key q').mpr found
  rw [entries, List.mem_append, List.mem_cons] at member
  rw [split] at before_
  rcases member with early | same | late
  · exact before_ (key, q') (by simp [early])
  · obtain ⟨rfl, rfl⟩ := Prod.mk.inj same
    have whole := before_ (served.1, q) (by simp)
    rw [shape, List.length_cons] at whole
    exact Nat.le_of_succ_le whole
  · exact before_ (key, q') (by simp [late])

/-- The plain round robin serves what `pop` serves. -/
theorem drained_eq_served (wf : s.QueuesWellFormed) {items : List (JobId × WorkItem)}
    (drained : Drains pop s items) {rounds : Nat}
    (enough : ∀ key q, s.queues.get? key = some q → q.items.length ≤ rounds) :
    items = served (s.queues.entries.map lane) (rounds + 1) := by
  induction drained with
  | @done s s' ended =>
      rcases s.pop_cases wf with ⟨empty, _⟩ | ⟨_, _, _, _, _, _, _, _, _, _, result⟩
      · rw [← served_lanes]
        unfold lanes
        rw [empty]
        exact (served_eq_nil (fun _ member => by cases member) _).symm
      · rw [ended] at result
        cases (Prod.mk.inj result).2
  | @more s s' pair items popped _ ih =>
      obtain ⟨key, item⟩ := pair
      obtain ⟨before, q, rest, after, split, poor, credit, shape, entries⟩ := round_of_pop wf popped
      have wf' := s.pop_queues wf
      rw [popped] at wf'
      have rest' := ih wf' (length_of_pop wf popped enough)
      have moved : lane (key, { q with credit := q.credit - 1, items := rest }) =
          (lane (key, q)).serve := by
        simp only [lane, Lane.serve, shape, List.map_cons, List.tail_cons, Lane.mk.injEq, true_and,
          and_true]
        omega
      rw [← served_round wf enough, split, rest', entries, List.map_append, List.map_append,
        List.map_cons, List.map_cons, moved]
      have front : (lane (key, q)).items = (key, item) :: rest.map (fun item => (key, item)) := by
        simp only [lane, shape, List.map_cons]
      have rich : 0 < (lane (key, q)).credit := by
        simp only [lane]
        omega
      have spent : ∀ entry ∈ before.map lane, entry.credit = 0 := by
        intro entry member
        obtain ⟨queue, listed, rfl⟩ := List.mem_map.mp member
        simp [lane, poor queue listed]
      exact (served_serve spent front rich rounds).symm

/-- What is left of `a` and `b` when the round of `a` is over and that of `b` is not. -/
def leftOver : List (JobId × WorkItem) :=
  [("b", waitingItem 1), ("a", waitingItem 1), ("b", waitingItem 2)]

def servesLeftOver (outcome : List SchedulerEvent × FairScheduler) : Bool :=
  outcome.2.queues.entries.all (fun entry => decide (entry.2.items.length ≤ 2)) &&
    decide (served (outcome.2.queues.entries.map lane) 3 = leftOver)

end SchedulerRounds
end BatchInference
