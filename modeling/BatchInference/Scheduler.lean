/-
The fair scheduler of app/scheduler.py: weighted round-robin with credits.

The queues are an insertion-ordered dictionary, as in the source, because `pop`
serves the first queue of that order that has credit left. The second half of
`pop`, which the source comments as "shouldn't happen", is modelled as well.
-/

import BatchInference.Models
import BatchInference.Lib.Machine
import Mathlib.Algebra.Order.BigOperators.Group.List
import Mathlib.Tactic.Linarith

set_option autoImplicit false

namespace BatchInference

/-- `PRIORITY_WEIGHTS`; it has an entry for every priority, so the default of
the lookup is never used. -/
def priorityWeights : Priority → Int
  | .high => 4
  | .normal => 2
  | .low => 1

structure JobQueue where
  jobId : JobId
  weight : Int
  items : List WorkItem
  credit : Int := 0

structure FairScheduler where
  queues : Dict JobId JobQueue
  pending : Int

namespace FairScheduler

def empty : FairScheduler :=
  { queues := Dict.empty
    pending := 0 }

def addJob (jobId : JobId) (items : List WorkItem) (priority : Priority) (s : FairScheduler) :
    FairScheduler :=
  let weight := priorityWeights priority
  { queues := s.queues.set jobId
      { jobId := jobId
        weight := weight
        items := items
        credit := weight }
    pending := s.pending + items.length }

/-- Drop a job's pending items; the number of dropped items is returned. -/
def removeJob (jobId : JobId) (s : FairScheduler) : FairScheduler × Nat :=
  match s.queues.get? jobId with
  | none => (s, 0)
  | some q =>
      ({ queues := s.queues.erase jobId
         pending := s.pending - q.items.length }, q.items.length)

def dropDrained (queues : Dict JobId JobQueue) : Dict JobId JobQueue :=
  queues.keep (fun _ q => !q.items.isEmpty)

def resetCredits (queues : Dict JobId JobQueue) : Dict JobId JobQueue :=
  queues.mapValues (fun q => { q with credit := q.weight })

/-- A new round starts when nobody has credit left. -/
def startRound (queues : Dict JobId JobQueue) : Dict JobId JobQueue :=
  if queues.values.any (fun q => decide (0 < q.credit)) then queues else resetCredits queues

/-- Serve the first queue that passes the test, if there is one. -/
def serve (test : JobQueue → Bool) (queues : Dict JobId JobQueue) (pending : Int) :
    Option (FairScheduler × JobId × WorkItem) :=
  match queues.find? test with
  | none => none
  | some (key, q) =>
      match q.items with
      | [] => none
      | item :: rest =>
          some ({ queues := queues.set key { q with credit := q.credit - 1, items := rest }
                  pending := pending - 1 }, q.jobId, item)

def hasCredit (q : JobQueue) : Bool := decide (0 < q.credit) && !q.items.isEmpty

def hasItems (q : JobQueue) : Bool := !q.items.isEmpty

/-- The next item by weighted round-robin. -/
def pop (s : FairScheduler) : FairScheduler × Option (JobId × WorkItem) :=
  let queues := dropDrained s.queues
  if queues.entries.isEmpty then ({ s with queues := queues }, none)
  else
    let round := startRound queues
    match serve hasCredit round s.pending with
    | some (s', served) => (s', some served)
    | none =>
        let again := resetCredits round
        match serve hasItems again s.pending with
        | some (s', served) => (s', some served)
        | none => ({ s with queues := again }, none)

def activeJobs (s : FairScheduler) : Int := s.queues.size

/-- The items queued for a job, first to be served first. -/
def queuedItems (queues : Dict JobId JobQueue) (jobId : JobId) : List WorkItem :=
  match queues.get? jobId with
  | some q => q.items
  | none => []

def itemsOf (s : FairScheduler) (jobId : JobId) : List WorkItem := queuedItems s.queues jobId

def jobPending (s : FairScheduler) (jobId : JobId) : Nat := (s.itemsOf jobId).length

/-! ### The representation invariant -/

structure QueueWellFormed (key : JobId) (q : JobQueue) : Prop where
  keyed : q.jobId = key
  weighted : 1 ≤ q.weight ∧ q.weight ≤ 4
  credited : 0 ≤ q.credit ∧ q.credit ≤ q.weight

/-- All queues are well-formed; `pop` needs nothing else. -/
def QueuesWellFormed (s : FairScheduler) : Prop :=
  ∀ key q, s.queues.get? key = some q → QueueWellFormed key q

/-- `pending` is the number of queued items. -/
structure WellFormed (s : FairScheduler) : Prop where
  queue : ∀ key q, s.queues.get? key = some q → QueueWellFormed key q
  counted : s.pending = s.queues.total (fun _ q => (q.items.length : Int))

theorem priorityWeights_bounds (priority : Priority) :
    1 ≤ priorityWeights priority ∧ priorityWeights priority ≤ 4 := by
  cases priority <;> decide

theorem wellFormed_empty : empty.WellFormed where
  queue := fun _ _ read => by cases read
  counted := rfl

private theorem total_length_nonneg (queues : Dict JobId JobQueue) :
    0 ≤ queues.total (fun _ q => (q.items.length : Int)) := by
  unfold Dict.total
  apply List.sum_nonneg
  intro length member
  rcases List.mem_map.mp member with ⟨_, _, rfl⟩
  exact Int.natCast_nonneg _

theorem WellFormed.pending_nonneg {s : FairScheduler} (wf : s.WellFormed) : 0 ≤ s.pending := by
  rw [wf.counted]
  exact total_length_nonneg s.queues

theorem WellFormed.itemsOf_of_no_pending {s : FairScheduler} (wf : s.WellFormed)
    (none : s.pending = 0) (jobId : JobId) : s.itemsOf jobId = [] := by
  have counted := wf.counted
  rw [none] at counted
  unfold itemsOf queuedItems
  cases read : s.queues.get? jobId with
  | none => rfl
  | some q =>
      have split := Dict.total_erase_of_get?_some (fun _ q => (q.items.length : Int))
        s.queues read
      have rest := total_length_nonneg (s.queues.erase jobId)
      change q.items = []
      rw [← List.length_eq_zero_iff]
      omega

theorem itemsOf_addJob (s : FairScheduler) (jobId other : JobId) (items : List WorkItem)
    (priority : Priority) :
    (s.addJob jobId items priority).itemsOf other =
      if other = jobId then items else s.itemsOf other := by
  unfold itemsOf queuedItems addJob
  simp only [Dict.get?_set]
  by_cases same : other = jobId
  · rw [if_pos same, if_pos same]
  · rw [if_neg same, if_neg same]

theorem addJob_queues (s : FairScheduler) (wf : s.QueuesWellFormed) (jobId : JobId)
    (items : List WorkItem) (priority : Priority) :
    (s.addJob jobId items priority).QueuesWellFormed := by
  intro key q read
  simp only [addJob, Dict.get?_set] at read
  by_cases same : key = jobId
  · rw [if_pos same, Option.some.injEq] at read
    subst read
    have bounds := priorityWeights_bounds priority
    exact { keyed := same.symm
            weighted := bounds
            credited := ⟨by simp only; omega, le_refl _⟩ }
  · rw [if_neg same] at read
    exact wf key q read

theorem addJob_wellFormed (s : FairScheduler) (wf : s.WellFormed) (jobId : JobId)
    (items : List WorkItem) (priority : Priority) (fresh : s.queues.get? jobId = none) :
    (s.addJob jobId items priority).WellFormed := by
  constructor
  · exact s.addJob_queues wf.queue jobId items priority
  · simp only [addJob, Dict.total_set_of_get?_none _ _ _ fresh, wf.counted]

theorem itemsOf_removeJob (s : FairScheduler) (jobId other : JobId) :
    (s.removeJob jobId).1.itemsOf other = if other = jobId then [] else s.itemsOf other := by
  unfold removeJob
  cases found : s.queues.get? jobId with
  | none =>
      by_cases same : other = jobId
      · subst same
        simp only [itemsOf, queuedItems, found, if_true]
      · rw [if_neg same]
  | some q =>
      simp only [itemsOf, queuedItems, Dict.get?_erase]
      by_cases same : other = jobId
      · rw [if_pos same, if_pos same]
      · rw [if_neg same, if_neg same]

theorem removeJob_snd (s : FairScheduler) (jobId : JobId) :
    (s.removeJob jobId).2 = s.jobPending jobId := by
  unfold removeJob jobPending itemsOf queuedItems
  cases s.queues.get? jobId <;> rfl

theorem get?_removeJob (s : FairScheduler) (jobId other : JobId) :
    (s.removeJob jobId).1.queues.get? other =
      if other = jobId then none else s.queues.get? other := by
  unfold removeJob
  cases found : s.queues.get? jobId with
  | none =>
      by_cases same : other = jobId
      · rw [if_pos same, same, found]
      · rw [if_neg same]
  | some q => simp only [Dict.get?_erase]

theorem removeJob_queues (s : FairScheduler) (wf : s.QueuesWellFormed) (jobId : JobId) :
    (s.removeJob jobId).1.QueuesWellFormed := by
  intro key q read
  rw [get?_removeJob] at read
  by_cases same : key = jobId
  · rw [if_pos same] at read
    cases read
  · rw [if_neg same] at read
    exact wf key q read

theorem removeJob_wellFormed (s : FairScheduler) (wf : s.WellFormed) (jobId : JobId) :
    (s.removeJob jobId).1.WellFormed := by
  constructor
  · exact s.removeJob_queues wf.queue jobId
  · unfold removeJob
    cases found : s.queues.get? jobId with
    | none => exact wf.counted
    | some q =>
        have gone := Dict.total_erase_of_get?_some
          (fun _ q => (q.items.length : Int)) s.queues found
        simp only [wf.counted]
        omega

/-! ### What one `pop` does -/

theorem get?_dropDrained (queues : Dict JobId JobQueue) (key : JobId) (q : JobQueue) :
    (dropDrained queues).get? key = some q ↔ queues.get? key = some q ∧ q.items ≠ [] := by
  unfold dropDrained
  rw [Dict.get?_keep, Option.filter_eq_some_iff]
  simp

theorem startRound_entries (queues : Dict JobId JobQueue) :
    (startRound queues).entries = queues.entries.map (fun entry =>
      (entry.1, if queues.values.any (fun q => decide (0 < q.credit)) then entry.2
        else { entry.2 with credit := entry.2.weight })) := by
  unfold startRound
  split
  · simp
  · rfl

/-- Within a round somebody has credit, and credits stay in their range. -/
theorem startRound_spec (queues : Dict JobId JobQueue)
    (wf : ∀ key q, queues.get? key = some q → QueueWellFormed key q) :
    (∀ key q, (startRound queues).get? key = some q → QueueWellFormed key q) ∧
      (queues.entries ≠ [] → ∃ entry ∈ (startRound queues).entries, 0 < entry.2.credit) := by
  unfold startRound
  by_cases someCredit : queues.values.any (fun q => decide (0 < q.credit))
  · rw [if_pos someCredit]
    refine ⟨wf, fun _ => ?_⟩
    obtain ⟨q, member, positive⟩ := List.any_eq_true.mp someCredit
    obtain ⟨entry, entryMember, rfl⟩ := List.mem_map.mp member
    exact ⟨entry, entryMember, of_decide_eq_true positive⟩
  · rw [if_neg someCredit]
    constructor
    · intro key q read
      unfold resetCredits at read
      rw [Dict.get?_mapValues, Option.map_eq_some_iff] at read
      obtain ⟨old, oldRead, rfl⟩ := read
      obtain ⟨keyed, weighted, _credited⟩ := wf key old oldRead
      exact { keyed := keyed
              weighted := weighted
              credited := ⟨by simp only; omega, le_refl _⟩ }
    · intro nonempty
      obtain ⟨entry, tail, listed⟩ := List.exists_cons_of_ne_nil nonempty
      have member : (entry.1, entry.2) ∈ queues.entries := by
        rw [listed]
        exact List.mem_cons_self
      have weighted := (wf entry.1 entry.2 ((queues.mem_entries_iff _ _).mp member)).weighted
      refine ⟨(entry.1, { entry.2 with credit := entry.2.weight }), ?_, by simp only; omega⟩
      exact List.mem_map.mpr ⟨entry, member, rfl⟩

/-- In a round of undrained queues the first queue with credit is served. -/
theorem serve_round (s : FairScheduler) (wf : s.QueuesWellFormed)
    (waiting : (dropDrained s.queues).entries ≠ []) :
    ∃ before key q item rest after,
      (startRound (dropDrained s.queues)).entries = before ++ (key, q) :: after ∧
      q.items = item :: rest ∧ 0 < q.credit ∧ (∀ entry ∈ before, entry.2.credit = 0) ∧
      serve hasCredit (startRound (dropDrained s.queues)) s.pending =
        some ({ queues := (startRound (dropDrained s.queues)).set key
                  { q with credit := q.credit - 1, items := rest }
                pending := s.pending - 1 }, key, item) := by
  have keptWf : ∀ key q, (dropDrained s.queues).get? key = some q → QueueWellFormed key q :=
    fun key q read => wf key q ((get?_dropDrained _ _ _).mp read).1
  have keptItems : ∀ entry ∈ (dropDrained s.queues).entries, entry.2.items ≠ [] :=
    fun entry member =>
      ((get?_dropDrained _ _ _).mp ((Dict.mem_entries_iff _ entry.1 entry.2).mp member)).2
  obtain ⟨roundWf, someone⟩ := startRound_spec _ keptWf
  obtain ⟨chosen, chosenMember, positive⟩ := someone waiting
  have roundItems : ∀ entry ∈ (startRound (dropDrained s.queues)).entries,
      entry.2.items ≠ [] := by
    intro entry member
    rw [startRound_entries] at member
    obtain ⟨old, oldMember, rfl⟩ := List.mem_map.mp member
    have items := keptItems old oldMember
    simp only
    split <;> exact items
  generalize startRound (dropDrained s.queues) = round at *
  have found : ∃ entry, round.entries.find? (fun entry => hasCredit entry.2) = some entry := by
    rw [← Option.isSome_iff_exists, List.find?_isSome]
    refine ⟨chosen, chosenMember, ?_⟩
    have items := roundItems chosen chosenMember
    simp [hasCredit, positive, items]
  obtain ⟨⟨key, q⟩, found⟩ := found
  obtain ⟨passed, before, after, split, earlier⟩ := List.find?_eq_some_iff_append.mp found
  have member : (key, q) ∈ round.entries := List.mem_of_find?_eq_some found
  have keyed := (roundWf key q ((round.mem_entries_iff _ _).mp member)).keyed
  obtain ⟨item, rest, shape⟩ := List.exists_cons_of_ne_nil (roundItems _ member)
  simp only at shape
  have credit : 0 < q.credit := by
    simp only [hasCredit, Bool.and_eq_true, decide_eq_true_eq] at passed
    exact passed.1
  refine ⟨before, key, q, item, rest, after, split, shape, credit, ?_, ?_⟩
  · intro entry entryMember
    have inRound : (entry.1, entry.2) ∈ round.entries := by
      rw [split]
      exact List.mem_append_left _ entryMember
    have bounds := (roundWf entry.1 entry.2 ((round.mem_entries_iff _ _).mp inRound)).credited
    have failed := earlier entry entryMember
    have items := roundItems _ inRound
    simp [hasCredit, items] at failed
    omega
  · simp only [serve, Dict.find?, found, shape, keyed]

/-- One `pop` from a well-formed scheduler: either nothing is queued, or the
first queue with credit loses its first item. The fallback is never reached. -/
theorem pop_cases (s : FairScheduler) (wf : s.QueuesWellFormed) :
    ((dropDrained s.queues).entries = [] ∧
        s.pop = ({ s with queues := dropDrained s.queues }, none)) ∨
      ∃ before key q item rest after,
        (startRound (dropDrained s.queues)).entries = before ++ (key, q) :: after ∧
        q.items = item :: rest ∧ 0 < q.credit ∧ (∀ entry ∈ before, entry.2.credit = 0) ∧
        s.pop = ({ queues := (startRound (dropDrained s.queues)).set key
                     { q with credit := q.credit - 1, items := rest }
                   pending := s.pending - 1 }, some (key, item)) := by
  by_cases nothing : (dropDrained s.queues).entries = []
  · left
    refine ⟨nothing, ?_⟩
    simp only [pop, nothing, List.isEmpty_nil, if_true]
  · right
    obtain ⟨before, key, q, item, rest, after, split, shape, credit, earlier, served⟩ :=
      s.serve_round wf nothing
    refine ⟨before, key, q, item, rest, after, split, shape, credit, earlier, ?_⟩
    have waiting : (dropDrained s.queues).entries.isEmpty = false := by
      simpa using nothing
    simp only [pop, waiting, Bool.false_eq_true, if_false, served]

theorem pop_queues (s : FairScheduler) (wf : s.QueuesWellFormed) : s.pop.1.QueuesWellFormed := by
  have keptWf : ∀ key q, (dropDrained s.queues).get? key = some q → QueueWellFormed key q :=
    fun key q read => wf key q ((get?_dropDrained _ _ _).mp read).1
  rcases s.pop_cases wf with ⟨_, result⟩ |
    ⟨before, served, q, item, rest, after, split, _, credit, _, result⟩
  · rw [result]
    exact keptWf
  · rw [result]
    intro key queue read
    have roundWf := (startRound_spec _ keptWf).1
    simp only [Dict.get?_set] at read
    by_cases same : key = served
    · rw [if_pos same, Option.some.injEq] at read
      subst read
      have servedRead : (startRound (dropDrained s.queues)).get? served = some q := by
        rw [← Dict.mem_entries_iff, split]
        simp
      obtain ⟨keyed, weighted, credited⟩ := roundWf served q servedRead
      exact { keyed := same ▸ keyed
              weighted := weighted
              credited := ⟨by simp only; omega, by simp only; omega⟩ }
    · rw [if_neg same] at read
      exact roundWf key queue read

theorem queuedItems_dropDrained (queues : Dict JobId JobQueue) (jobId : JobId) :
    queuedItems (dropDrained queues) jobId = queuedItems queues jobId := by
  unfold queuedItems dropDrained
  rw [Dict.get?_keep]
  cases found : queues.get? jobId with
  | none => rfl
  | some q =>
      cases shape : q.items <;> simp [Option.filter, shape]

theorem queuedItems_startRound (queues : Dict JobId JobQueue) (jobId : JobId) :
    queuedItems (startRound queues) jobId = queuedItems queues jobId := by
  unfold startRound
  split
  · rfl
  · unfold queuedItems resetCredits
    rw [Dict.get?_mapValues]
    cases queues.get? jobId <;> rfl

/-- Dropping drained queues loses nothing of what is counted over items. -/
theorem total_dropDrained {M : Type} [AddCommMonoid M] (weigh : JobId → List WorkItem → M)
    (nothing : ∀ key, weigh key [] = 0) (queues : Dict JobId JobQueue) :
    (dropDrained queues).total (fun key q => weigh key q.items) =
      queues.total (fun key q => weigh key q.items) := by
  apply Dict.total_keep
  intro key q _member drained
  have none : q.items = [] := by simpa using drained
  rw [none, nothing]

theorem total_startRound {M : Type} [AddCommMonoid M] (weigh : JobId → List WorkItem → M)
    (queues : Dict JobId JobQueue) :
    (startRound queues).total (fun key q => weigh key q.items) =
      queues.total (fun key q => weigh key q.items) := by
  unfold startRound
  split
  · rfl
  · exact Dict.total_mapValues _ _ _

/-- A total over items before a `pop` splits off the served item. -/
theorem total_pop {M : Type} [AddCancelCommMonoid M] (weigh : JobId → List WorkItem → M)
    (nothing : ∀ key, weigh key [] = 0) (front : JobId → WorkItem → M)
    (cons : ∀ key item rest, weigh key (item :: rest) = front key item + weigh key rest)
    (s s' : FairScheduler) (wf : s.QueuesWellFormed) (jobId : JobId) (item : WorkItem)
    (popped : s.pop = (s', some (jobId, item))) :
    s.queues.total (fun key q => weigh key q.items) =
      front jobId item + s'.queues.total (fun key q => weigh key q.items) := by
  rcases s.pop_cases wf with ⟨_, result⟩ |
    ⟨before, key, q, head, rest, after, split, shape, _, _, result⟩
  · rw [popped] at result
    cases (Prod.mk.inj result).2
  · rw [popped] at result
    obtain ⟨rfl, same⟩ := Prod.mk.inj result
    simp only [Option.some.injEq, Prod.mk.injEq] at same
    obtain ⟨rfl, rfl⟩ := same
    have read : (startRound (dropDrained s.queues)).get? jobId = some q := by
      rw [← Dict.mem_entries_iff, split]
      simp
    have changed := Dict.total_set_of_get?_some (fun key q => weigh key q.items)
      (startRound (dropDrained s.queues)) { q with credit := q.credit - 1, items := rest } read
    rw [total_startRound, total_dropDrained weigh nothing] at changed
    simp only [shape, cons, ← add_assoc] at changed
    rw [← add_right_cancel changed, add_comm]

/-- `pop` returns nothing only when nothing is queued for any job. -/
theorem pop_none_spec (s s' : FairScheduler) (wf : s.WellFormed) (popped : s.pop = (s', none)) :
    s.pending = 0 ∧ (∀ jobId, s.itemsOf jobId = []) ∧ s' = { s with queues := Dict.empty } := by
  rcases s.pop_cases wf.queue with ⟨nothing, result⟩ | ⟨_, _, _, _, _, _, _, _, _, _, result⟩
  · have emptied : dropDrained s.queues = Dict.empty := by
      cases drained : dropDrained s.queues with
      | mk entries distinct =>
          rw [drained] at nothing
          cases nothing
          rfl
    rw [popped, emptied] at result
    refine ⟨?_, ?_, (Prod.mk.inj result).1⟩
    · rw [wf.counted, ← total_dropDrained (fun _ items => (items.length : Int)) (fun _ => rfl),
        emptied]
      rfl
    · intro jobId
      unfold itemsOf
      rw [← queuedItems_dropDrained, emptied]
      rfl
  · rw [popped] at result
    cases (Prod.mk.inj result).2

/-- A returned item was the first of its job's queue; other queues keep theirs. -/
theorem pop_some_spec (s s' : FairScheduler) (wf : s.WellFormed) (jobId : JobId)
    (item : WorkItem) (popped : s.pop = (s', some (jobId, item))) :
    s.itemsOf jobId = item :: s'.itemsOf jobId ∧
      (∀ other, other ≠ jobId → s'.itemsOf other = s.itemsOf other) ∧
      s'.pending = s.pending - 1 ∧ s'.WellFormed := by
  rcases s.pop_cases wf.queue with ⟨_, result⟩ |
    ⟨before, key, q, head, rest, after, split, shape, credit, _, result⟩
  · rw [popped] at result
    cases (Prod.mk.inj result).2
  · rw [popped] at result
    obtain ⟨rfl, same⟩ := Prod.mk.inj result
    simp only [Option.some.injEq, Prod.mk.injEq] at same
    obtain ⟨rfl, rfl⟩ := same
    have sameItems : ∀ other, queuedItems (startRound (dropDrained s.queues)) other =
        s.itemsOf other := by
      intro other
      rw [queuedItems_startRound, queuedItems_dropDrained]
      rfl
    have counted := total_pop (fun _ items => (items.length : Int)) (fun _ => rfl)
      (fun _ _ => 1) (fun _ _ _ => by simp [add_comm]) s _ wf.queue jobId item popped
    rw [← wf.counted] at counted
    have kept := s.pop_queues wf.queue
    rw [popped] at kept
    generalize startRound (dropDrained s.queues) = round at *
    have read : round.get? jobId = some q := by
      rw [← Dict.mem_entries_iff, split]
      simp
    refine ⟨?_, ?_, rfl, kept, ?_⟩
    · have listed := sameItems jobId
      unfold queuedItems at listed
      simp only [read, shape] at listed
      rw [← listed]
      simp only [itemsOf, queuedItems, Dict.get?_set_same]
    · intro other different
      rw [← sameItems other]
      simp only [itemsOf, queuedItems, Dict.get?_set_other _ _ different]
    · simp only at counted ⊢
      omega

/-- What is pending is queued for some job. -/
theorem WellFormed.pending_eq_zero_iff {s : FairScheduler} (wf : s.WellFormed) :
    s.pending = 0 ↔ ∀ jobId, s.itemsOf jobId = [] := by
  constructor
  · intro none jobId
    exact wf.itemsOf_of_no_pending none jobId
  · intro empty
    cases popped : s.pop with
    | mk rest served =>
        cases served with
        | none => exact (s.pop_none_spec rest wf popped).1
        | some served =>
            have front := (s.pop_some_spec rest wf served.1 served.2 popped).1
            rw [empty served.1] at front
            cases front

theorem known_of_pop (s : FairScheduler) (wf : s.QueuesWellFormed) {jobId : JobId} {q : JobQueue}
    (read : s.pop.1.queues.get? jobId = some q) : ∃ old, s.queues.get? jobId = some old := by
  have known : ∀ key q, (startRound (dropDrained s.queues)).get? key = some q →
      ∃ old, s.queues.get? key = some old := by
    intro key q found
    have listed : (key, q) ∈ (startRound (dropDrained s.queues)).entries :=
      (Dict.mem_entries_iff _ key q).mpr found
    rw [startRound_entries] at listed
    rcases List.mem_map.mp listed with ⟨entry, member, same⟩
    have kept : (dropDrained s.queues).get? key = some entry.2 := by
      rw [← Dict.mem_entries_iff, ← (Prod.mk.inj same).1]
      exact member
    exact ⟨entry.2, ((get?_dropDrained _ _ _).mp kept).1⟩
  rcases s.pop_cases wf with ⟨nothing, result⟩ |
    ⟨before, key, q', item, rest, after, split, _, _, _, result⟩
  · rw [result] at read
    exact ⟨q, ((get?_dropDrained _ _ _).mp read).1⟩
  · rw [result] at read
    simp only [Dict.get?_set] at read
    by_cases same : jobId = key
    · subst same
      apply known jobId q'
      rw [← Dict.mem_entries_iff, split]
      simp
    · rw [if_neg same] at read
      exact known jobId q read

theorem pop_wellFormed (s : FairScheduler) (wf : s.WellFormed) : s.pop.1.WellFormed := by
  cases popped : s.pop with
  | mk s' served =>
      cases served with
      | none =>
          obtain ⟨zero, _, rfl⟩ := s.pop_none_spec s' wf popped
          exact ⟨fun _ _ read => (by cases read), zero⟩
      | some served => exact (s.pop_some_spec s' wf served.1 served.2 popped).2.2.2

end FairScheduler

end BatchInference
