/-
What one look at the service shows.

The counters of a status add up, its percentage is in range, and a completed job has
all its results. The probe, the capacity, the listing and the statuses are different
sums over the same engine, and at one moment they agree.
-/

import BatchInference.EngineTallies
import BatchInference.ServiceListings

set_option autoImplicit false

namespace BatchInference
namespace Service

open Engine EngineItems EngineFate EngineCompletion EngineGrowth

variable {p : Params} {events : List Event} {e : Engine} {jobId : JobId}

/-! ### Percentages -/

theorem roundTo_two_bounds {x : ℚ} (low : 0 ≤ x) (high : x ≤ 100) :
    0 ≤ roundTo 2 x ∧ roundTo 2 x ≤ 100 := by
  obtain ⟨lower, upper⟩ := abs_le.mp (EngineTallies.abs_sub_roundHalfEven_le (x * 10 ^ 2))
  unfold roundTo
  generalize roundHalfEven (x * 10 ^ 2) = hundredths at lower upper ⊢
  have least : 0 ≤ hundredths := by
    by_contra negative
    have below : (hundredths : ℚ) ≤ -1 := by exact_mod_cast (by omega : hundredths ≤ -1)
    linarith
  have most : hundredths ≤ 10000 := by
    by_contra beyond
    have above : (10001 : ℚ) ≤ hundredths := by exact_mod_cast (by omega : 10001 ≤ hundredths)
    linarith
  have least : (0 : ℚ) ≤ hundredths := by exact_mod_cast least
  have most : (hundredths : ℚ) ≤ 10000 := by exact_mod_cast most
  constructor
  · positivity
  · rw [div_le_iff₀ (by norm_num)]
    linarith

theorem roundTo_two_hundred : roundTo 2 100 = 100 := by decide +kernel

/-- Fewer than half a hundredth is missing from a percentage that is shown as 100. -/
theorem le_of_roundTo_two {x : ℚ} (shown : roundTo 2 x = 100) : 99995 / 1000 ≤ x := by
  obtain ⟨lower, upper⟩ := abs_le.mp (EngineTallies.abs_sub_roundHalfEven_le (x * 10 ^ 2))
  unfold roundTo at shown
  generalize roundHalfEven (x * 10 ^ 2) = hundredths at lower upper shown
  rw [div_eq_iff (by norm_num)] at shown
  linarith

/-! ### One status -/

/-- The fields of a status fit together. -/
structure Consistent (s : Snapshot) : Prop where
  counters : s.completed = s.succeeded + s.failed
  outstanding : s.completed + s.pending ≤ s.total
  percent : 0 ≤ s.percent ∧ s.percent ≤ 100
  state : s.state = .running ∨ s.state = .completed ∨ s.state = .cancelled
  finishedAt : s.finishedAt = none ↔ s.state = .running
  complete : s.state = .completed → s.completed = s.total ∧ s.pending = 0 ∧ s.percent = 100
  hundred : s.percent = 100 → s.total < 20000 → s.completed = s.total

/-- A completed job has a result. -/
theorem completed_pos {ok : Engine → Label → Engine → Prop}
    (run : (engineMachine p).Reaches ok events e) {job : Job}
    (present : e.store.get jobId = some job) (completed : job.state = .completed) :
    0 < job.completed := by
  refine run_invariant run (fun _ e => ∀ job, e.store.get jobId = some job →
    job.state = .completed → 0 < job.completed) ?_ ?_ job present completed
  · intro _ impossible
    cases impossible
  · intro _ _ _ _ _ before _ _ step job' present' completed'
    rcases step.job present' with ⟨job, known, change⟩ | ⟨_, prompts, priority, key, _, rfl⟩
    · cases change with
      | kept silent => exact before _ known completed'
      | retried silent answered => exact before job known completed'
      | advanced seq result cost silent answered =>
          rw [(advance_fields seq result cost _ job).2.1]
          exact Nat.succ_pos _
      | cancelled items unfinished shown => cases completed'
      | interrupted ending unfinished => cases completed'
    · cases completed'

/-- Queued items and results of a job are different items of it. -/
theorem outstanding_le {job : Job} {prompts : List PromptItem} {lost : Multiset WorkItem}
    (account : Account False events e jobId job prompts lost) :
    job.completed + e.scheduler.jobPending jobId ≤ job.total := by
  have parts := congrArg Multiset.card account.items
  simp only [Multiset.card_add, Multiset.coe_card, card_recorded, queued] at parts
  rw [account.counted.results, account.total, ← length_workItems, ← parts,
    FairScheduler.jobPending]
  omega

theorem status_consistent {ok : Engine → Label → Engine → Prop}
    (run : (engineMachine p).Reaches ok events e) {job : Job}
    (present : e.store.get jobId = some job) : Consistent (status job e) := by
  have run := run.anyStep
  have named := (reachable_kept run).named jobId job present
  obtain ⟨_, _, account⟩ := (reachable_ledger False
    (fun _ _ _ _ impossible => impossible.elim) run).known jobId job present
  have fate := (reachable_fates run).known jobId job present
  have room := outstanding_le account
  have atMost := account.completed_le
  have share : job.total ≠ 0 → (0 : ℚ) ≤ (job.completed : ℚ) / job.total * 100 ∧
      (job.completed : ℚ) / job.total * 100 ≤ 100 := by
    intro some_
    have positive : (0 : ℚ) < job.total := by exact_mod_cast Nat.pos_of_ne_zero some_
    have bounded : (job.completed : ℚ) ≤ job.total := by exact_mod_cast atMost
    constructor
    · positivity
    · have ratio : (job.completed : ℚ) / job.total ≤ 1 := (div_le_one positive).mpr bounded
      linarith
  refine ⟨account.counted.completed, ?_, ?_, fate.state, fate.ended, ?_, ?_⟩
  · change job.completed + e.scheduler.jobPending job.id ≤ job.total
    rw [named]
    exact room
  · change 0 ≤ (if job.total = 0 then (0 : ℚ) else _) ∧ (if job.total = 0 then (0 : ℚ) else _) ≤ 100
    by_cases empty : job.total = 0
    · rw [if_pos empty]
      exact ⟨le_refl 0, by norm_num⟩
    · rw [if_neg empty]
      exact roundTo_two_bounds (share empty).1 (share empty).2
  · intro completed
    have positive := completed_pos run present completed
    have enough : job.total ≤ job.completed := reachable_finished run present completed
    have all : job.completed = job.total := Nat.le_antisymm atMost enough
    refine ⟨all, ?_, ?_⟩
    · change e.scheduler.jobPending job.id = 0
      rw [named]
      omega
    · change (if job.total = 0 then (0 : ℚ) else
        roundTo 2 ((job.completed : ℚ) / job.total * 100)) = 100
      have some_ : job.total ≠ 0 := by omega
      rw [if_neg some_, all, div_self (by exact_mod_cast some_), one_mul]
      exact roundTo_two_hundred
  · intro shown small
    change (if job.total = 0 then (0 : ℚ) else
      roundTo 2 ((job.completed : ℚ) / job.total * 100)) = 100 at shown
    by_cases empty : job.total = 0
    · rw [if_pos empty] at shown
      norm_num at shown
    · rw [if_neg empty] at shown
      have positive : (0 : ℚ) < job.total := by exact_mod_cast Nat.pos_of_ne_zero empty
      have enough := le_of_roundTo_two shown
      have scaled : (99995 : ℚ) * job.total ≤ 100000 * job.completed := by
        rw [div_mul_eq_mul_div, le_div_iff₀ positive] at enough
        linarith
      have whole : 99995 * job.total ≤ 100000 * job.completed := by exact_mod_cast scaled
      have small : job.total < 20000 := small
      change job.completed = job.total
      omega

/-! ### All endpoints -/

/-- The listing of running jobs is the set that admission counts. -/
theorem length_running {ok : Engine → Label → Engine → Prop}
    (run : (engineMachine p).Reaches ok events e) :
    ((listed (some "running") e).length : Int) = e.activeJobs := by
  have kept := reachable_kept run
  have occupancy := EngineAdmission.reachable_occupancy run
  have running : ∀ state : JobState, (state.value == "running") = true ↔ state = .running := by
    intro state
    cases state <;> decide
  have filtered : (listed (some "running") e).Perm
      (e.store.all.filter (fun job => job.state.value == "running")) :=
    (List.perm_insertionSort _ _).filter _
  have distinct : ((e.store.all.filter (fun job => job.state.value == "running")).map
      Job.id).Nodup := by
    have ids : e.store.all.map Job.id = e.store.jobs.keys := by
      unfold InMemoryJobStore.all Dict.values Dict.keys
      rw [List.map_map]
      apply List.map_congr_left
      intro entry member
      exact kept.named entry.1 entry.2 ((e.store.jobs.mem_entries_iff _ _).mp member)
    have all : (e.store.all.map Job.id).Nodup := by
      rw [ids]
      exact e.store.jobs.distinct
    exact all.sublist (List.filter_sublist.map Job.id)
  have same : e.active =
      ((e.store.all.filter (fun job => job.state.value == "running")).map Job.id).toFinset := by
    ext jobId
    rw [occupancy.active, List.mem_toFinset, List.mem_map]
    constructor
    · rintro ⟨job, present, named, state⟩
      refine ⟨job, List.mem_filter.mpr ⟨?_, (running job.state).mpr state⟩, named⟩
      exact (e.store.jobs.mem_values_iff job).mpr ⟨jobId, present⟩
    · rintro ⟨job, member, rfl⟩
      obtain ⟨stored, state⟩ := List.mem_filter.mp member
      obtain ⟨jobId, present⟩ := (e.store.jobs.mem_values_iff job).mp stored
      have named := kept.named jobId job present
      subst named
      exact ⟨job, present, rfl, (running job.state).mp state⟩
  unfold activeJobs
  rw [filtered.length_eq, same, List.toFinset_card_of_nodup distinct, List.length_map]

/-- What is queued is what is pending for the jobs of the store. -/
theorem pending_eq_total {ok : Engine → Label → Engine → Prop}
    (run : (engineMachine p).Reaches ok events e) :
    e.scheduler.pending = e.store.jobs.total (fun _ job => ((status job e).pending : Int)) := by
  have stored := reachable_stored run
  have kept := reachable_kept run
  have inside : ∀ jobId ∈ e.scheduler.queues.keys, jobId ∈ e.store.jobs.keys := by
    intro jobId listed
    obtain ⟨q, read⟩ := (e.scheduler.queues.mem_keys_iff jobId).mp listed
    obtain ⟨job, present⟩ := Option.isSome_iff_exists.mp (stored.known jobId q read)
    exact (e.store.jobs.mem_keys_iff jobId).mpr ⟨job, present⟩
  rw [stored.queue.counted, Dict.total_of_keys _ inside]
  apply Dict.total_congr
  intro jobId job member
  have named := kept.named jobId job ((e.store.jobs.mem_entries_iff jobId job).mp member)
  subst named
  simp only [status, Job.snapshot, FairScheduler.jobPending, FairScheduler.itemsOf,
    FairScheduler.queuedItems]
  cases e.scheduler.queues.get? job.id with
  | none => rfl
  | some q => rfl

def halfRead (outcome : List Event × Engine) : Bool :=
  match jobStatus "a" outcome.2 with
  | .ok snapshot => decide (snapshot.completed = 1 ∧ snapshot.pending = 1 ∧ snapshot.percent = 50)
  | .error _ => false

end Service
end BatchInference
