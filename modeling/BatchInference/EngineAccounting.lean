/-
The books of the jobs.

Every submitted job is active, completed or cancelled, and the counters say how
many of each there are; a job that has ended has no items in the scheduler. The
last result and a cancellation keep the books. The end of a shutdown closes the
jobs that are still open without counting them and without emptying their queues.
-/

import BatchInference.EngineCompletion

set_option autoImplicit false

namespace BatchInference
namespace EngineAccounting

open Engine EngineItems EngineFate EngineCompletion

/-- The counters add up and jobs that have ended have nothing pending. -/
structure Balanced (e : Engine) : Prop where
  counters : e.metrics.jobsSubmitted =
    e.metrics.jobsCompleted + e.metrics.jobsCancelled + e.active.card
  drained : ∀ jobId job, e.store.get jobId = some job → isOpen job.state = false →
    e.scheduler.jobPending jobId = 0

/-- When `shutdown` closes the books, all jobs have already ended. -/
def NothingInterrupted (e : Engine) (label : Label) : Prop :=
  label = .shutdownReturned →
    ∀ jobId job, e.store.get jobId = some job → isOpen job.state = false

/-! ### The counters -/

/-- The first equation of the books. -/
def CountersAddUp (e : Engine) : Prop :=
  e.metrics.jobsSubmitted = e.metrics.jobsCompleted + e.metrics.jobsCancelled + e.active.card

theorem card_erase_running {e : Engine} (roster : Roster e) {jobId : JobId}
    (running : e.stateOf jobId = some .running) :
    (e.active.erase jobId).card + 1 = e.active.card :=
  Finset.card_erase_add_one ((roster.active jobId).mpr running)

theorem counters_next {p : Params} {e e' : Engine} {label : Label} (roster : Roster e)
    (nothing : NothingInterrupted e label) (addUp : CountersAddUp e)
    (step : RosterStep p e label e') : CountersAddUp e' := by
  unfold CountersAddUp at addUp ⊢
  cases step with
  | quiet active states counters pending =>
      simp only [jobCounters, Prod.mk.injEq] at counters
      rw [counters.1, counters.2.1, counters.2.2, active]
      exact addUp
  | admitted newId count fresh below room active states counters pending =>
      have new : newId ∉ e.active := by
        intro member
        rw [(roster.active newId).mp member] at fresh
        cases fresh
      simp only [jobCounters, Prod.mk.injEq] at counters
      rw [counters.1, counters.2.1, counters.2.2, active, Finset.card_insert_of_notMem new]
      omega
  | completed jobId running active states counters pending =>
      have fewer := card_erase_running roster running
      simp only [jobCounters, Prod.mk.injEq] at counters
      rw [counters.1, counters.2.1, counters.2.2, active]
      omega
  | cancelled jobId state known unfinished active states counters pending =>
      rw [roster.running_of_open known unfinished] at known
      have fewer := card_erase_running roster known
      simp only [jobCounters, Prod.mk.injEq] at counters
      rw [counters.1, counters.2.1, counters.2.2, active]
      omega
  | interrupted ending active states counters pending =>
      have same : e'.active = e.active := by
        ext jobId
        rw [active jobId]
        refine and_iff_left ?_
        rintro ⟨state, known, unfinished⟩
        obtain ⟨job, found, rfl⟩ := Option.map_eq_some_iff.mp known
        rw [nothing ending jobId job found] at unfinished
        cases unfinished
      simp only [jobCounters, Prod.mk.injEq] at counters
      rw [counters.1, counters.2.1, counters.2.2, same]
      exact addUp

/-- A job interrupted by shutdown is missing from the counters. -/
theorem interruption_uncounted {e : Engine} (roster : Roster e) (addUp : CountersAddUp e)
    {jobId : JobId} {job : Job} (found : e.store.get jobId = some job)
    (unfinished : isOpen job.state = true) : ¬CountersAddUp e.interruptJobs := by
  obtain ⟨active, _, counters⟩ := interruptJobs_roster e
  have known : e.stateOf jobId = some job.state := Option.map_eq_some_iff.mpr ⟨job, found, rfl⟩
  have fewer : e.interruptJobs.active.card < e.active.card := by
    apply Finset.card_lt_card
    constructor
    · intro other member
      exact ((active other).mp member).1
    · intro all
      have running := roster.running_of_open known unfinished
      have member := (roster.active jobId).mpr (known.trans (congrArg some running))
      exact ((active jobId).mp (all member)).2 ⟨job.state, known, unfinished⟩
  simp only [jobCounters, Prod.mk.injEq] at counters
  unfold CountersAddUp at addUp ⊢
  rw [counters.1, counters.2.1, counters.2.2]
  omega

/-! ### The queues -/

theorem cancelled_empties {p : Params} {e e' : Engine} {label : Label} {emitted : List Event}
    (step : Step p e label e' emitted) {jobId : JobId} {items : List WorkItem}
    (shown : Event.cancelled jobId items ∈ emitted) : queued jobId e' = 0 := by
  obtain ⟨_, rfl⟩ := cancelled_step step shown
  unfold queued
  rw [(cancelOpen_frame jobId e).2.1, FairScheduler.itemsOf_removeJob, if_pos rfl]
  rfl

/-- Cancelled jobs have nothing queued. -/
def Emptied (e : Engine) : Prop :=
  ∀ jobId job, e.store.get jobId = some job → job.state = .cancelled → queued jobId e = 0

theorem emptied_next {p : Params} {e e' : Engine} {label : Label} {emitted : List Event}
    (stored : e.Stored) (nothing : NothingInterrupted e label) (emptied : Emptied e)
    (step : Step p e label e' emitted) : Emptied e' := by
  intro jobId job' found' gone
  rcases step.job found' with ⟨job, found, change⟩ | ⟨_, prompts, priority, key, _, rfl⟩
  · have still : job.state = .cancelled → queued jobId e' = 0 := by
      intro before
      have part := queued_shrinks stored step found
      rw [emptied jobId job found before] at part
      exact Multiset.le_zero.mp part
    cases change with
    | kept silent => exact still gone
    | retried silent answered => exact still gone
    | advanced seq result cost silent answered => exact still (cancelled_advance.mp gone)
    | cancelled items unfinished shown => exact cancelled_empties step shown
    | interrupted ending unfinished =>
        have returned := interrupting_label step ending found found' unfinished
        rw [nothing returned jobId job found] at unfinished
        cases unfinished
  · cases gone

variable {p : Params} {events : List Event} {e : Engine}

theorem completed_drained {ok : Engine → Label → Engine → Prop}
    (run : (engineMachine p).Reaches ok events e) {jobId : JobId} {job : Job}
    (found : e.store.get jobId = some job) (completed : job.state = .completed) :
    queued jobId e = 0 := by
  obtain ⟨prompts, lost, account⟩ := (reachable_ledger False
    (fun _ _ _ _ impossible => impossible.elim) run).known jobId job found
  have all := account.complete (reachable_finished run found completed)
  have parts := account.items
  have cards := congrArg Multiset.card parts
  rw [all] at cards
  simp only [Multiset.card_add] at cards
  exact Multiset.card_eq_zero.mp (by omega)

/-! ### The books -/

/-- The test of the condition on a concrete run. -/
def nothingInterrupted (e : Engine) : Label → Bool
  | .shutdownReturned => e.store.jobs.values.all (fun job => !isOpen job.state)
  | _ => true

theorem nothingInterrupted_of_check {e : Engine} {label : Label}
    (checked : nothingInterrupted e label = true) : NothingInterrupted e label := by
  rintro rfl jobId job found
  have closed := List.all_eq_true.mp checked job
    ((e.store.jobs.mem_values_iff job).mpr ⟨jobId, found⟩)
  simpa using closed

def twoPrompts : Label :=
  .submit [{ id := none, prompt := "x" }, { id := none, prompt := "y" }] .normal none "a"

end EngineAccounting
end BatchInference
