/-
Runs of the fair scheduler: any sequence of its three operations.
-/

import BatchInference.Scheduler
import BatchInference.Lib.Credits

set_option autoImplicit false

namespace BatchInference

inductive SchedulerOp where
  | addJob (jobId : JobId) (items : List WorkItem) (priority : Priority)
  | removeJob (jobId : JobId)
  | pop

/-- What an operation shows to the outside. An addition also records which jobs
were waiting without credit at that moment. -/
inductive SchedulerEvent where
  | added (jobId : JobId) (items : List WorkItem) (spent : List JobId)
  | removed (jobId : JobId) (count : Nat)
  | popped (served : Option (JobId × WorkItem))

namespace FairScheduler

/-- The jobs with pending items that have no credit left in this round. -/
def spentJobs (s : FairScheduler) : List JobId :=
  (s.queues.keep (fun _ q => hasItems q && decide (q.credit ≤ 0))).keys

def apply (s : FairScheduler) : SchedulerOp → FairScheduler × SchedulerEvent
  | .addJob jobId items priority =>
      (s.addJob jobId items priority, .added jobId items s.spentJobs)
  | .removeJob jobId => ((s.removeJob jobId).1, .removed jobId (s.removeJob jobId).2)
  | .pop => (s.pop.1, .popped s.pop.2)

end FairScheduler

def schedulerMachine : Machine FairScheduler SchedulerOp SchedulerEvent :=
  { initial := FairScheduler.empty
    step := fun s op => some ((s.apply op).1, [(s.apply op).2]) }

namespace SchedulerRuns

open FairScheduler

/-- A job is only added under an id that is not queued. -/
def FreshOp (s : FairScheduler) : SchedulerOp → Prop
  | .addJob jobId _ _ => s.queues.get? jobId = none
  | .removeJob _ => True
  | .pop => True

def freshAdds (s : FairScheduler) (op : SchedulerOp) (_ : FairScheduler) : Prop := FreshOp s op

def isServed (jobId : JobId) : SchedulerEvent → Bool
  | .popped (some (served, _)) => served = jobId
  | _ => false

/-- How many items of a job were returned by `pop`. -/
def servedCount (jobId : JobId) (events : List SchedulerEvent) : Nat :=
  events.countP (isServed jobId)

/-- One step of the machine is one application of an operation. -/
theorem step_eq {s s' : FairScheduler} {op : SchedulerOp} {emitted : List SchedulerEvent}
    (stepped : schedulerMachine.step s op = some (s', emitted)) :
    s' = (s.apply op).1 ∧ emitted = [(s.apply op).2] := by
  have same := Option.some.inj stepped
  rw [Prod.mk.injEq] at same
  exact ⟨same.1.symm, same.2.symm⟩

theorem apply_wellFormed (s : FairScheduler) (wf : s.WellFormed) (op : SchedulerOp)
    (fresh : FreshOp s op) : (s.apply op).1.WellFormed := by
  cases op with
  | addJob jobId items priority => exact s.addJob_wellFormed wf jobId items priority fresh
  | removeJob jobId => exact s.removeJob_wellFormed wf jobId
  | pop => exact s.pop_wellFormed wf

theorem reachable_wellFormed {ok : FairScheduler → SchedulerOp → FairScheduler → Prop}
    (fresh : ∀ s op s', ok s op s' → FreshOp s op) {events : List SchedulerEvent}
    {s : FairScheduler} (reached : schedulerMachine.Reaches ok events s) : s.WellFormed := by
  refine Machine.Run.invariant reached (fun _ s => s.WellFormed) wellFormed_empty ?_
  intro _ _ s s' op wf admissible stepped
  rw [(step_eq stepped).1]
  exact apply_wellFormed s wf op (fresh s op s' admissible)

/-- A new round is started only when every queue has spent its credit. -/
theorem startRound_cases (queues : Dict JobId JobQueue)
    (wf : ∀ key q, queues.get? key = some q → QueueWellFormed key q) :
    startRound queues = queues ∨
      (∀ key q, queues.get? key = some q → q.credit = 0) ∧
        startRound queues = resetCredits queues := by
  unfold startRound
  split
  · exact Or.inl rfl
  · rename_i nobody
    refine Or.inr ⟨fun key q read => ?_, rfl⟩
    have bounds := (wf key q read).credited
    have noCredit : ¬0 < q.credit := by
      intro positive
      apply nobody
      apply List.any_eq_true.mpr
      exact ⟨q, (queues.mem_values_iff q).mpr ⟨key, read⟩, decide_eq_true positive⟩
    omega

end SchedulerRuns

end BatchInference
