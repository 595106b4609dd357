/-
The data of app/models.py: priorities, prompts, work items, results and jobs.

Times and amounts of money are exact rationals. A job is mutable in the source
and shared by reference; here a job is a value in the store, and every update
goes through the store.
-/

import BatchInference.Lib.Dict
import Mathlib.Algebra.Order.Field.Rat
import Mathlib.Data.List.Sort

set_option autoImplicit false

namespace BatchInference

/-- An absent and an empty text are both falsy in the source. -/
def truthy : Option String → Option String
  | some text => if text = "" then none else some text
  | none => none

inductive Priority where
  | high
  | normal
  | low
deriving DecidableEq, Repr

def Priority.value : Priority → String
  | .high => "high"
  | .normal => "normal"
  | .low => "low"

theorem Priority.value_injective {priority priority' : Priority}
    (same : priority.value = priority'.value) : priority = priority' := by
  cases priority <;> cases priority' <;> first | rfl | exact absurd same (by decide)

structure PromptItem where
  id : Option String
  prompt : String
deriving DecidableEq, Repr

inductive JobState where
  | pending
  | running
  | completed
  | failed
  | cancelled
deriving DecidableEq, Repr

structure InferenceResult where
  id : String
  prompt : String
  success : Bool
  output : Option String := none
  error : Option String := none
  attempts : Nat := 0
  inputTokens : Int := 0
  outputTokens : Int := 0
  costUsd : ℚ := 0
deriving DecidableEq

structure WorkItem where
  seq : Nat
  id : String
  prompt : String
deriving DecidableEq, Repr

/-- `uuid.uuid4().hex`. -/
abbrev JobId := String

structure Job where
  id : JobId
  state : JobState := .pending
  priority : Priority := .normal
  total : Nat := 0
  completed : Nat := 0
  succeeded : Nat := 0
  failed : Nat := 0
  retries : Nat := 0
  inputTokens : Int := 0
  outputTokens : Int := 0
  costUsd : ℚ := 0
  idempotencyKey : Option String := none
  requestFingerprint : Option String := none
  createdAt : ℚ
  startedAt : Option ℚ := none
  finishedAt : Option ℚ := none
  results : Dict Nat InferenceResult := Dict.empty

/-- Results in submission order. -/
def Job.orderedResults (job : Job) : List InferenceResult :=
  (job.results.keys.insertionSort (· ≤ ·)).filterMap job.results.get?

/-- Failed results, in submission order. -/
def Job.deadLetter (job : Job) : List InferenceResult :=
  job.orderedResults.filter (fun result => !result.success)

theorem Job.orderedResults_perm (job : Job) : job.orderedResults.Perm job.results.values := by
  rw [← job.results.filterMap_get?_keys]
  exact (List.perm_insertionSort _ _).filterMap _

/-- Results with numbers below `total` are listed by number. -/
theorem Job.orderedResults_of_lt (job : Job) {total : Nat}
    (below : ∀ seq ∈ job.results.keys, seq < total) :
    job.orderedResults = (List.range total).filterMap job.results.get? := by
  have sorted : job.results.keys.insertionSort (· ≤ ·) =
      (List.range total).filter (· ∈ job.results.keys) := by
    have perm : (job.results.keys.insertionSort (· ≤ ·)).Perm
        ((List.range total).filter (· ∈ job.results.keys)) := by
      have distinct : job.results.keys.Nodup := job.results.distinct
      refine (List.perm_insertionSort (· ≤ ·) job.results.keys).trans ?_
      rw [List.perm_ext_iff_of_nodup distinct (List.nodup_range.filter _)]
      intro seq
      rw [List.mem_filter, List.mem_range, decide_eq_true_eq]
      exact ⟨fun listed => ⟨below seq listed, listed⟩, fun both => both.2⟩
    exact perm.eq_of_pairwise' (List.pairwise_insertionSort _ _)
      (List.pairwise_le_range.filter _)
  unfold Job.orderedResults
  rw [sorted, List.filterMap_filter]
  apply List.filterMap_congr
  intro seq _
  split
  · rfl
  · rename_i unlisted
    rw [decide_eq_true_eq, Dict.not_mem_keys_iff] at unlisted
    exact unlisted.symm

/-- With a result for every number below `total`, they are listed by number. -/
theorem Job.orderedResults_of_range (job : Job) {total : Nat}
    (all : job.results.keys.Perm (List.range total)) :
    job.orderedResults = (List.range total).filterMap job.results.get? :=
  job.orderedResults_of_lt (fun _ listed => List.mem_range.mp (all.mem_iff.mp listed))

end BatchInference
