/-
The in-memory job store of app/store.py, with its index of idempotency keys.
-/

import BatchInference.Models

set_option autoImplicit false

namespace BatchInference

structure InMemoryJobStore where
  jobs : Dict JobId Job
  byKey : Dict String JobId

namespace InMemoryJobStore

def empty : InMemoryJobStore :=
  { jobs := Dict.empty
    byKey := Dict.empty }

def create (job : Job) (s : InMemoryJobStore) : InMemoryJobStore :=
  { jobs := s.jobs.set job.id job
    byKey :=
      match truthy job.idempotencyKey with
      | some key => s.byKey.set key job.id
      | none => s.byKey }

def get (s : InMemoryJobStore) (jobId : JobId) : Option Job := s.jobs.get? jobId

def all (s : InMemoryJobStore) : List Job := s.jobs.values

def findByIdempotencyKey (s : InMemoryJobStore) (key : String) : Option Job :=
  match s.byKey.get? key with
  | some jobId => if jobId = "" then none else s.jobs.get? jobId
  | none => none

/-- A change to the shared job object, seen by every holder of the reference. -/
def update (jobId : JobId) (change : Job → Job) (s : InMemoryJobStore) : InMemoryJobStore :=
  match s.jobs.get? jobId with
  | some job => { s with jobs := s.jobs.set jobId (change job) }
  | none => s

@[simp] theorem byKey_update (jobId : JobId) (change : Job → Job) (s : InMemoryJobStore) :
    (s.update jobId change).byKey = s.byKey := by
  unfold update
  split <;> rfl

theorem get?_update (s : InMemoryJobStore) (jobId other : JobId) (change : Job → Job) :
    (s.update jobId change).jobs.get? other =
      if other = jobId then (s.jobs.get? jobId).map change else s.jobs.get? other := by
  unfold update
  cases found : s.jobs.get? jobId with
  | none =>
      by_cases same : other = jobId
      · simp [same, found]
      · simp [same]
  | some job => simp only [Dict.get?_set, Option.map_some]

theorem get?_create (s : InMemoryJobStore) (job : Job) (other : JobId) :
    (s.create job).jobs.get? other = if other = job.id then some job else s.jobs.get? other :=
  Dict.get?_set _ _ _ _

/-- A changed job keeps its place. -/
@[simp] theorem keys_update (jobId : JobId) (change : Job → Job) (s : InMemoryJobStore) :
    (s.update jobId change).jobs.keys = s.jobs.keys := by
  unfold update
  cases found : s.jobs.get? jobId with
  | none => rfl
  | some job => exact Dict.keys_set_of_mem _ _ ((s.jobs.mem_keys_iff jobId).mpr ⟨job, found⟩)

/-- A new job comes last. -/
theorem keys_create (s : InMemoryJobStore) (job : Job) (fresh : s.jobs.get? job.id = none) :
    (s.create job).jobs.keys = s.jobs.keys ++ [job.id] := by
  unfold create Dict.keys
  rw [Dict.entries_set_of_get?_none _ _ fresh, List.map_append]
  rfl

/-! ### Sums over all jobs -/

variable {M : Type} [AddCommMonoid M]

theorem total_update (amount : JobId → Job → M) (s : InMemoryJobStore) {jobId : JobId} {job : Job}
    (found : s.get jobId = some job) (change : Job → Job) :
    (s.update jobId change).jobs.total amount + amount jobId job =
      s.jobs.total amount + amount jobId (change job) := by
  have read : s.jobs.get? jobId = some job := found
  unfold update
  rw [read]
  exact Dict.total_set_of_get?_some amount s.jobs (change job) read

theorem total_create (amount : JobId → Job → M) (s : InMemoryJobStore) (job : Job)
    (fresh : s.jobs.get? job.id = none) :
    (s.create job).jobs.total amount = s.jobs.total amount + amount job.id job :=
  Dict.total_set_of_get?_none amount s.jobs job fresh

/-- A change that the amount does not see. -/
theorem total_update_same {M : Type} [AddCancelCommMonoid M] (amount : JobId → Job → M)
    (s : InMemoryJobStore) (jobId : JobId) (change : Job → Job)
    (same : ∀ job, amount jobId (change job) = amount jobId job) :
    (s.update jobId change).jobs.total amount = s.jobs.total amount := by
  cases found : s.get jobId with
  | none =>
      have absent : s.jobs.get? jobId = none := found
      unfold update
      rw [absent]
  | some job =>
      have moved := total_update amount s found change
      rw [same] at moved
      exact add_right_cancel moved

end InMemoryJobStore

end BatchInference
