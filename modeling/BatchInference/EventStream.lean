/-
The event stream of a job: `job_events.stream` of app/main.py.

The generator runs between the segments of the engine. It is suspended at every
`yield`, in `asyncio.sleep` and possibly in `is_disconnected`, and reads the live
job when it is resumed. The snapshot that it sends was taken before the last
suspension. The client stays connected.
-/

import BatchInference.Engine
import BatchInference.Lib.Machine

set_option autoImplicit false

namespace BatchInference

/-! ### Snapshots -/

/-- `round(x, digits)`. -/
def roundTo (digits : Nat) (x : ℚ) : ℚ := roundHalfEven (x * 10 ^ digits) / 10 ^ digits

def JobState.value : JobState → String
  | .pending => "pending"
  | .running => "running"
  | .completed => "completed"
  | .failed => "failed"
  | .cancelled => "cancelled"

structure CostSummary where
  inputTokens : Int
  outputTokens : Int
  totalTokens : Int
  estimatedCostUsd : ℚ
deriving DecidableEq

structure Snapshot where
  jobId : JobId
  state : JobState
  priority : Priority
  total : Nat
  completed : Nat
  succeeded : Nat
  failed : Nat
  pending : Nat
  retries : Nat
  progress : String
  percent : ℚ
  cost : CostSummary
  createdAt : ℚ
  startedAt : Option ℚ
  finishedAt : Option ℚ
  durationSeconds : Option ℚ
deriving DecidableEq

namespace Job

def costSummary (job : Job) : CostSummary :=
  { inputTokens := job.inputTokens
    outputTokens := job.outputTokens
    totalTokens := job.inputTokens + job.outputTokens
    estimatedCostUsd := roundTo 6 job.costUsd }

def snapshot (pending : Nat) (now : ℚ) (job : Job) : Snapshot :=
  { jobId := job.id
    state := job.state
    priority := job.priority
    total := job.total
    completed := job.completed
    succeeded := job.succeeded
    failed := job.failed
    pending := pending
    retries := job.retries
    progress := s!"{job.completed}/{job.total}"
    percent := if job.total = 0 then 0 else roundTo 2 ((job.completed : ℚ) / job.total * 100)
    cost := job.costSummary
    createdAt := job.createdAt
    startedAt := job.startedAt
    finishedAt := job.finishedAt
    durationSeconds :=
      job.startedAt.map (fun started => roundTo 4 (job.finishedAt.getD now - started)) }

end Job

namespace EventStream

open Engine

/-! ### The generator -/

/-- One chunk of the stream, before it is written as text. -/
structure SseEvent where
  event : String
  data : Snapshot
deriving DecidableEq

/-- Where the generator is suspended. -/
inductive Stage where
  | created
  /-- At the `yield` of `job_started`. -/
  | started
  /-- In `is_disconnected`, with the local `last`. -/
  | checking (last : Int)
  /-- At the `yield` of a progress event, with the local `snap`. -/
  | progressed (snap : Snapshot)
  | sleeping (last : Int)
  /-- At the `yield` of the final event. -/
  | ending
  | returned

/-- The final event has been sent. -/
def Stage.ended : Stage → Bool
  | .ending => true
  | .returned => true
  | _ => false

def terminal : List String := ["completed", "failed", "cancelled"]

/-- The handler answers 404 for an unknown job and else creates the generator. -/
def jobEvents (jobId : JobId) (e : Engine) : Except (Nat × String) Stage :=
  if (e.store.get jobId).isNone then .error (404, s!"Unknown job_id: {jobId}") else .ok .created

def snap (jobId : JobId) (e : Engine) (job : Job) : Snapshot :=
  job.snapshot (e.scheduler.jobPending jobId) e.wallTime

/-- The end of one turn of the loop. It reads the state of the live job. -/
def conclude (job : Job) (last : Int) (snap : Snapshot) : Stage × List SseEvent :=
  if terminal.contains job.state.value then
    (.ending,
      [{ event := "job_" ++ job.state.value
         data := snap }])
  else (.sleeping last, [])

/-- One turn of the loop, up to the progress event if there is one. -/
def look (job : Job) (last : Int) (snap : Snapshot) : Stage × List SseEvent :=
  if (job.completed : Int) ≠ last then
    (.progressed snap,
      [{ event := "progress"
         data := snap }])
  else conclude job last snap

/-- The generator runs from one suspension point to the next. -/
def resume (jobId : JobId) (e : Engine) : Stage → Option (Stage × List SseEvent)
  | .created =>
      (e.store.get jobId).map (fun job =>
        (.started,
          [{ event := "job_started"
             data := snap jobId e job }]))
  | .started => some (.checking (-1), [])
  | .checking last => (e.store.get jobId).map (fun job => look job last (snap jobId e job))
  | .progressed sent => (e.store.get jobId).map (fun job => conclude job job.completed sent)
  | .sleeping last => some (.checking last, [])
  | .ending => some (.returned, [])
  | .returned => none

/-! ### Engine and generator on one event loop -/

inductive StreamLabel where
  | engine (label : Label)
  | resume

/-- The engine goes on from `opened` while one stream on the job is being read. -/
def streamMachine (p : Params) (jobId : JobId) (opened : Engine) :
    Machine (Engine × Stage) StreamLabel SseEvent :=
  { initial := (opened, .created)
    step := fun s label =>
      match label with
      | .engine label =>
          ((engineMachine p).step s.1 label).map (fun next => ((next.1, s.2), []))
      | .resume =>
          if s.1.atAwait then
            (resume jobId s.1 s.2).map (fun next => ((s.1, next.1), next.2))
          else none }

/-- What one step of the two can be. -/
theorem stream_step {p : Params} {jobId : JobId} {opened : Engine} {s s' : Engine × Stage}
    {label : StreamLabel} {emitted : List SseEvent}
    (stepped : (streamMachine p jobId opened).step s label = some (s', emitted)) :
    (∃ engineLabel shown, label = .engine engineLabel ∧
        (engineMachine p).step s.1 engineLabel = some (s'.1, shown) ∧ s'.2 = s.2 ∧
        emitted = []) ∨
      label = .resume ∧ s'.1 = s.1 ∧ resume jobId s.1 s.2 = some (s'.2, emitted) := by
  cases label with
  | engine label =>
      obtain ⟨⟨next, shown⟩, moved, same⟩ := Option.map_eq_some_iff.mp stepped
      obtain ⟨rfl, rfl⟩ := Prod.mk.inj same
      exact Or.inl ⟨label, shown, rfl, moved, rfl, rfl⟩
  | resume =>
      simp only [streamMachine] at stepped
      split at stepped
      · obtain ⟨⟨stage, sent⟩, resumed, same⟩ := Option.map_eq_some_iff.mp stepped
        obtain ⟨rfl, rfl⟩ := Prod.mk.inj same
        exact Or.inr ⟨rfl, rfl, resumed⟩
      · cases stepped

/-- The names of the terminal states are those of the states that are not open. -/
theorem terminal_contains (state : JobState) :
    terminal.contains state.value = !isOpen state := by
  cases state <;> decide

end EventStream
end BatchInference
