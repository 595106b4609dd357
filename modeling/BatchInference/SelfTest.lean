/-
The self-test of app/selftest.py, run beside an engine that others use.

The coroutine keeps the event loop from one `asyncio.sleep` to the next; its calls of
`submit_with_idempotency` do not suspend. Meanwhile only the clocks go on. Every reading
of `perf_counter` is the end of a piece, so time may pass between any two of them.
-/

import BatchInference.EventStream

set_option autoImplicit false

namespace BatchInference
namespace SelfTest

open Engine EventStream

/-! ### The batches -/

def samplePrompts : List String :=
  ["What is machine learning?",
    "Explain transformer architecture",
    "What is a batch inference engine?",
    "Define latency vs throughput",
    "What is exponential backoff with jitter?",
    "Explain the AIMD congestion control algorithm",
    "What is a token bucket rate limiter?",
    "How does a weighted round-robin fair scheduler work?",
    "What is a dead letter queue?",
    "Why is idempotency important in distributed systems?"]

def makePrompts (tag : String) (count : Nat) : List PromptItem :=
  (List.range count).map (fun i =>
    { id := none
      prompt := s!"[{tag}-{i + 1}] " ++ samplePrompts.getD (i % samplePrompts.length) "" })

/-- `max(5, min(n, 200))`. -/
def clamp (n : Int) : Nat := (max 5 (min n 200)).toNat

def primaryPrompts (n : Nat) : List PromptItem := makePrompts "st" n

def fairnessPrompts (n : Nat) : List PromptItem := makePrompts "fair" (max 5 (n / 5))

def primaryKey (runId : String) : String := "self-test-" ++ runId

def fairnessKey (runId : String) : String := "self-test-fair-" ++ runId

/-! ### The report -/

structure Checks where
  immediateAck : Bool
  idempotencyRoundtrip : Bool
  allPromptsAggregated : Bool
  noPromptsDropped : Bool
  retryRecoveryObserved : Bool
  concurrencyCapRespected : Bool
  queueDrained : Bool
  fairScheduling : Bool
deriving DecidableEq

/-- All checks but the informational one. -/
def Checks.passed (c : Checks) : Bool :=
  c.immediateAck && c.idempotencyRoundtrip && c.allPromptsAggregated && c.noPromptsDropped &&
    c.concurrencyCapRespected && c.queueDrained && c.fairScheduling

structure Report where
  status : String
  jobId : JobId
  prompts : Nat
  durationSeconds : ℚ
  throughputRps : ℚ
  ackLatencyMs : ℚ
  succeeded : Nat
  failed : Nat
  retries : Nat
  rateLimitHandling : String
  peakInflightObserved : Int
  concurrencyCap : Int
  fairSchedulingJobId : Option JobId
  checks : Checks
deriving DecidableEq

/-- The endpoint: the status code and the content of its response. -/
def systemSelfTest (result : Report) : Nat × Report :=
  (if result.status = "passed" then 200 else 500, result)

/-! ### The coroutine -/

/-- The locals after the first reading of the clock. -/
structure Begun where
  n : Nat
  runId : String
  t0 : ℚ
deriving DecidableEq

structure Acked extends Begun where
  jobId : JobId
  ackMs : ℚ
deriving DecidableEq

/-- Both jobs are submitted; `roundtrip` is the result of the second check. -/
structure Paired extends Acked where
  roundtrip : Bool
  fairId : JobId
deriving DecidableEq

structure Measured extends Paired where
  peakInflight : Int
  elapsed : ℚ
deriving DecidableEq

/-- Where a polling loop stands: it reads the job, then the clock, then it sleeps. -/
inductive Turn where
  | looking
  | testing
  | sleeping (until_ : ℚ)
  | left
deriving DecidableEq

/-- The exit test on the state of the job. -/
def Turn.seen (job : Job) : Turn := if isOpen job.state then .testing else .left

/-- The rest of a turn, with the time that is read or slept until. -/
def Turn.next (interval deadline now : ℚ) : Turn → Option Turn
  | .testing => some (if deadline < now then .left else .sleeping (now + interval))
  | .sleeping until_ => if until_ ≤ now then some .looking else none
  | _ => none

inductive Stage where
  | created
  | begun (l : Begun)
  | acknowledged (l : Begun) (jobId : JobId)
  | duplicating (l : Acked)
  | pairing (l : Acked) (roundtrip : Bool)
  | paired (l : Paired)
  /-- The loop on the primary job. -/
  | watching (l : Paired) (deadline : ℚ) (peak : Int) (turn : Turn)
  | measured (l : Measured)
  /-- `_poll` on the fairness job. -/
  | waiting (l : Measured) (deadline : ℚ) (turn : Turn)
  | evaluating (l : Measured) (fairJob : Option JobId)
  | returned (report : Report)
  /-- `OverloadedError` or `IdempotencyConflictError` leaves the coroutine. -/
  | refused (result : SubmitResult)
  /-- `ZeroDivisionError` leaves the coroutine. -/
  | zeroDivision
deriving DecidableEq

/-- The coroutine has not come to a suspension point. -/
def Stage.holdsLoop : Stage → Bool
  | .created => false
  | .watching _ _ _ (.sleeping _) => false
  | .waiting _ _ (.sleeping _) => false
  | .returned _ => false
  | .refused _ => false
  | .zeroDivision => false
  | _ => true

/-- A submission by the coroutine, under a new job id. -/
def submitting (p : Params) (prompts : List PromptItem) (priority : Priority) (key : String)
    (newId : JobId) (e : Engine) (next : JobId → Bool → Stage) :
    Option ((Engine × Stage) × List Event) :=
  if !newId.isEmpty && !e.store.jobs.contains newId then
    let submitted := e.submitWithIdempotency p prompts priority (some key) newId
    let stage :=
      match submitted.2 with
      | .job jobId reused => next jobId reused
      | result => .refused result
    some ((submitted.1, stage), [.submitted prompts priority (some key) submitted.2])
  else none

/-- The checks. Jobs are read when they are made, through the references of the locals. -/
def checksOf (p : Params) (l : Measured) (fairJob : Option JobId) (job : Job) (e : Engine) :
    Checks :=
  { immediateAck := decide (l.ackMs < 500)
    idempotencyRoundtrip := l.roundtrip
    allPromptsAggregated := decide (job.completed = l.n)
    noPromptsDropped := decide (job.succeeded + job.failed = l.n)
    retryRecoveryObserved := decide (0 < job.retries)
    concurrencyCapRespected := decide (l.peakInflight ≤ p.settings.globalMaxConcurrency)
    queueDrained := decide (e.scheduler.pending = 0)
    fairScheduling := (fairJob.bind e.store.get).any (fun fair =>
      fair.state == .completed && fair.succeeded == fair.total) }

def evaluate (p : Params) (l : Measured) (fairJob : Option JobId) (job : Job) (e : Engine) :
    Stage :=
  let checks := checksOf p l fairJob job e
  if l.elapsed = 0 then .zeroDivision
  else .returned
    { status := if checks.passed then "passed" else "failed"
      jobId := job.id
      prompts := l.n
      durationSeconds := roundTo 3 l.elapsed
      throughputRps := roundTo 1 (l.n / l.elapsed)
      ackLatencyMs := roundTo 1 l.ackMs
      succeeded := job.succeeded
      failed := job.failed
      retries := job.retries
      rateLimitHandling :=
        if 0 < job.retries then "observed_429s_and_recovered" else "no_429s_in_run"
      peakInflightObserved := l.peakInflight
      concurrencyCap := e.limiter.limit
      fairSchedulingJobId := fairJob
      checks := checks }

/-- One piece of the coroutine; `uuid` is what `uuid.uuid4().hex` returns in it. -/
def resume (p : Params) (n : Int) (uuid : String) (e : Engine) :
    Stage → Option ((Engine × Stage) × List Event)
  | .created =>
      some ((e, .begun
        { n := clamp n
          runId := uuid
          t0 := e.loopTime }), [])
  | .begun l =>
      submitting p (primaryPrompts l.n) .low (primaryKey l.runId) uuid e
        (fun jobId _ => .acknowledged l jobId)
  | .acknowledged l jobId =>
      some ((e, .duplicating
        { l with
          jobId := jobId
          ackMs := (e.loopTime - l.t0) * 1000 }), [])
  | .duplicating l =>
      submitting p (primaryPrompts l.n) .low (primaryKey l.runId) uuid e
        (fun jobId reused => .pairing l (reused && jobId == l.jobId))
  | .pairing l roundtrip =>
      submitting p (fairnessPrompts l.n) .normal (fairnessKey l.runId) uuid e
        (fun fairId _ => .paired
          { l with
            roundtrip := roundtrip
            fairId := fairId })
  | .paired l => some ((e, .watching l (e.loopTime + 60) 0 .looking), [])
  | .watching l deadline peak .looking =>
      (e.store.get l.jobId).map (fun job =>
        ((e, .watching l deadline (max peak e.limiter.inUse) (Turn.seen job)), []))
  | .watching l _ peak .left =>
      some ((e, .measured
        { l with
          peakInflight := peak
          elapsed := e.loopTime - l.t0 }), [])
  | .watching l deadline peak turn =>
      (turn.next (1 / 10) deadline e.loopTime).map (fun turn =>
        ((e, .watching l deadline peak turn), []))
  | .measured l => some ((e, .waiting l (e.loopTime + 30) .looking), [])
  | .waiting l deadline .looking =>
      match e.store.get l.fairId with
      | none => some ((e, .evaluating l none), [])
      | some job => some ((e, .waiting l deadline (Turn.seen job)), [])
  | .waiting l _ .left => some ((e, .evaluating l (some l.fairId)), [])
  | .waiting l deadline turn =>
      (turn.next (15 / 100) deadline e.loopTime).map (fun turn =>
        ((e, .waiting l deadline turn), []))
  | .evaluating l fairJob =>
      (e.store.get l.jobId).map (fun job => ((e, evaluate p l fairJob job e), []))
  | _ => none

/-! ### Engine and self-test on one event loop -/

inductive TestLabel where
  | engine (label : Label)
  | resume (uuid : String)

def isTick : Label → Bool
  | .tick _ _ => true
  | _ => false

/-- The engine goes on from `opened`, with all its other clients, while one self-test runs. -/
def selfTestMachine (p : Params) (n : Int) (opened : Engine) :
    Machine (Engine × Stage) TestLabel Event :=
  { initial := (opened, .created)
    step := fun s label =>
      match label with
      | .engine label =>
          if s.2.holdsLoop && !isTick label then none
          else ((engineMachine p).step s.1 label).map (fun next => ((next.1, s.2), next.2))
      | .resume uuid => if s.1.atAwait then resume p n uuid s.1 s.2 else none }

end SelfTest
end BatchInference
