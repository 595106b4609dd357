/-
The engine of app/engine.py as a machine on the event loop.

A label is one stretch of code of one task. The worker that runs keeps the event
loop until it reaches a suspension point, so requests, other workers and the
clock of suspended code only get their turn while no worker is inside a stretch.
A provider may answer without suspending; then its worker goes on in the same
stretch. The clocks may advance at any moment.
-/

import BatchInference.Config
import BatchInference.Metrics
import BatchInference.RateLimit
import BatchInference.Store
import BatchInference.Scheduler
import Mathlib.Data.Finset.Card

set_option autoImplicit false

namespace BatchInference

/-- The settings, the hash of a submission and the clocks at construction. -/
structure Params where
  settings : Settings
  fingerprint : List PromptItem → Priority → String
  loopStart : ℚ := 0
  wallStart : ℚ := 0

/-! ### Provider replies and what becomes of them -/

/-- How one call of the provider ends. -/
inductive Reply where
  /-- A string is returned. -/
  | returned (output : String)
  /-- Bytes are returned: `len` counts the bytes, and the text that they encode is
  stored. -/
  | returnedBytes (length : Nat) (text : String)
  /-- Something else is returned; estimating or storing it raises `error`. -/
  | returnedOther (error : String)
  /-- The same, but the `str` of the exception raises. -/
  | returnedUnprintable
  | rateLimited (retryAfter : ℚ)
  /-- Another exception, with its `str`. -/
  | raised (message : String)
  /-- Another exception whose `str` raises or cannot be stored in a result. -/
  | raisedUnprintable
  /-- `CancelledError`. -/
  | cancelled
deriving DecidableEq

/-- Exponential backoff for a 1-based attempt; `jitter` is what `rng.uniform`
returns. The power of two is an integer that no longer fits a float from
attempt 1025 on. -/
def computeBackoff (s : Settings) (attempt : Nat) (jitter : ℚ) : Except String ℚ :=
  if 1024 ≤ attempt - 1 then .error "int too large to convert to float"
  else .ok (min (s.backoffBaseSeconds * 2 ^ (attempt - 1)) s.backoffMaxSeconds + jitter)

/-- The estimate for a text of this length. -/
def estimateTokens (s : Settings) (length : Nat) : Except String Int :=
  if s.charsPerToken = 0 then .error "float division by zero"
  else .ok (max 1 ⌈(length : ℚ) / s.charsPerToken⌉)

def roundHalfEven (x : ℚ) : Int :=
  let below := ⌊x⌋
  if x - below < 1 / 2 then below
  else if 1 / 2 < x - below then below + 1
  else if below % 2 = 0 then below
  else below + 1

/-- `round(x, 8)`. -/
def round8 (x : ℚ) : ℚ := roundHalfEven (x * 10 ^ 8) / 10 ^ 8

def costOf (s : Settings) (inTokens outTokens : Int) : ℚ :=
  inTokens / 1000 * s.costPer1kInputTokens + outTokens / 1000 * s.costPer1kOutputTokens

def failure (item : WorkItem) (error : String) : InferenceResult :=
  { id := item.id
    prompt := item.prompt
    success := false
    error := some error }

/-- What the retry loop and the handlers of `_process` make of a reply. -/
inductive Settlement where
  | retry (seconds : ℚ)
  /-- A result is recorded. `credited`: `record_success` has run; `exhausted`:
  the failure is a 429. -/
  | record (result : InferenceResult) (cost : ℚ) (credited exhausted : Bool)
  /-- The handler itself raised and the item is forgotten. -/
  | lost (credited : Bool)
  | cancelled

/-- `_process` after `infer_with_retry` has returned an output of this length. -/
def complete (s : Settings) (item : WorkItem) (attempt length : Nat) (output : String) :
    Settlement :=
  match estimateTokens s item.prompt.length with
  | .error error => .record (failure item error) 0 true false
  | .ok inTokens =>
      match estimateTokens s length with
      | .error error => .record (failure item error) 0 true false
      | .ok outTokens =>
          let cost := costOf s inTokens outTokens
          .record
            { id := item.id
              prompt := item.prompt
              success := true
              output := some output
              attempts := attempt
              inputTokens := inTokens
              outputTokens := outTokens
              costUsd := round8 cost } cost true false

def settle (s : Settings) (item : WorkItem) (attempt : Nat) (jitter : ℚ) : Reply → Settlement
  | .returned output => complete s item attempt output.length output
  | .returnedBytes length text => complete s item attempt length text
  | .returnedOther error => .record (failure item error) 0 true false
  | .returnedUnprintable => .lost true
  | .rateLimited retryAfter =>
      if s.maxRetries < attempt then
        .record (failure item "429 Too Many Requests") 0 false true
      else
        match computeBackoff s attempt jitter with
        | .error error => .record (failure item error) 0 false false
        | .ok delay => .retry (max delay retryAfter)
  | .raised message => .record (failure item message) 0 false false
  | .raisedUnprintable => .lost false
  | .cancelled => .cancelled

/-! ### Workers -/

/-- An item in the hands of a worker. -/
structure InFlight where
  jobId : JobId
  item : WorkItem
  start : ℚ
  attempt : Nat

/-- Where a worker task stands. -/
inductive Loc where
  | created
  /-- At the loop test of `limiter.acquire`. -/
  | acquiring
  /-- In `Condition.wait`. -/
  | waiting
  /-- A permit has been taken; `scheduler.pop` comes next. -/
  | popping
  /-- At the head of the loop of `TokenBucket.acquire`. -/
  | gating (flight : InFlight)
  | tokenSleep (flight : InFlight) (seconds : ℚ)
  | calling (flight : InFlight) (suspended : Bool)
  | backoff (flight : InFlight) (seconds : ℚ)
  /-- In the `finally` block; afterwards the loop goes on or the task ends. -/
  | releasing (again : Bool)
  | done

namespace Loc

/-- The task is inside a stretch of code and keeps the event loop. -/
def running : Loc → Bool
  | .acquiring => true
  | .popping => true
  | .gating _ => true
  | .calling _ suspended => !suspended
  | .releasing _ => true
  | _ => false

def holdsPermit : Loc → Bool
  | .popping => true
  | .gating _ => true
  | .tokenSleep _ _ => true
  | .calling _ _ => true
  | .backoff _ _ => true
  | .releasing _ => true
  | _ => false

def flight : Loc → Option InFlight
  | .gating f => some f
  | .tokenSleep f _ => some f
  | .calling f _ => some f
  | .backoff f _ => some f
  | _ => none

def inCall : Loc → Bool
  | .calling _ _ => true
  | _ => false

def isWaiting : Loc → Bool
  | .waiting => true
  | _ => false

def isDone : Loc → Bool
  | .done => true
  | _ => false

end Loc

/-- `cancelRequested`: `Task.cancel` was called and not delivered yet. -/
structure Worker where
  loc : Loc
  cancelRequested : Bool := false

/-- Where the coroutine of `shutdown` stands. -/
inductive ShutdownPhase where
  | notStarted
  | draining
  | cancelling
  | finished
deriving DecidableEq

structure Engine where
  store : InMemoryJobStore
  scheduler : FairScheduler
  limiter : AdaptiveConcurrencyLimiter
  rateLimiter : TokenBucket
  active : Finset JobId
  workers : Dict TaskId Worker
  nextTask : Nat
  accepting : Bool
  shutdownPhase : ShutdownPhase
  metrics : Metrics
  loopTime : ℚ
  wallTime : ℚ

inductive SubmitResult where
  | overloaded (retryAfter : Int) (message : String)
  | conflict (message : String)
  | job (jobId : JobId) (reuse : Bool)
deriving DecidableEq

def promptId (position : Nat) (prompt : PromptItem) : String :=
  (truthy prompt.id).getD s!"prompt-{position + 1}"

def workItems (prompts : List PromptItem) : List WorkItem :=
  prompts.mapIdx (fun i prompt =>
    { seq := i
      id := promptId i prompt
      prompt := prompt.prompt })

namespace Job

/-- Count one more result and file it under its sequence number. -/
def record (seq : Nat) (result : InferenceResult) (cost : ℚ) (job : Job) : Job :=
  let job :=
    if result.success then
      { job with
        succeeded := job.succeeded + 1
        inputTokens := job.inputTokens + result.inputTokens
        outputTokens := job.outputTokens + result.outputTokens
        costUsd := job.costUsd + cost }
    else { job with failed := job.failed + 1 }
  { job with
    completed := job.completed + 1
    results := job.results.set seq result }

/-- The end of a job; the first end fixes `finished_at`. -/
def finish (state : JobState) (now : ℚ) (job : Job) : Job :=
  { job with
    state := state
    finishedAt := some (job.finishedAt.getD now) }

def retried (job : Job) : Job := { job with retries := job.retries + 1 }

end Job

namespace Engine

def new (p : Params) : Engine :=
  let s := p.settings
  let limiter := AdaptiveConcurrencyLimiter.new s.globalMaxConcurrency s.adaptiveMinConcurrency
    (some s.globalMaxConcurrency) s.adaptiveDecreaseFactor s.adaptiveIncreaseAfter
  { store := InMemoryJobStore.empty
    scheduler := FairScheduler.empty
    limiter := limiter
    rateLimiter := TokenBucket.new s.providerMaxRps
      (some (if s.providerBurst = 0 then s.providerMaxRps else s.providerBurst))
    active := ∅
    workers := Dict.empty
    nextTask := 0
    accepting := true
    shutdownPhase := .notStarted
    metrics := { concurrencyLimit := limiter.limit }
    loopTime := p.loopStart
    wallTime := p.wallStart }

/-- No task is inside a stretch of code: the state between two segments. -/
def atAwait (e : Engine) : Bool := e.workers.values.all (fun w => !w.loc.running)

def activeJobs (e : Engine) : Int := e.active.card

def refreshGauges (e : Engine) : Engine :=
  { e with
    metrics := { e.metrics with
      queueDepth := e.scheduler.pending
      activeJobs := e.scheduler.activeJobs
      concurrencyLimit := e.limiter.limit } }

def finalize (jobId : JobId) (state : JobState) (e : Engine) : Engine :=
  let store := e.store.update jobId (Job.finish state e.wallTime)
  let duration := (store.get jobId).bind (fun job =>
    job.finishedAt.bind (fun finished => job.startedAt.map (fun started => finished - started)))
  { e with
    store := store
    active := e.active.erase jobId
    metrics :=
      if state = .completed then
        { e.metrics with
          jobsCompleted := e.metrics.jobsCompleted + 1
          jobDuration :=
            match duration with
            | some seconds => e.metrics.jobDuration.observe seconds
            | none => e.metrics.jobDuration }
      else e.metrics }

/-! ### Requests -/

def spawn : Nat → Engine → Engine
  | 0, e => e
  | count + 1, e =>
      spawn count
        { e with
          workers := e.workers.set e.nextTask { loc := .created }
          nextTask := e.nextTask + 1 }

/-- Forget finished workers and fill the pool up to its target. -/
def ensureWorkers (p : Params) (e : Engine) : Engine :=
  let live := e.workers.keep (fun _ w => !w.loc.isDone)
  let target := min p.settings.workerPoolSize (max 1 e.scheduler.pending)
  spawn (target - live.size).toNat { e with workers := live }

/-- The admitted part of a submission. -/
def register (p : Params) (prompts : List PromptItem) (priority : Priority)
    (idempotencyKey : Option String) (newId : JobId) (e : Engine) : Engine :=
  let job : Job :=
    { id := newId
      total := prompts.length
      priority := priority
      idempotencyKey := idempotencyKey
      requestFingerprint := some (p.fingerprint prompts priority)
      state := .running
      createdAt := e.wallTime
      startedAt := some e.wallTime }
  ensureWorkers p (refreshGauges
    { e with
      store := e.store.create job
      active := insert newId e.active
      scheduler := e.scheduler.addJob newId (workItems prompts) priority
      metrics := { e.metrics with jobsSubmitted := e.metrics.jobsSubmitted + 1 } })

def reject (e : Engine) : Engine :=
  { e with metrics := { e.metrics with jobsRejected := e.metrics.jobsRejected + 1 } }

def existingJob (idempotencyKey : Option String) (e : Engine) : Option Job :=
  (truthy idempotencyKey).bind e.store.findByIdempotencyKey

/-- The text of `IdempotencyConflictError`. -/
def conflictMessage (key : String) : String :=
  s!"Idempotency-Key '{key}' was already used with a different payload."

def submitWithIdempotency (p : Params) (prompts : List PromptItem) (priority : Priority)
    (idempotencyKey : Option String) (newId : JobId) (e : Engine) : Engine × SubmitResult :=
  let retryAfter := p.settings.overloadRetryAfterSeconds
  if !e.accepting then (e, .overloaded retryAfter "Service is shutting down")
  else
    match e.existingJob idempotencyKey with
    | some existing =>
        if existing.requestFingerprint ≠ some (p.fingerprint prompts priority) then
          (e, .conflict (conflictMessage (idempotencyKey.getD "")))
        else
          ({ e with metrics := { e.metrics with
              idempotentReuse := e.metrics.idempotentReuse + 1 } }, .job existing.id true)
    | none =>
        if p.settings.maxActiveJobs ≤ e.activeJobs then
          (e.reject, .overloaded retryAfter "Service overloaded")
        else if p.settings.maxQueueSize < e.scheduler.pending + prompts.length then
          (e.reject, .overloaded retryAfter "Scheduler queue is at capacity")
        else (e.register p prompts priority idempotencyKey newId, .job newId false)

def isOpen : JobState → Bool
  | .pending => true
  | .running => true
  | _ => false

def cancelOpen (jobId : JobId) (e : Engine) : Engine :=
  let e := finalize jobId .cancelled { e with scheduler := (e.scheduler.removeJob jobId).1 }
  refreshGauges
    { e with metrics := { e.metrics with jobsCancelled := e.metrics.jobsCancelled + 1 } }

def cancel (jobId : JobId) (e : Engine) : Engine × Option Bool :=
  match e.store.get jobId with
  | none => (e, none)
  | some job => if isOpen job.state then (e.cancelOpen jobId, some true) else (e, some false)

/-- The prompts that a replay submits again. -/
def replayPrompts (job : Job) : List PromptItem :=
  job.deadLetter.map (fun result =>
    { id := some result.id
      prompt := result.prompt })

/-- An unknown job and a job without failures are not replayed. -/
def replayFailed (p : Params) (jobId : JobId) (priority : Option Priority) (newId : JobId)
    (e : Engine) : Option (List PromptItem × Priority × Engine × SubmitResult) :=
  match e.store.get jobId with
  | none => none
  | some job =>
      if job.deadLetter.isEmpty then none
      else
        let prompts := replayPrompts job
        let chosen := priority.getD job.priority
        let submitted := e.submitWithIdempotency p prompts chosen none newId
        some (prompts, chosen, submitted.1, submitted.2)

/-! ### Worker code -/

def moveTo (task : TaskId) (w : Worker) (loc : Loc) (e : Engine) : Engine :=
  { e with workers := e.workers.set task { w with loc := loc } }

/-- The gauges that a worker sets after `scheduler.pop`. -/
def gaugePop (scheduler : FairScheduler) (e : Engine) : Metrics :=
  { e.metrics with
    queueDepth := scheduler.pending
    inflight := e.limiter.inUse }

/-- The job was cancelled after the item was queued, or is unknown. -/
def skips (jobId : JobId) (e : Engine) : Bool :=
  match e.store.get jobId with
  | none => true
  | some job => job.state = .cancelled

/-- `scheduler.pop` and the entry of `_process`. -/
def takeItem (task : TaskId) (w : Worker) (e : Engine) : Engine :=
  match e.scheduler.pop with
  | (scheduler, none) => moveTo task w (.releasing false) { e with scheduler := scheduler }
  | (scheduler, some (jobId, item)) =>
      let e :=
        { e with
          scheduler := scheduler
          metrics := e.gaugePop scheduler }
      if e.skips jobId then e.moveTo task w (.releasing true)
      else
        e.moveTo task w (.gating
          { jobId := jobId
            item := item
            start := e.loopTime
            attempt := 1 })

def onRetry (jobId : JobId) (e : Engine) : Engine :=
  let limiter := e.limiter.recordThrottle
  { e with
    store := e.store.update jobId Job.retried
    limiter := limiter
    metrics := { e.metrics with
      inferenceRetries := e.metrics.inferenceRetries + 1
      inferenceRateLimited := e.metrics.inferenceRateLimited + 1
      concurrencyLimit := limiter.limit } }

/-- The limiter hears of a success. -/
def credit (credited : Bool) (e : Engine) : Engine :=
  { e with limiter := if credited then e.limiter.recordSuccess else e.limiter }

/-- The counters that one result moves. -/
def countResult (f : InFlight) (result : InferenceResult) (cost : ℚ) (exhausted : Bool)
    (e : Engine) : Metrics :=
  let m := e.metrics
  { m with
    promptsCompleted := m.promptsCompleted + 1
    promptsSucceeded := m.promptsSucceeded + if result.success then 1 else 0
    promptsFailed := m.promptsFailed + if result.success then 0 else 1
    retriesExhausted := m.retriesExhausted + if exhausted then 1 else 0
    tokens := m.tokens + if result.success then result.inputTokens + result.outputTokens else 0
    costUsd := m.costUsd + if result.success then cost else 0
    inferenceLatency := m.inferenceLatency.observe (e.loopTime - f.start) }

/-- The end of `_process`: record the result and finish the job with its last one. -/
def record (f : InFlight) (result : InferenceResult) (cost : ℚ) (credited exhausted : Bool)
    (e : Engine) : Engine :=
  let e :=
    { e with
      limiter := if credited then e.limiter.recordSuccess else e.limiter
      store := e.store.update f.jobId (Job.record f.item.seq result cost)
      metrics := e.countResult f result cost exhausted }
  match e.store.get f.jobId with
  | none => e
  | some job =>
      if job.total ≤ job.completed ∧ job.state = .running then
        (e.finalize f.jobId .completed).refreshGauges
      else e

def release (e : Engine) : Engine :=
  let limiter := e.limiter.release
  { e with
    limiter := limiter
    metrics := { e.metrics with inflight := limiter.inUse } }

/-! ### Shutdown -/

def requestCancels (e : Engine) : Engine :=
  { e with
    workers := e.workers.mapValues (fun w => { w with cancelRequested := !w.loc.isDone })
    shutdownPhase := .cancelling }

def interruptJob (e : Engine) (jobId : JobId) : Engine :=
  match e.store.get jobId with
  | none => e
  | some job => if isOpen job.state then e.finalize jobId .cancelled else e

def interruptJobs (e : Engine) : Engine :=
  let e := e.store.jobs.keys.foldl interruptJob e
  { e with shutdownPhase := .finished }

end Engine

/-! ### The machine -/

/-- One stretch of worker code. -/
inductive Action where
  | start
  | wake
  | enter
  | take
  | gate
  | tokenWake
  | suspend
  | reply (reply : Reply) (jitter : ℚ)
  | backoffWake
  | leave
  | interrupt

inductive Label where
  | tick (loopTime wallTime : ℚ)
  | submit (prompts : List PromptItem) (priority : Priority) (idempotencyKey : Option String)
      (newId : JobId)
  | cancel (jobId : JobId)
  | replayFailed (jobId : JobId) (priority : Option Priority) (newId : JobId)
  | work (task : TaskId) (action : Action)
  | shutdown
  | graceExpired
  | shutdownReturned

/-- What a step shows to clients and to the provider. -/
inductive Event where
  | submitted (prompts : List PromptItem) (priority : Priority) (idempotencyKey : Option String)
      (result : SubmitResult)
  | cancelled (jobId : JobId) (dropped : List WorkItem)
  | called (jobId : JobId) (seq : Nat) (time : ℚ)
  | replied (jobId : JobId) (seq : Nat) (reply : Reply)

namespace Engine

/-- The worker continues after a suspension, unless it has been cancelled. -/
def mayResume (w : Worker) (e : Engine) : Bool := e.atAwait && !w.cancelRequested

def replyStep (p : Params) (task : TaskId) (w : Worker) (f : InFlight) (reply : Reply)
    (jitter : ℚ) (e : Engine) : Engine :=
  let w := { w with cancelRequested := false }
  match settle p.settings f.item f.attempt jitter reply with
  | .retry seconds => (e.onRetry f.jobId).moveTo task w (.backoff f seconds)
  | .record result cost credited exhausted =>
      (e.record f result cost credited exhausted).moveTo task w (.releasing true)
  | .lost credited => (e.credit credited).moveTo task w (.releasing true)
  | .cancelled => e.moveTo task w (.releasing false)

/-- A cancelled task is resumed with `CancelledError` at its suspension point. -/
def interruptStep (task : TaskId) (w : Worker) (e : Engine) : Option Engine :=
  let w := { w with cancelRequested := false }
  match w.loc with
  | .created => some (e.moveTo task w .done)
  | .waiting => some (moveTo task w .done { e with limiter := e.limiter.leave task })
  | .tokenSleep _ _ => some (e.moveTo task w (.releasing false))
  | .backoff _ _ => some (e.moveTo task w (.releasing false))
  | _ => none

def workStep (p : Params) (task : TaskId) (w : Worker) (action : Action) (e : Engine) :
    Option (Engine × List Event) :=
  match action, w.loc with
  | .start, .created =>
      if e.mayResume w then some (e.moveTo task w .acquiring, []) else none
  | .wake, .waiting =>
      if e.mayResume w && e.limiter.cond.waiters.get? task == some true then
        some (moveTo task w .acquiring { e with limiter := e.limiter.leave task }, [])
      else none
  | .enter, .acquiring =>
      match e.limiter.acquireOnce task with
      | (limiter, true) => some (moveTo task w .popping { e with limiter := limiter }, [])
      | (limiter, false) => some (moveTo task w .waiting { e with limiter := limiter }, [])
  | .take, .popping => some (e.takeItem task w, [])
  | .gate, .gating f =>
      match e.rateLimiter.acquireOnce 1 e.loopTime with
      | (bucket, none) =>
          some (moveTo task w (.calling f false) { e with rateLimiter := bucket },
            [.called f.jobId f.item.seq e.loopTime])
      | (bucket, some seconds) =>
          some (moveTo task w (.tokenSleep f seconds) { e with rateLimiter := bucket }, [])
  | .tokenWake, .tokenSleep f _ =>
      if e.mayResume w then some (e.moveTo task w (.gating f), []) else none
  | .suspend, .calling f false => some (e.moveTo task w (.calling f true), [])
  | .reply reply jitter, .calling f suspended =>
      if !suspended || e.atAwait then
        some (e.replyStep p task w f reply jitter, [.replied f.jobId f.item.seq reply])
      else none
  | .backoffWake, .backoff f _ =>
      if e.mayResume w then
        some (e.moveTo task w (.gating { f with attempt := f.attempt + 1 }), [])
      else none
  | .leave, .releasing again =>
      some (e.release.moveTo task w (if again then .acquiring else .done), [])
  | .interrupt, _ =>
      if e.atAwait && w.cancelRequested then
        (e.interruptStep task w).map (fun e' => (e', []))
      else none
  | _, _ => none

def step (p : Params) (e : Engine) : Label → Option (Engine × List Event)
  | .tick loopTime wallTime =>
      if e.loopTime ≤ loopTime then
        some ({ e with
          loopTime := loopTime
          wallTime := wallTime }, [])
      else none
  | .submit prompts priority key newId =>
      if e.atAwait && !newId.isEmpty && !e.store.jobs.contains newId then
        let submitted := e.submitWithIdempotency p prompts priority key newId
        some (submitted.1, [.submitted prompts priority key submitted.2])
      else none
  | .cancel jobId =>
      if e.atAwait then
        match e.cancel jobId with
        | (e', some true) => some (e', [.cancelled jobId (e.scheduler.itemsOf jobId)])
        | (e', _) => some (e', [])
      else none
  | .replayFailed jobId priority newId =>
      if e.atAwait && !newId.isEmpty && !e.store.jobs.contains newId then
        match e.replayFailed p jobId priority newId with
        | none => some (e, [])
        | some (prompts, chosen, e', result) => some (e', [.submitted prompts chosen none result])
      else none
  | .work task action =>
      match e.workers.get? task with
      | none => none
      | some w => e.workStep p task w action
  | .shutdown =>
      if e.atAwait && e.shutdownPhase == .notStarted then
        some ({ e with
          accepting := false
          shutdownPhase := .draining }, [])
      else none
  | .graceExpired =>
      if e.atAwait && e.shutdownPhase == .draining then some (e.requestCancels, []) else none
  | .shutdownReturned =>
      if e.workers.values.all (fun w => w.loc.isDone) &&
          (e.shutdownPhase == .draining || e.shutdownPhase == .cancelling) then
        some (e.interruptJobs, [])
      else none

end Engine

/-- All runs of one engine with the given parameters. -/
def engineMachine (p : Params) : Machine Engine Label Event :=
  { initial := Engine.new p
    step := Engine.step p }

end BatchInference
