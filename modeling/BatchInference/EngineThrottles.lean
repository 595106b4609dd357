/-
Which 429s the control loop sees.

The callback of the retry loop counts a 429 and signals it to the limiter. It runs
between the test of the retry budget and the sleep, so a 429 that is not followed
by a retry is neither counted nor signalled.
-/

import BatchInference.EngineRoster
import BatchInference.LimiterStreak

set_option autoImplicit false

namespace BatchInference
namespace EngineThrottles

open Engine

/-! ### The calls of the limiter -/

/-- The limiter hears of a reply through the callback or of a success. -/
def settledCalls : Settlement → List LimiterOp
  | .retry _ => [.recordThrottle]
  | .record _ _ credited _ => if credited then [.recordSuccess] else []
  | .lost credited => if credited then [.recordSuccess] else []
  | .cancelled => []

def workCalls (p : Params) (task : TaskId) (w : Worker) (action : Action) : List LimiterOp :=
  match action, w.loc with
  | .wake, .waiting => [.leave task]
  | .enter, .acquiring => [.acquireOnce task]
  | .reply reply jitter, .calling f _ =>
      settledCalls (settle p.settings f.item f.attempt jitter reply)
  | .leave, .releasing _ => [.release]
  | .interrupt, .waiting => [.leave task]
  | _, _ => []

/-- The calls that one segment makes on the limiter. -/
def limiterCalls (p : Params) (e : Engine) : Label → List LimiterOp
  | .work task action =>
      match e.workers.get? task with
      | none => []
      | some w => workCalls p task w action
  | _ => []

/-- The engine with all calls that it has made on its limiter. -/
def watched (p : Params) : Machine (Engine × List LimiterOp) Label Event :=
  (engineMachine p).logged (limiterCalls p)

def isThrottle : Event → Bool
  | .replied _ _ (.rateLimited _) => true
  | _ => false

/-- The 429s that the provider has raised. -/
def throttles (events : List Event) : Nat := events.countP isThrottle

/-- The counter and the limiter have seen every 429. -/
structure Seen (events : List Event) (e : Engine) (calls : List LimiterOp) : Prop where
  counted : e.metrics.inferenceRateLimited = throttles events
  signalled : calls.count .recordThrottle = throttles events

/-- A 429 only arrives as long as the worker would retry: within the budget, and not
beyond the attempt at which the backoff overflows. -/
def WithinBudget (p : Params) (e : Engine) (label : Label) : Prop :=
  ∀ task retryAfter jitter w f suspended,
    label = .work task (.reply (.rateLimited retryAfter) jitter) →
      e.workers.get? task = some w → w.loc = .calling f suspended →
        (f.attempt : Int) ≤ p.settings.maxRetries ∧ f.attempt ≤ 1024

/-! ### What a reply becomes -/

theorem settle_throttle (s : Settings) (item : WorkItem) (attempt : Nat)
    (jitter retryAfter : ℚ) :
    (settledCalls (settle s item attempt jitter (.rateLimited retryAfter))).count .recordThrottle =
      if (attempt : Int) ≤ s.maxRetries ∧ attempt ≤ 1024 then 1 else 0 := by
  by_cases exceeded : s.maxRetries < (attempt : Int)
  · have beyond : ¬((attempt : Int) ≤ s.maxRetries ∧ attempt ≤ 1024) :=
      fun both => absurd both.1 (not_le.mpr exceeded)
    simp only [settle, if_pos exceeded, if_neg beyond]
    rfl
  · by_cases late : 1024 ≤ attempt - 1
    · have beyond : ¬((attempt : Int) ≤ s.maxRetries ∧ attempt ≤ 1024) := by omega
      simp only [settle, if_neg exceeded, computeBackoff, if_pos late, if_neg beyond]
      rfl
    · have within : (attempt : Int) ≤ s.maxRetries ∧ attempt ≤ 1024 := by omega
      simp only [settle, if_neg exceeded, computeBackoff, if_neg late, if_pos within]
      rfl

theorem settledCalls_quiet {s : Settings} {item : WorkItem} {attempt : Nat} {jitter : ℚ}
    {reply : Reply} (quiet : ∀ seconds, settle s item attempt jitter reply ≠ .retry seconds) :
    (settledCalls (settle s item attempt jitter reply)).count .recordThrottle = 0 := by
  cases settled : settle s item attempt jitter reply with
  | retry seconds => exact absurd settled (quiet seconds)
  | record result cost credited exhausted =>
      cases credited with
      | true => rfl
      | false => rfl
  | lost credited =>
      cases credited with
      | true => rfl
      | false => rfl
  | cancelled => rfl

/-! ### One step -/

private theorem workCalls_limiter {p : Params} {e g : Engine} {task : TaskId} {w : Worker}
    {action : Action} {loc : Loc} {emitted : List Event}
    (work : WorkStep p e task w action g loc emitted) :
    g.limiter = e.limiter.after (workCalls p task w action) := by
  cases work with
  | woken at_ quiet marked =>
      simp only [workCalls, at_]
      rfl
  | granted at_ free =>
      simp only [workCalls, at_, AdaptiveConcurrencyLimiter.after, List.foldl_cons,
        List.foldl_nil, AdaptiveConcurrencyLimiter.apply, AdaptiveConcurrencyLimiter.acquireOnce,
        if_neg (not_le.mpr free)]
  | slept at_ full =>
      simp only [workCalls, at_, AdaptiveConcurrencyLimiter.after, List.foldl_cons,
        List.foldl_nil, AdaptiveConcurrencyLimiter.apply, AdaptiveConcurrencyLimiter.acquireOnce,
        if_pos full]
  | retried f before at_ alone reply jitter seconds settled =>
      simp only [workCalls, at_, settled]
      rfl
  | recorded f before at_ alone reply jitter result cost credited exhausted settled =>
      simp only [workCalls, at_, settled, record_frame]
      cases credited with
      | true => rfl
      | false => rfl
  | lost f before at_ alone reply jitter credited settled =>
      simp only [workCalls, at_, settled, credit_frame]
      cases credited with
      | true => rfl
      | false => rfl
  | callCancelled f before at_ alone reply jitter settled =>
      simp only [workCalls, at_, settled]
      rfl
  | left again at_ =>
      simp only [workCalls, at_]
      rfl
  | killed at_ requested quiet =>
      simp only [workCalls, at_]
      rfl
  | gaveUp at_ requested quiet =>
      simp only [workCalls, at_]
      rfl
  | sleepCancelled f seconds at_ requested quiet =>
      rcases at_ with at_ | at_
      · simp only [workCalls, at_]
        rfl
      · simp only [workCalls, at_]
        rfl
  | _ => rfl

/-- A reply is a 429 that the limiter hears of, or none, exactly within the budget. -/
theorem reply_seen (s : Settings) (f : InFlight) (reply : Reply) (jitter : ℚ) :
    (throttles [.replied f.jobId f.item.seq reply] =
        (settledCalls (settle s f.item f.attempt jitter reply)).count .recordThrottle) ↔
      ∀ retryAfter, reply = .rateLimited retryAfter →
        (f.attempt : Int) ≤ s.maxRetries ∧ f.attempt ≤ 1024 := by
  cases reply with
  | rateLimited retryAfter =>
      rw [settle_throttle]
      have one : throttles [.replied f.jobId f.item.seq (.rateLimited retryAfter)] = 1 := rfl
      rw [one]
      constructor
      · intro heard _ _
        by_contra beyond
        rw [if_neg beyond] at heard
        cases heard
      · intro within
        rw [if_pos (within retryAfter rfl)]
  | _ =>
      rw [settledCalls_quiet]
      · exact ⟨fun _ _ impossible => (by cases impossible), fun _ => rfl⟩
      · intro seconds settled
        obtain ⟨⟨_, impossible⟩, _⟩ := retry_of_settle settled
        cases impossible

/-- A worker receives a 429 within the budget only. -/
def ReplyWithinBudget (p : Params) (w : Worker) (action : Action) : Prop :=
  ∀ retryAfter jitter f suspended, action = .reply (.rateLimited retryAfter) jitter →
    w.loc = .calling f suspended →
      (f.attempt : Int) ≤ p.settings.maxRetries ∧ f.attempt ≤ 1024

theorem replyWithinBudget_iff (p : Params) {w : Worker} {f : InFlight} {before : Bool}
    (at_ : w.loc = .calling f before) (reply : Reply) (jitter : ℚ) :
    ReplyWithinBudget p w (.reply reply jitter) ↔
      ∀ retryAfter, reply = .rateLimited retryAfter →
        (f.attempt : Int) ≤ p.settings.maxRetries ∧ f.attempt ≤ 1024 := by
  constructor
  · rintro within retryAfter rfl
    exact within retryAfter jitter f before rfl at_
  · intro within retryAfter _ f' _ isReply there
    rw [at_] at there
    cases there
    cases isReply
    exact within retryAfter rfl

theorem rateLimited_record (f : InFlight) (result : InferenceResult) (cost : ℚ)
    (credited exhausted : Bool) (e : Engine) :
    (e.record f result cost credited exhausted).metrics.inferenceRateLimited =
      e.metrics.inferenceRateLimited := by
  rcases record_cases f result cost credited exhausted e with filed | ⟨_, ended⟩
  · rw [filed]
    rfl
  · rw [ended]
    rfl

/-- The counter moves with the calls, and both follow the 429s within the budget. -/
private theorem workCalls_seen {p : Params} {e g : Engine} {task : TaskId} {w : Worker}
    {action : Action} {loc : Loc} {emitted : List Event}
    (work : WorkStep p e task w action g loc emitted) :
    g.metrics.inferenceRateLimited = e.metrics.inferenceRateLimited +
        (workCalls p task w action).count .recordThrottle ∧
      (throttles emitted = (workCalls p task w action).count .recordThrottle ↔
        ReplyWithinBudget p w action) := by
  have answered : ∀ {f : InFlight} {before : Bool} (reply : Reply) (jitter : ℚ),
      w.loc = .calling f before →
        (throttles [.replied f.jobId f.item.seq reply] =
            (workCalls p task w (.reply reply jitter)).count .recordThrottle ↔
          ReplyWithinBudget p w (.reply reply jitter)) := by
    intro f before reply jitter at_
    rw [replyWithinBudget_iff p at_]
    simp only [workCalls, at_]
    exact reply_seen p.settings f reply jitter
  have unanswered : (∀ reply jitter, action ≠ .reply reply jitter) →
      ReplyWithinBudget p w action :=
    fun other _ _ _ _ isReply => absurd isReply (other _ _)
  cases work with
  | retried f before at_ alone reply jitter seconds settled =>
      refine ⟨?_, answered reply jitter at_⟩
      simp only [workCalls, at_, settled]
      rfl
  | recorded f before at_ alone reply jitter result cost credited exhausted settled =>
      refine ⟨?_, answered reply jitter at_⟩
      rw [rateLimited_record]
      simp only [workCalls, at_, settled]
      cases credited with
      | true => rfl
      | false => rfl
  | lost f before at_ alone reply jitter credited settled =>
      refine ⟨?_, answered reply jitter at_⟩
      simp only [workCalls, at_, settled]
      cases credited with
      | true => rfl
      | false => rfl
  | callCancelled f before at_ alone reply jitter settled =>
      refine ⟨?_, answered reply jitter at_⟩
      simp only [workCalls, at_, settled]
      rfl
  | sleepCancelled f seconds at_ requested quiet =>
      have silent : workCalls p task w .interrupt = [] := by
        rcases at_ with at_ | at_
        · simp only [workCalls, at_]
        · simp only [workCalls, at_]
      rw [silent]
      exact ⟨rfl, fun _ => unanswered (by simp), fun _ => rfl⟩
  | _ =>
      simp only [workCalls, *]
      exact ⟨rfl, fun _ => unanswered (by simp), fun _ => rfl⟩

private theorem limiter_unworked {p : Params} {e e' : Engine} {label : Label}
    {emitted : List Event} (step : Step p e label e' emitted)
    (other : ∀ task action, label ≠ .work task action) :
    e'.limiter = e.limiter ∧
      e'.metrics.inferenceRateLimited = e.metrics.inferenceRateLimited ∧
      throttles emitted = 0 := by
  cases step with
  | submitted label prompts priority key newId requested quiet named fresh =>
      refine ⟨limiter_of_request prompts priority key newId, ?_, rfl⟩
      unfold submitWithIdempotency
      split
      · rfl
      · split
        · split
          · rfl
          · rfl
        · split
          · rfl
          · split
            · rfl
            · unfold register ensureWorkers
              simp only [spawn_metrics]
              rfl
  | cancelled jobId job quiet found unfinished => exact ⟨rfl, rfl, rfl⟩
  | worked task action w g flag loc emitted found lowered work =>
      exact absurd rfl (other task action)
  | shutdownReturned ended phase =>
      refine ⟨(interruptJobs_frame e).1, ?_, rfl⟩
      rw [(interruptJobs_frame e).2.2.2.2.2.1]
  | _ => exact ⟨rfl, rfl, rfl⟩

theorem limiterCalls_work {p : Params} {e : Engine} {task : TaskId} {w : Worker}
    (found : e.workers.get? task = some w) (action : Action) :
    limiterCalls p e (.work task action) = workCalls p task w action := by
  simp only [limiterCalls, found]

/-- One step: the limiter changes by the calls only, the counter moves with the
calls, and the 429s of the step are counted exactly within the budget. -/
theorem throttles_step {p : Params} {e e' : Engine} {label : Label} {emitted : List Event}
    (stepped : (engineMachine p).step e label = some (e', emitted)) :
    e'.limiter = e.limiter.after (limiterCalls p e label) ∧
      e'.metrics.inferenceRateLimited = e.metrics.inferenceRateLimited +
        (limiterCalls p e label).count .recordThrottle ∧
      (throttles emitted = (limiterCalls p e label).count .recordThrottle ↔
        WithinBudget p e label) := by
  have unworked : (∀ task action, label ≠ .work task action) → limiterCalls p e label = [] →
      e'.limiter = e.limiter.after (limiterCalls p e label) ∧
        e'.metrics.inferenceRateLimited = e.metrics.inferenceRateLimited +
          (limiterCalls p e label).count .recordThrottle ∧
        (throttles emitted = (limiterCalls p e label).count .recordThrottle ↔
          WithinBudget p e label) := by
    intro other none
    obtain ⟨limiter, counter, unheard⟩ := limiter_unworked (step_cases stepped) other
    rw [none, limiter, counter, unheard]
    refine ⟨rfl, rfl, fun _ => ?_, fun _ => rfl⟩
    intro task _ _ _ _ _ isReply
    exact absurd isReply (other task _)
  cases label with
  | work task action =>
      obtain ⟨w, g, flag, loc, found, rfl, _, work⟩ := work_cases stepped
      rw [limiterCalls_work found]
      have limiter := workCalls_limiter work
      obtain ⟨counter, heard⟩ := workCalls_seen work
      refine ⟨limiter, counter, heard.trans ?_⟩
      constructor
      · intro within _ retryAfter jitter w' f suspended isReply found' at_
        cases isReply
        rw [found, Option.some.injEq] at found'
        subst found'
        exact within retryAfter jitter f suspended rfl at_
      · intro within retryAfter jitter f suspended isReply at_
        exact within task retryAfter jitter w f suspended (by rw [isReply]) found at_
  | _ => exact unworked (by simp) rfl

/-! ### Runs -/

variable {p : Params} {events : List Event}

theorem watched_step {s s' : Engine × List LimiterOp} {label : Label} {emitted : List Event}
    (stepped : (watched p).step s label = some (s', emitted)) :
    (engineMachine p).step s.1 label = some (s'.1, emitted) ∧
      s'.2 = s.2 ++ limiterCalls p s.1 label :=
  Machine.logged_step.mp stepped

/-- After a step the 429s are still all seen exactly if they were within the budget. -/
theorem seen_step {s s' : Engine × List LimiterOp} {label : Label} {emitted : List Event}
    (seen : Seen events s.1 s.2) (stepped : (watched p).step s label = some (s', emitted)) :
    Seen (events ++ emitted) s'.1 s'.2 ↔ WithinBudget p s.1 label := by
  obtain ⟨moved, logged⟩ := watched_step stepped
  obtain ⟨_, counter, heard⟩ := throttles_step moved
  have total : throttles (events ++ emitted) = throttles events + throttles emitted :=
    List.countP_append
  rw [← heard]
  constructor
  · rintro ⟨counted, _⟩
    have before := seen.counted
    omega
  · intro same
    constructor
    · rw [counter, total, seen.counted, same]
    · rw [logged, List.count_append, total, seen.signalled, same]

/-- The log lists what happened to the limiter since its construction. -/
theorem watched_limiter {ok : Engine × List LimiterOp → Label → Engine × List LimiterOp → Prop}
    {s : Engine × List LimiterOp} (run : (watched p).Reaches ok events s) :
    s.1.limiter = (Engine.new p).limiter.after s.2 := by
  refine Machine.Run.invariant run
    (fun _ s => s.1.limiter = (Engine.new p).limiter.after s.2) rfl ?_
  intro _ _ s s' label same _ stepped
  obtain ⟨moved, logged⟩ := watched_step stepped
  rw [(throttles_step moved).1, same, logged, AdaptiveConcurrencyLimiter.after_append]

/-- The engine uses its limiter by the limiter's operations alone, so whatever holds
after any of them holds in every run. -/
theorem reachable_limiter {ok : Engine → Label → Engine → Prop} {e : Engine}
    (run : (engineMachine p).Reaches ok events e) :
    ∃ calls, e.limiter = (Engine.new p).limiter.after calls := by
  obtain ⟨calls, logged⟩ :=
    @Machine.Run.to_logged _ _ _ _ _ _ _ _ _ (limiterCalls p) run []
  exact ⟨calls, watched_limiter logged⟩

/-- In every run the limit of the engine rises with earned successes only. -/
theorem reachable_earned {ok : Engine → Label → Engine → Prop} {e : Engine}
    (run : (engineMachine p).Reaches ok events e) :
    ∃ calls, e.limiter = (Engine.new p).limiter.after calls ∧
      AdaptiveConcurrencyLimiter.Earned p.settings.globalMaxConcurrency
        p.settings.adaptiveIncreaseAfter (Engine.new p).limiter calls := by
  obtain ⟨calls, after⟩ := reachable_limiter run
  have fresh : (Engine.new p).limiter.successStreak = 0 := rfl
  exact ⟨calls, after, AdaptiveConcurrencyLimiter.earned_of_fresh fresh calls⟩

/-- As long as every 429 arrives within the budget, the counter and the limiter have
seen all of them, and a step breaks this exactly with a 429 beyond the budget. -/
theorem throttles_seen {e : Engine} {calls : List LimiterOp}
    (run : (watched p).Reaches (fun s label _ => WithinBudget p s.1 label) events (e, calls)) :
    e.limiter = (Engine.new p).limiter.after calls ∧ Seen events e calls ∧
      ∀ label e' calls' emitted,
        (watched p).step (e, calls) label = some ((e', calls'), emitted) →
          (Seen (events ++ emitted) e' calls' ↔ WithinBudget p e label) := by
  have seen : Seen events e calls := by
    refine Machine.Run.invariant run (fun events s => Seen events s.1 s.2) ⟨rfl, rfl⟩ ?_
    intro _ _ _ _ _ before within stepped
    exact (seen_step before stepped).mpr within
  exact ⟨watched_limiter run, seen, fun _ _ _ _ stepped => seen_step seen stepped⟩

/-- The test of the condition on a concrete run. -/
def withinBudget (p : Params) (s : Engine × List LimiterOp) : Label → Bool
  | .work task (.reply (.rateLimited _) _) =>
      match s.1.workers.get? task with
      | none => true
      | some w =>
          match w.loc with
          | .calling f _ => decide ((f.attempt : Int) ≤ p.settings.maxRetries ∧ f.attempt ≤ 1024)
          | _ => true
  | _ => true

theorem withinBudget_of_check {s : Engine × List LimiterOp} {label : Label}
    (checked : withinBudget p s label = true) : WithinBudget p s.1 label := by
  rintro task retryAfter jitter w f suspended rfl found at_
  simp only [withinBudget, found, at_, decide_eq_true_eq] at checked
  exact checked

/-- One prompt is taken up to its first call. -/
def firstCall : List Label :=
  [.submit [{ id := none, prompt := "x" }] .normal none "a", .work 0 .start, .work 0 .enter,
    .work 0 .take, .work 0 .gate]

def throttled : Label := .work 0 (.reply (.rateLimited 0) 0)

/-- The first 429 of a prompt is seen. -/
theorem throttles_seen_first :
    ∃ events e calls, (watched EngineItems.singleWorker).Reaches
        (fun s label _ => WithinBudget EngineItems.singleWorker s.1 label) events (e, calls) ∧
      throttles events = 1 ∧ e.metrics.inferenceRateLimited = 1 ∧
      calls.count .recordThrottle = 1 := by
  rcases @Machine.exists_run_of_exec _ _ _ (watched EngineItems.singleWorker)
      (fun s label _ => WithinBudget EngineItems.singleWorker s.1 label)
      (watched EngineItems.singleWorker).initial
      (fun s label _ => withinBudget EngineItems.singleWorker s label)
      (fun _ _ _ checked => withinBudget_of_check checked) (firstCall ++ [throttled])
      (fun outcome => throttles outcome.1 == 1) (by decide +kernel) with
    ⟨events, ⟨e, calls⟩, run, tested⟩
  rw [beq_iff_eq] at tested
  obtain ⟨_, seen, _⟩ := throttles_seen run
  exact ⟨events, e, calls, run, tested, seen.counted.trans tested, seen.signalled.trans tested⟩

/-- With the shipped budget of five retries, the sixth 429 of a prompt is neither
counted nor signalled. -/
theorem throttle_unseen_beyond_budget :
    ∃ events e calls,
      (watched EngineItems.singleWorker).Reaches Machine.anyStep events (e, calls) ∧
      EngineItems.singleWorker.settings.maxRetries = 5 ∧ throttles events = 6 ∧
      e.metrics.inferenceRateLimited = 5 ∧ calls.count .recordThrottle = 5 := by
  rcases Machine.exists_anyRun_of_exec (watched EngineItems.singleWorker)
      (watched EngineItems.singleWorker).initial
      (firstCall ++ (List.replicate 5 [throttled, .work 0 .backoffWake, .work 0 .gate]).flatten ++
        [throttled])
      (fun outcome => throttles outcome.1 == 6 &&
        outcome.2.1.metrics.inferenceRateLimited == 5 &&
        outcome.2.2.count .recordThrottle == 5) (by decide +kernel) with
    ⟨events, ⟨e, calls⟩, run, tested⟩
  simp only [Bool.and_eq_true, beq_iff_eq] at tested
  exact ⟨events, e, calls, run, rfl, tested.1.1, tested.1.2, tested.2⟩

end EngineThrottles
end BatchInference
