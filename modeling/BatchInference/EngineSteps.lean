/-
What one step of the engine can do, said once.

`WorkStep` lists the stretches of worker code with their guards and `Step` the
steps of the whole machine. Every invariant of the engine is derived from these
two relations; the step function is not unfolded again.
-/

import BatchInference.Settlement
import BatchInference.Lib.Machine

set_option autoImplicit false

namespace BatchInference
namespace Engine

/-- One stretch of worker code: the engine after it, apart from the record of
the worker itself, and the place where the worker then stands. -/
inductive WorkStep (p : Params) (e : Engine) (task : TaskId) (w : Worker) :
    Action → Engine → Loc → List Event → Prop where
  | started (at_ : w.loc = .created) (quiet : e.atAwait = true) :
      WorkStep p e task w .start e .acquiring []
  | woken (at_ : w.loc = .waiting) (quiet : e.atAwait = true)
      (marked : e.limiter.cond.waiters.get? task = some true) :
      WorkStep p e task w .wake { e with limiter := e.limiter.leave task } .acquiring []
  | granted (at_ : w.loc = .acquiring) (free : e.limiter.inUse < e.limiter.limit) :
      WorkStep p e task w .enter
        { e with limiter := { e.limiter with inUse := e.limiter.inUse + 1 } } .popping []
  | slept (at_ : w.loc = .acquiring) (full : e.limiter.limit ≤ e.limiter.inUse) :
      WorkStep p e task w .enter
        { e with limiter := { e.limiter with cond := e.limiter.cond.wait task } } .waiting []
  | drained (at_ : w.loc = .popping) (scheduler : FairScheduler)
      (popped : e.scheduler.pop = (scheduler, none)) :
      WorkStep p e task w .take { e with scheduler := scheduler } (.releasing false) []
  | skipped (at_ : w.loc = .popping) (scheduler : FairScheduler) (jobId : JobId)
      (item : WorkItem) (popped : e.scheduler.pop = (scheduler, some (jobId, item)))
      (gone : ∀ job, e.store.get jobId = some job → job.state = .cancelled) :
      WorkStep p e task w .take
        { e with
          scheduler := scheduler
          metrics := e.gaugePop scheduler } (.releasing true) []
  | taken (at_ : w.loc = .popping) (scheduler : FairScheduler) (jobId : JobId)
      (item : WorkItem) (job : Job) (popped : e.scheduler.pop = (scheduler, some (jobId, item)))
      (found : e.store.get jobId = some job) (alive : job.state ≠ .cancelled) :
      WorkStep p e task w .take
        { e with
          scheduler := scheduler
          metrics := e.gaugePop scheduler }
        (.gating
          { jobId := jobId
            item := item
            start := e.loopTime
            attempt := 1 }) []
  | called (f : InFlight) (at_ : w.loc = .gating f) (bucket : TokenBucket)
      (grant : e.rateLimiter.acquireOnce 1 e.loopTime = (bucket, none)) :
      WorkStep p e task w .gate { e with rateLimiter := bucket } (.calling f false)
        [.called f.jobId f.item.seq e.loopTime]
  | throttled (f : InFlight) (at_ : w.loc = .gating f) (bucket : TokenBucket) (seconds : ℚ)
      (refused : e.rateLimiter.acquireOnce 1 e.loopTime = (bucket, some seconds)) :
      WorkStep p e task w .gate { e with rateLimiter := bucket } (.tokenSleep f seconds) []
  | tokenWoken (f : InFlight) (seconds : ℚ) (at_ : w.loc = .tokenSleep f seconds)
      (quiet : e.atAwait = true) :
      WorkStep p e task w .tokenWake e (.gating f) []
  | suspended (f : InFlight) (at_ : w.loc = .calling f false) :
      WorkStep p e task w .suspend e (.calling f true) []
  | retried (f : InFlight) (before : Bool) (at_ : w.loc = .calling f before)
      (alone : before = true → e.atAwait = true) (reply : Reply) (jitter seconds : ℚ)
      (settled : settle p.settings f.item f.attempt jitter reply = .retry seconds) :
      WorkStep p e task w (.reply reply jitter) (e.onRetry f.jobId) (.backoff f seconds)
        [.replied f.jobId f.item.seq reply]
  | recorded (f : InFlight) (before : Bool) (at_ : w.loc = .calling f before)
      (alone : before = true → e.atAwait = true) (reply : Reply) (jitter : ℚ)
      (result : InferenceResult) (cost : ℚ) (credited exhausted : Bool)
      (settled : settle p.settings f.item f.attempt jitter reply =
        .record result cost credited exhausted) :
      WorkStep p e task w (.reply reply jitter) (e.record f result cost credited exhausted)
        (.releasing true) [.replied f.jobId f.item.seq reply]
  | lost (f : InFlight) (before : Bool) (at_ : w.loc = .calling f before)
      (alone : before = true → e.atAwait = true) (reply : Reply) (jitter : ℚ)
      (credited : Bool)
      (settled : settle p.settings f.item f.attempt jitter reply = .lost credited) :
      WorkStep p e task w (.reply reply jitter) (e.credit credited) (.releasing true)
        [.replied f.jobId f.item.seq reply]
  | callCancelled (f : InFlight) (before : Bool) (at_ : w.loc = .calling f before)
      (alone : before = true → e.atAwait = true) (reply : Reply) (jitter : ℚ)
      (settled : settle p.settings f.item f.attempt jitter reply = .cancelled) :
      WorkStep p e task w (.reply reply jitter) e (.releasing false)
        [.replied f.jobId f.item.seq reply]
  | backoffEnded (f : InFlight) (seconds : ℚ) (at_ : w.loc = .backoff f seconds)
      (quiet : e.atAwait = true) :
      WorkStep p e task w .backoffWake e (.gating { f with attempt := f.attempt + 1 }) []
  | left (again : Bool) (at_ : w.loc = .releasing again) :
      WorkStep p e task w .leave e.release (if again then .acquiring else .done) []
  | killed (at_ : w.loc = .created) (requested : w.cancelRequested = true)
      (quiet : e.atAwait = true) : WorkStep p e task w .interrupt e .done []
  | gaveUp (at_ : w.loc = .waiting) (requested : w.cancelRequested = true)
      (quiet : e.atAwait = true) :
      WorkStep p e task w .interrupt { e with limiter := e.limiter.leave task } .done []
  | sleepCancelled (f : InFlight) (seconds : ℚ)
      (at_ : w.loc = .tokenSleep f seconds ∨ w.loc = .backoff f seconds)
      (requested : w.cancelRequested = true) (quiet : e.atAwait = true) :
      WorkStep p e task w .interrupt e (.releasing false) []

/-- The label is a request to run these prompts as a new job. -/
inductive Requests (e : Engine) : Label → List PromptItem → Priority → Option String → JobId → Prop
  | submit (prompts : List PromptItem) (priority : Priority) (key : Option String)
      (newId : JobId) : Requests e (.submit prompts priority key newId) prompts priority key newId
  | replay (jobId : JobId) (priority : Option Priority) (newId : JobId) (job : Job)
      (found : e.store.get jobId = some job) (failures : job.deadLetter ≠ []) :
      Requests e (.replayFailed jobId priority newId) (replayPrompts job)
        (priority.getD job.priority) none newId

/-- The labels that occur as long as `shutdown` has not been called. -/
def Serves : Label → Prop
  | .shutdown => False
  | .graceExpired => False
  | .shutdownReturned => False
  | .work _ .interrupt => False
  | _ => True

/-- The steps of the machine. -/
inductive Step (p : Params) (e : Engine) : Label → Engine → List Event → Prop where
  | tick (loopTime wallTime : ℚ) (later : e.loopTime ≤ loopTime) :
      Step p e (.tick loopTime wallTime)
        { e with
          loopTime := loopTime
          wallTime := wallTime } []
  | unchanged (label : Label) (serves : Serves label) : Step p e label e []
  | submitted (label : Label) (prompts : List PromptItem) (priority : Priority)
      (key : Option String) (newId : JobId)
      (requested : e.Requests label prompts priority key newId) (quiet : e.atAwait = true)
      (named : newId ≠ "") (fresh : e.store.jobs.get? newId = none) :
      Step p e label (e.submitWithIdempotency p prompts priority key newId).1
        [.submitted prompts priority key
          (e.submitWithIdempotency p prompts priority key newId).2]
  | cancelled (jobId : JobId) (job : Job) (quiet : e.atAwait = true)
      (found : e.store.get jobId = some job) (unfinished : isOpen job.state = true) :
      Step p e (.cancel jobId) (e.cancelOpen jobId)
        [.cancelled jobId (e.scheduler.itemsOf jobId)]
  | worked (task : TaskId) (action : Action) (w : Worker) (g : Engine) (flag : Bool)
      (loc : Loc) (emitted : List Event) (found : e.workers.get? task = some w)
      (lowered : flag = true → w.cancelRequested = true)
      (work : WorkStep p e task w action g loc emitted) :
      Step p e (.work task action)
        (g.moveTo task
          { w with cancelRequested := flag } loc) emitted
  | shutdownStarted (quiet : e.atAwait = true) (phase : e.shutdownPhase = .notStarted) :
      Step p e .shutdown
        { e with
          accepting := false
          shutdownPhase := .draining } []
  | graceExpired (quiet : e.atAwait = true) (phase : e.shutdownPhase = .draining) :
      Step p e .graceExpired e.requestCancels []
  | shutdownReturned (ended : ∀ w ∈ e.workers.values, w.loc.isDone = true)
      (phase : e.shutdownPhase = .draining ∨ e.shutdownPhase = .cancelling) :
      Step p e .shutdownReturned e.interruptJobs []

/-- `pop` and the entry of `_process`, with the location that follows. -/
private theorem takeItem_cases (p : Params) (e : Engine) (task : TaskId) (w : Worker)
    (at_ : w.loc = .popping) :
    ∃ g loc, e.takeItem task w = g.moveTo task w loc ∧
      WorkStep p e task w .take g loc [] := by
  unfold takeItem
  cases popped : e.scheduler.pop with
  | mk scheduler served =>
      cases served with
      | none => exact ⟨_, _, rfl, .drained at_ scheduler popped⟩
      | some served =>
          obtain ⟨jobId, item⟩ := served
          cases found : e.store.get jobId with
          | none =>
              refine ⟨_, _, ?_, .skipped at_ scheduler jobId item popped ?_⟩
              · simp only [skips, found, if_true]
              · intro job read
                rw [found] at read
                cases read
          | some job =>
              by_cases gone : job.state = .cancelled
              · refine ⟨_, _, ?_, .skipped at_ scheduler jobId item popped ?_⟩
                · simp only [skips, found, gone, decide_true, if_true]
                · intro other read
                  rw [found, Option.some.injEq] at read
                  exact read ▸ gone
              · refine ⟨_, _, ?_, .taken at_ scheduler jobId item job popped found gone⟩
                simp only [skips, found, gone, decide_false, Bool.false_eq_true, if_false]

private theorem replyStep_cases (p : Params) (e : Engine) (task : TaskId) (w : Worker)
    (f : InFlight) (before : Bool) (at_ : w.loc = .calling f before)
    (alone : before = true → e.atAwait = true) (reply : Reply) (jitter : ℚ) :
    ∃ g loc, e.replyStep p task w f reply jitter =
        g.moveTo task
          { w with cancelRequested := false } loc ∧
      WorkStep p e task w (.reply reply jitter) g loc [.replied f.jobId f.item.seq reply] := by
  unfold replyStep
  cases settled : settle p.settings f.item f.attempt jitter reply with
  | retry seconds => exact ⟨_, _, rfl, .retried f before at_ alone reply jitter seconds settled⟩
  | record result cost credited exhausted =>
      exact ⟨_, _, rfl,
        .recorded f before at_ alone reply jitter result cost credited exhausted settled⟩
  | lost credited =>
      exact ⟨_, _, rfl, .lost f before at_ alone reply jitter credited settled⟩
  | cancelled => exact ⟨_, _, rfl, .callCancelled f before at_ alone reply jitter settled⟩

private theorem interruptStep_cases (p : Params) (e e' : Engine) (task : TaskId) (w : Worker)
    (requested : w.cancelRequested = true) (quiet : e.atAwait = true)
    (stepped : e.interruptStep task w = some e') :
    ∃ g loc, e' = g.moveTo task
          { w with cancelRequested := false } loc ∧
      WorkStep p e task w .interrupt g loc [] := by
  unfold interruptStep at stepped
  cases at_ : w.loc with
  | created =>
      simp only [at_, Option.some.injEq] at stepped
      exact ⟨_, _, stepped.symm, .killed at_ requested quiet⟩
  | waiting =>
      simp only [at_, Option.some.injEq] at stepped
      exact ⟨_, _, stepped.symm, .gaveUp at_ requested quiet⟩
  | tokenSleep f seconds =>
      simp only [at_, Option.some.injEq] at stepped
      exact ⟨_, _, stepped.symm, .sleepCancelled f seconds (Or.inl at_) requested quiet⟩
  | backoff f seconds =>
      simp only [at_, Option.some.injEq] at stepped
      exact ⟨_, _, stepped.symm, .sleepCancelled f seconds (Or.inr at_) requested quiet⟩
  | acquiring => simp [at_] at stepped
  | popping => simp [at_] at stepped
  | gating f => simp [at_] at stepped
  | calling f before => simp [at_] at stepped
  | releasing again => simp [at_] at stepped
  | done => simp [at_] at stepped

/-- Every stretch of worker code is one of `WorkStep`. -/
private theorem workStep_cases (p : Params) (e e' : Engine) (task : TaskId) (w : Worker)
    (action : Action) (emitted : List Event)
    (stepped : e.workStep p task w action = some (e', emitted)) :
    ∃ g flag loc, e' = g.moveTo task
          { w with cancelRequested := flag } loc ∧
      (flag = true → w.cancelRequested = true) ∧
      WorkStep p e task w action g loc emitted := by
  have kept : ∀ {g : Engine} {loc : Loc}, e' = g.moveTo task w loc →
      WorkStep p e task w action g loc emitted →
        ∃ g flag loc, e' = g.moveTo task
              { w with cancelRequested := flag } loc ∧
          (flag = true → w.cancelRequested = true) ∧
          WorkStep p e task w action g loc emitted :=
    fun same work => ⟨_, w.cancelRequested, _, same, id, work⟩
  have resumed : e.mayResume w = true → e.atAwait = true := by
    intro may
    unfold mayResume at may
    exact (Bool.and_eq_true_iff.mp may).1
  unfold workStep at stepped
  split at stepped
  case h_1 at_ =>
      split at stepped
      · rename_i may
        cases stepped
        exact kept rfl (.started at_ (resumed may))
      · cases stepped
  case h_2 at_ =>
      split at stepped
      · rename_i guard
        cases stepped
        rw [Bool.and_eq_true, beq_iff_eq] at guard
        exact kept rfl (.woken at_ (resumed guard.1) guard.2)
      · cases stepped
  case h_3 at_ =>
      unfold AdaptiveConcurrencyLimiter.acquireOnce at stepped
      by_cases full : e.limiter.limit ≤ e.limiter.inUse
      · simp only [if_pos full] at stepped
        cases stepped
        exact kept rfl (.slept at_ full)
      · simp only [if_neg full] at stepped
        cases stepped
        exact kept rfl (.granted at_ (not_le.mp full))
  case h_4 at_ =>
      cases stepped
      obtain ⟨g, loc, same, work⟩ := takeItem_cases p e task w at_
      exact kept same work
  case h_5 f at_ =>
      cases grant : e.rateLimiter.acquireOnce 1 e.loopTime with
      | mk bucket refused =>
          cases refused with
          | none =>
              simp only [grant] at stepped
              cases stepped
              exact kept rfl (.called f at_ bucket grant)
          | some seconds =>
              simp only [grant] at stepped
              cases stepped
              exact kept rfl (.throttled f at_ bucket seconds grant)
  case h_6 f seconds at_ =>
      split at stepped
      · rename_i may
        cases stepped
        exact kept rfl (.tokenWoken f seconds at_ (resumed may))
      · cases stepped
  case h_7 f at_ =>
      cases stepped
      exact kept rfl (.suspended f at_)
  case h_8 reply jitter f before at_ =>
      split at stepped
      · rename_i guard
        cases stepped
        have alone : before = true → e.atAwait = true := by
          intro suspended
          simpa [suspended] using guard
        obtain ⟨g, loc, same, work⟩ := replyStep_cases p e task w f before at_ alone reply jitter
        exact ⟨g, false, loc, same, Bool.false_ne_true.elim, work⟩
      · cases stepped
  case h_9 f seconds at_ =>
      split at stepped
      · rename_i may
        cases stepped
        exact kept rfl (.backoffEnded f seconds at_ (resumed may))
      · cases stepped
  case h_10 again at_ =>
      cases stepped
      exact kept rfl (.left again at_)
  case h_11 =>
      split at stepped
      · rename_i guard
        rw [Bool.and_eq_true] at guard
        obtain ⟨g, interrupted, same⟩ := Option.map_eq_some_iff.mp stepped
        obtain ⟨rfl, rfl⟩ := Prod.mk.inj same
        obtain ⟨h, loc, moved, work⟩ :=
          interruptStep_cases p e g task w guard.2 guard.1 interrupted
        exact ⟨h, false, loc, moved, Bool.false_ne_true.elim, work⟩
      · cases stepped
  case h_12 => cases stepped

theorem work_cases {p : Params} {e e' : Engine} {task : TaskId} {action : Action}
    {emitted : List Event}
    (stepped : (engineMachine p).step e (.work task action) = some (e', emitted)) :
    ∃ w g flag loc, e.workers.get? task = some w ∧
      e' = g.moveTo task
        { w with cancelRequested := flag } loc ∧
      (flag = true → w.cancelRequested = true) ∧
      WorkStep p e task w action g loc emitted := by
  change Engine.step p e (.work task action) = some (e', emitted) at stepped
  simp only [step] at stepped
  cases found : e.workers.get? task with
  | none =>
      rw [found] at stepped
      cases stepped
  | some w =>
      simp only [found] at stepped
      obtain ⟨g, flag, loc, moved, lowered, work⟩ :=
        workStep_cases p e e' task w action emitted stepped
      exact ⟨w, g, flag, loc, rfl, moved, lowered, work⟩

/-- Every step of the machine is one of `Step`. -/
theorem step_cases {p : Params} {e e' : Engine} {label : Label} {emitted : List Event}
    (stepped : (engineMachine p).step e label = some (e', emitted)) :
    Step p e label e' emitted := by
  change Engine.step p e label = some (e', emitted) at stepped
  cases label with
  | work task action =>
      obtain ⟨w, g, flag, loc, found, rfl, lowered, work⟩ := work_cases stepped
      exact .worked task action w g flag loc emitted found lowered work
  | tick loopTime wallTime =>
      simp only [step] at stepped
      split at stepped
      · rename_i later
        cases stepped
        exact .tick loopTime wallTime later
      · cases stepped
  | submit prompts priority key newId =>
      simp only [step] at stepped
      split at stepped
      · rename_i guard
        cases stepped
        simp only [Bool.and_eq_true, Bool.not_eq_true', String.isEmpty_eq_false_iff] at guard
        obtain ⟨⟨quiet, named⟩, fresh⟩ := guard
        refine .submitted _ prompts priority key newId (.submit prompts priority key newId)
          quiet named ?_
        simpa [Dict.contains] using fresh
      · cases stepped
  | cancel jobId =>
      simp only [step] at stepped
      split at stepped
      · rename_i quiet
        unfold cancel at stepped
        cases found : e.store.get jobId with
        | none =>
            simp only [found] at stepped
            cases stepped
            exact .unchanged _ trivial
        | some job =>
            by_cases unfinished : isOpen job.state
            · simp only [found, unfinished, if_true] at stepped
              cases stepped
              exact .cancelled jobId job quiet found unfinished
            · simp only [found, unfinished] at stepped
              cases stepped
              exact .unchanged _ trivial
      · cases stepped
  | replayFailed jobId priority newId =>
      simp only [step] at stepped
      split at stepped
      · rename_i guard
        simp only [Bool.and_eq_true, Bool.not_eq_true', String.isEmpty_eq_false_iff] at guard
        obtain ⟨⟨quiet, named⟩, fresh⟩ := guard
        unfold replayFailed at stepped
        cases found : e.store.get jobId with
        | none =>
            simp only [found] at stepped
            cases stepped
            exact .unchanged _ trivial
        | some job =>
            by_cases none : job.deadLetter = []
            · simp only [found, none, List.isEmpty_nil, if_true] at stepped
              cases stepped
              exact .unchanged _ trivial
            · have some : job.deadLetter.isEmpty = false := by simpa using none
              simp only [found, some, Bool.false_eq_true, if_false] at stepped
              cases stepped
              refine .submitted _ (replayPrompts job) (priority.getD job.priority) .none newId
                (.replay jobId priority newId job found none) quiet named ?_
              simpa [Dict.contains] using fresh
      · cases stepped
  | shutdown =>
      simp only [step] at stepped
      split at stepped
      · rename_i guard
        cases stepped
        rw [Bool.and_eq_true, beq_iff_eq] at guard
        exact .shutdownStarted guard.1 guard.2
      · cases stepped
  | graceExpired =>
      simp only [step] at stepped
      split at stepped
      · rename_i guard
        cases stepped
        rw [Bool.and_eq_true, beq_iff_eq] at guard
        exact .graceExpired guard.1 guard.2
      · cases stepped
  | shutdownReturned =>
      simp only [step] at stepped
      split at stepped
      · rename_i guard
        cases stepped
        simp only [Bool.and_eq_true, Bool.or_eq_true, beq_iff_eq, List.all_eq_true] at guard
        exact .shutdownReturned guard.1 guard.2
      · cases stepped

/-- Worker code shows calls of the provider and their replies. -/
theorem WorkStep.emits {p : Params} {e g : Engine} {task : TaskId} {w : Worker}
    {action : Action} {loc : Loc} {emitted : List Event}
    (work : WorkStep p e task w action g loc emitted) :
    ∀ event ∈ emitted, (∃ jobId seq time, event = .called jobId seq time) ∨
      ∃ jobId seq reply, event = .replied jobId seq reply := by
  intro event member
  cases work with
  | called f at_ bucket grant =>
      rw [List.mem_singleton] at member
      exact Or.inl ⟨_, _, _, member⟩
  | retried f before at_ alone reply jitter seconds settled =>
      rw [List.mem_singleton] at member
      exact Or.inr ⟨_, _, _, member⟩
  | recorded f before at_ alone reply jitter result cost credited exhausted settled =>
      rw [List.mem_singleton] at member
      exact Or.inr ⟨_, _, _, member⟩
  | lost f before at_ alone reply jitter credited settled =>
      rw [List.mem_singleton] at member
      exact Or.inr ⟨_, _, _, member⟩
  | callCancelled f before at_ alone reply jitter settled =>
      rw [List.mem_singleton] at member
      exact Or.inr ⟨_, _, _, member⟩
  | _ => cases member

/-! ### What the operations leave alone -/

@[simp] theorem moveTo_frame (task : TaskId) (w : Worker) (loc : Loc) (e : Engine) :
    (moveTo task w loc e).store = e.store ∧
    (moveTo task w loc e).scheduler = e.scheduler ∧
    (moveTo task w loc e).limiter = e.limiter ∧
    (moveTo task w loc e).rateLimiter = e.rateLimiter ∧
    (moveTo task w loc e).active = e.active ∧
    (moveTo task w loc e).nextTask = e.nextTask ∧
    (moveTo task w loc e).accepting = e.accepting ∧
    (moveTo task w loc e).shutdownPhase = e.shutdownPhase ∧
    (moveTo task w loc e).loopTime = e.loopTime ∧
    (moveTo task w loc e).wallTime = e.wallTime := by
  repeat' constructor

@[simp] theorem refreshGauges_frame (e : Engine) :
    e.refreshGauges.store = e.store ∧
    e.refreshGauges.scheduler = e.scheduler ∧
    e.refreshGauges.limiter = e.limiter ∧
    e.refreshGauges.rateLimiter = e.rateLimiter ∧
    e.refreshGauges.active = e.active ∧
    e.refreshGauges.workers = e.workers ∧
    e.refreshGauges.nextTask = e.nextTask ∧
    e.refreshGauges.accepting = e.accepting ∧
    e.refreshGauges.shutdownPhase = e.shutdownPhase ∧
    e.refreshGauges.loopTime = e.loopTime ∧
    e.refreshGauges.wallTime = e.wallTime := by
  repeat' constructor

@[simp] theorem finalize_frame (jobId : JobId) (state : JobState) (e : Engine) :
    (e.finalize jobId state).store = e.store.update jobId (Job.finish state e.wallTime) ∧
    (e.finalize jobId state).scheduler = e.scheduler ∧
    (e.finalize jobId state).limiter = e.limiter ∧
    (e.finalize jobId state).rateLimiter = e.rateLimiter ∧
    (e.finalize jobId state).active = e.active.erase jobId ∧
    (e.finalize jobId state).workers = e.workers ∧
    (e.finalize jobId state).nextTask = e.nextTask ∧
    (e.finalize jobId state).accepting = e.accepting ∧
    (e.finalize jobId state).shutdownPhase = e.shutdownPhase ∧
    (e.finalize jobId state).loopTime = e.loopTime ∧
    (e.finalize jobId state).wallTime = e.wallTime := by
  repeat' constructor

@[simp] theorem spawn_frame (count : Nat) (e : Engine) :
    (spawn count e).store = e.store ∧
    (spawn count e).scheduler = e.scheduler ∧
    (spawn count e).limiter = e.limiter ∧
    (spawn count e).rateLimiter = e.rateLimiter ∧
    (spawn count e).active = e.active ∧
    (spawn count e).accepting = e.accepting ∧
    (spawn count e).shutdownPhase = e.shutdownPhase ∧
    (spawn count e).loopTime = e.loopTime ∧
    (spawn count e).wallTime = e.wallTime := by
  induction count generalizing e with
  | zero => repeat' constructor
  | succ count ih =>
      have rest := ih
        { e with
          workers := e.workers.set e.nextTask { loc := .created }
          nextTask := e.nextTask + 1 }
      exact rest

@[simp] theorem ensureWorkers_frame (p : Params) (e : Engine) :
    (ensureWorkers p e).store = e.store ∧
    (ensureWorkers p e).scheduler = e.scheduler ∧
    (ensureWorkers p e).limiter = e.limiter ∧
    (ensureWorkers p e).rateLimiter = e.rateLimiter ∧
    (ensureWorkers p e).active = e.active ∧
    (ensureWorkers p e).accepting = e.accepting ∧
    (ensureWorkers p e).shutdownPhase = e.shutdownPhase ∧
    (ensureWorkers p e).loopTime = e.loopTime ∧
    (ensureWorkers p e).wallTime = e.wallTime :=
  spawn_frame _ _

@[simp] theorem register_frame (p : Params) (prompts : List PromptItem) (priority : Priority)
    (key : Option String) (newId : JobId) (e : Engine) :
    (e.register p prompts priority key newId).scheduler =
      e.scheduler.addJob newId (workItems prompts) priority ∧
    (e.register p prompts priority key newId).limiter = e.limiter ∧
    (e.register p prompts priority key newId).rateLimiter = e.rateLimiter ∧
    (e.register p prompts priority key newId).active = insert newId e.active ∧
    (e.register p prompts priority key newId).accepting = e.accepting ∧
    (e.register p prompts priority key newId).shutdownPhase = e.shutdownPhase ∧
    (e.register p prompts priority key newId).loopTime = e.loopTime ∧
    (e.register p prompts priority key newId).wallTime = e.wallTime := by
  unfold register
  simp only [ensureWorkers_frame, refreshGauges_frame, and_self]

@[simp] theorem cancelOpen_frame (jobId : JobId) (e : Engine) :
    (e.cancelOpen jobId).store = e.store.update jobId (Job.finish .cancelled e.wallTime) ∧
    (e.cancelOpen jobId).scheduler = (e.scheduler.removeJob jobId).1 ∧
    (e.cancelOpen jobId).limiter = e.limiter ∧
    (e.cancelOpen jobId).rateLimiter = e.rateLimiter ∧
    (e.cancelOpen jobId).active = e.active.erase jobId ∧
    (e.cancelOpen jobId).workers = e.workers ∧
    (e.cancelOpen jobId).nextTask = e.nextTask ∧
    (e.cancelOpen jobId).accepting = e.accepting ∧
    (e.cancelOpen jobId).shutdownPhase = e.shutdownPhase ∧
    (e.cancelOpen jobId).loopTime = e.loopTime ∧
    (e.cancelOpen jobId).wallTime = e.wallTime := by
  repeat' constructor

@[simp] theorem onRetry_frame (jobId : JobId) (e : Engine) :
    (e.onRetry jobId).store = e.store.update jobId Job.retried ∧
    (e.onRetry jobId).scheduler = e.scheduler ∧
    (e.onRetry jobId).limiter = e.limiter.recordThrottle ∧
    (e.onRetry jobId).rateLimiter = e.rateLimiter ∧
    (e.onRetry jobId).active = e.active ∧
    (e.onRetry jobId).workers = e.workers ∧
    (e.onRetry jobId).nextTask = e.nextTask ∧
    (e.onRetry jobId).accepting = e.accepting ∧
    (e.onRetry jobId).shutdownPhase = e.shutdownPhase ∧
    (e.onRetry jobId).loopTime = e.loopTime ∧
    (e.onRetry jobId).wallTime = e.wallTime := by
  repeat' constructor

@[simp] theorem credit_frame (credited : Bool) (e : Engine) :
    (e.credit credited).store = e.store ∧
    (e.credit credited).scheduler = e.scheduler ∧
    (e.credit credited).limiter =
      (if credited then e.limiter.recordSuccess else e.limiter) ∧
    (e.credit credited).rateLimiter = e.rateLimiter ∧
    (e.credit credited).active = e.active ∧
    (e.credit credited).workers = e.workers ∧
    (e.credit credited).nextTask = e.nextTask ∧
    (e.credit credited).accepting = e.accepting ∧
    (e.credit credited).shutdownPhase = e.shutdownPhase ∧
    (e.credit credited).metrics = e.metrics ∧
    (e.credit credited).loopTime = e.loopTime ∧
    (e.credit credited).wallTime = e.wallTime := by
  repeat' constructor

@[simp] theorem release_frame (e : Engine) :
    e.release.store = e.store ∧
    e.release.scheduler = e.scheduler ∧
    e.release.limiter = e.limiter.release ∧
    e.release.rateLimiter = e.rateLimiter ∧
    e.release.active = e.active ∧
    e.release.workers = e.workers ∧
    e.release.nextTask = e.nextTask ∧
    e.release.accepting = e.accepting ∧
    e.release.shutdownPhase = e.shutdownPhase ∧
    e.release.loopTime = e.loopTime ∧
    e.release.wallTime = e.wallTime := by
  repeat' constructor

@[simp] theorem record_frame (f : InFlight) (result : InferenceResult) (cost : ℚ)
    (credited exhausted : Bool) (e : Engine) :
    (e.record f result cost credited exhausted).scheduler = e.scheduler ∧
    (e.record f result cost credited exhausted).limiter =
      (if credited then e.limiter.recordSuccess else e.limiter) ∧
    (e.record f result cost credited exhausted).rateLimiter = e.rateLimiter ∧
    (e.record f result cost credited exhausted).workers = e.workers ∧
    (e.record f result cost credited exhausted).nextTask = e.nextTask ∧
    (e.record f result cost credited exhausted).accepting = e.accepting ∧
    (e.record f result cost credited exhausted).shutdownPhase = e.shutdownPhase ∧
    (e.record f result cost credited exhausted).loopTime = e.loopTime ∧
    (e.record f result cost credited exhausted).wallTime = e.wallTime := by
  unfold record
  simp only
  split
  · repeat' constructor
  · split
    · repeat' constructor
    · repeat' constructor

@[simp] theorem interruptJob_frame (e : Engine) (jobId : JobId) :
    (e.interruptJob jobId).limiter = e.limiter ∧
    (e.interruptJob jobId).rateLimiter = e.rateLimiter ∧
    (e.interruptJob jobId).workers = e.workers ∧
    (e.interruptJob jobId).nextTask = e.nextTask ∧
    (e.interruptJob jobId).accepting = e.accepting ∧
    (e.interruptJob jobId).metrics = e.metrics ∧
    (e.interruptJob jobId).loopTime = e.loopTime := by
  unfold interruptJob
  split
  · repeat' constructor
  · split
    · repeat' constructor
    · repeat' constructor

@[simp] theorem interruptJobs_frame (e : Engine) :
    e.interruptJobs.limiter = e.limiter ∧
    e.interruptJobs.rateLimiter = e.rateLimiter ∧
    e.interruptJobs.workers = e.workers ∧
    e.interruptJobs.nextTask = e.nextTask ∧
    e.interruptJobs.accepting = e.accepting ∧
    e.interruptJobs.metrics = e.metrics ∧
    e.interruptJobs.loopTime = e.loopTime := by
  unfold interruptJobs
  simp only
  generalize e.store.jobs.keys = jobIds
  induction jobIds generalizing e with
  | nil => repeat' constructor
  | cons jobId rest ih =>
      have later := ih (e.interruptJob jobId)
      simp only [interruptJob_frame] at later
      exact later

/-! ### Submissions -/

/-- A submission is refused or answered from the store, which is counted at most, or it
is admitted. -/
theorem submit_cases (p : Params) (prompts : List PromptItem) (priority : Priority)
    (key : Option String) (newId : JobId) (e : Engine) :
    ((∃ rejected reused, (e.submitWithIdempotency p prompts priority key newId).1 =
          { e with metrics := { e.metrics with
              jobsRejected := rejected
              idempotentReuse := reused } }) ∧
        ∀ jobId, (e.submitWithIdempotency p prompts priority key newId).2 ≠ .job jobId false) ∨
      e.accepting = true ∧ e.existingJob key = none ∧
        e.activeJobs < p.settings.maxActiveJobs ∧
        e.scheduler.pending + prompts.length ≤ p.settings.maxQueueSize ∧
        e.submitWithIdempotency p prompts priority key newId =
          (e.register p prompts priority key newId, .job newId false) := by
  generalize answered : e.submitWithIdempotency p prompts priority key newId = answer
  unfold submitWithIdempotency at answered
  split at answered
  · subst answered
    exact Or.inl ⟨⟨_, _, rfl⟩, fun _ => SubmitResult.noConfusion⟩
  · rename_i open_
    split at answered
    · split at answered
      · subst answered
        exact Or.inl ⟨⟨_, _, rfl⟩, fun _ => SubmitResult.noConfusion⟩
      · subst answered
        refine Or.inl ⟨⟨_, _, rfl⟩, ?_⟩
        simp
    · rename_i unknown
      split at answered
      · subst answered
        exact Or.inl ⟨⟨_, _, rfl⟩, fun _ => SubmitResult.noConfusion⟩
      · rename_i idle
        split at answered
        · subst answered
          exact Or.inl ⟨⟨_, _, rfl⟩, fun _ => SubmitResult.noConfusion⟩
        · rename_i room
          have accepting : e.accepting = true := by simpa using open_
          exact Or.inr
            ⟨accepting, unknown, not_le.mp idle, not_lt.mp room, answered.symm⟩

theorem limiter_of_request {p : Params} {e : Engine} (prompts : List PromptItem)
    (priority : Priority) (key : Option String) (newId : JobId) :
    (e.submitWithIdempotency p prompts priority key newId).1.limiter = e.limiter := by
  rcases submit_cases p prompts priority key newId e with ⟨⟨_, _, same⟩, _⟩ | admitted
  · rw [same]
  · rw [admitted.2.2.2.2]
    simp only [register_frame]

end Engine
end BatchInference
