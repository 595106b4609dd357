/-
The books of the jobs and of the metrics.

Every reply moves the counters of one job and those of the registry together, so the
registry shows the sums over all jobs. Prices are added up exactly and rounded in the
results alone.
-/

import BatchInference.EngineOrigins
import BatchInference.EngineRoster
import Mathlib.Algebra.Order.BigOperators.Group.List
import Mathlib.Tactic.Linarith

set_option autoImplicit false

namespace BatchInference
namespace EngineTallies

open Engine EngineItems EngineOutcomes EngineOrigins

variable {p : Params} {events emitted : List Event} {e e' : Engine} {label : Label}
  {jobId : JobId}

/-! ### Rounding -/

theorem abs_sub_roundHalfEven_le (x : ℚ) : |x - roundHalfEven x| ≤ 1 / 2 := by
  have below := Int.floor_le x
  have above := Int.lt_floor_add_one x
  rw [abs_le]
  unfold roundHalfEven
  simp only
  split
  · constructor <;> linarith
  · split
    · push_cast
      constructor <;> linarith
    · split
      · constructor <;> linarith
      · push_cast
        constructor <;> linarith

/-- Rounding to eight decimals moves a price by at most half a unit of the last one. -/
theorem abs_sub_round8_le (x : ℚ) : |x - round8 x| ≤ 5 / 10 ^ 9 := by
  have scaled := abs_sub_roundHalfEven_le (x * 10 ^ 8)
  have apart : x - round8 x = (x * 10 ^ 8 - roundHalfEven (x * 10 ^ 8)) / 10 ^ 8 := by
    unfold round8
    ring
  rw [apart, abs_div, abs_of_pos (by norm_num : (0 : ℚ) < 10 ^ 8), div_le_iff₀ (by norm_num)]
  calc |x * 10 ^ 8 - roundHalfEven (x * 10 ^ 8)| ≤ 1 / 2 := scaled
    _ = 5 / 10 ^ 9 * 10 ^ 8 := by norm_num

/-- The errors of the terms of a sum add up at most. -/
theorem abs_sum_sub_le {Term : Type} (f g : Term → ℚ) (bound : ℚ) (terms : List Term)
    (close : ∀ term ∈ terms, |f term - g term| ≤ bound) :
    |(terms.map f).sum - (terms.map g).sum| ≤ bound * terms.length := by
  induction terms with
  | nil => simp
  | cons term rest ih =>
      have first := close term List.mem_cons_self
      have others := ih (fun other member => close other (List.mem_cons_of_mem _ member))
      rw [List.map_cons, List.map_cons, List.sum_cons, List.sum_cons, List.length_cons]
      have split : f term + (rest.map f).sum - (g term + (rest.map g).sum) =
          (f term - g term) + ((rest.map f).sum - (rest.map g).sum) := by ring
      rw [split]
      calc |f term - g term + ((rest.map f).sum - (rest.map g).sum)|
          ≤ |f term - g term| + |(rest.map f).sum - (rest.map g).sum| := abs_add_le _ _
        _ ≤ bound + bound * rest.length := add_le_add first others
        _ = bound * ((rest.length + 1 : Nat) : ℚ) := by
            push_cast
            ring

/-! ### One result -/

/-- The exact price of a result; failures are free. -/
def priceOf (s : Settings) (result : InferenceResult) : ℚ :=
  if result.success then costOf s result.inputTokens result.outputTokens else 0

/-- A result shows its price in eight decimals, and a failure used no tokens. -/
structure Priced (s : Settings) (result : InferenceResult) : Prop where
  price : result.costUsd = round8 (priceOf s result)
  free : result.success = false → result.inputTokens = 0 ∧ result.outputTokens = 0

theorem priced_of_settles {s : Settings} {item : WorkItem} {attempt : Nat} {reply : Reply}
    {result : InferenceResult} {cost : ℚ} {credited exhausted : Bool}
    (ways : Settles s item attempt reply (.record result cost credited exhausted)) :
    Priced s result ∧ (if result.success then cost else 0) = priceOf s result := by
  have nothing : round8 0 = 0 := by
    unfold round8 roundHalfEven
    norm_num
  cases ways with
  | succeeded reply result answers id prompt success attempts price =>
      unfold priceOf
      rw [if_pos success]
      refine ⟨⟨?_, fun failed => ?_⟩, rfl⟩
      · unfold priceOf
        rw [if_pos success, price]
      · rw [success] at failed
        cases failed
  | failed reply error credited unanswered printable uncancelled overflow =>
      exact ⟨⟨nothing.symm, fun _ => ⟨rfl, rfl⟩⟩, rfl⟩
  | exhausted retryAfter spent => exact ⟨⟨nothing.symm, fun _ => ⟨rfl, rfl⟩⟩, rfl⟩

theorem priced_of_origin {s : Settings} {seq : Nat} {result : InferenceResult}
    (origin : Origin s jobId events seq result) : Priced s result := by
  obtain ⟨earlier, reply, jitter, cost, credited, exhausted, _, settled⟩ := origin
  have ways := settles s { seq := seq, id := result.id, prompt := result.prompt }
    (earlier.length + 1) jitter reply
  rw [settled] at ways
  exact (priced_of_settles ways).1

/-! ### One job -/

/-- The costs of a job are the exact prices of its results. -/
def Billed (s : Settings) (e : Engine) : Prop :=
  ∀ jobId job, e.store.get jobId = some job →
    job.costUsd = job.results.total (fun _ result => priceOf s result)

theorem costUsd_of_unanswered {job job' : Job} (change : JobStep e label emitted jobId job job')
    (silent : Unanswered jobId emitted) : job'.costUsd = job.costUsd := by
  cases change with
  | kept quiet => rfl
  | retried quiet answered =>
      rcases answered with ⟨seq, reply, member⟩
      exact (silent seq reply member).elim
  | advanced seq result cost quiet answered =>
      rcases answered with ⟨seq, reply, member⟩
      exact (silent seq reply member).elim
  | cancelled items unfinished shown => rfl
  | interrupted ending unfinished => rfl

theorem costUsd_advance (seq : Nat) (result : InferenceResult) (cost now : ℚ) (job : Job) :
    (job.advance seq result cost now).costUsd =
      job.costUsd + if result.success then cost else 0 := by
  unfold Job.advance Job.record
  simp only
  cases result.success with
  | true =>
      simp only [if_true]
      split
      · rfl
      · rfl
  | false =>
      simp only [Bool.false_eq_true, if_false, add_zero]
      split
      · rfl
      · rfl

theorem Billed.next (billed : Billed p.settings e) (ledger : Ledger False events e)
    (step : Step p e label e' emitted) : Billed p.settings e' := by
  intro jobId job' found'
  rcases step.job found' with ⟨job, found, change⟩ | ⟨_, _, _, _, _, rfl⟩
  · have before := billed jobId job found
    by_cases silent : Unanswered jobId emitted
    · rw [costUsd_of_unanswered change silent, (sameTally_of_unanswered change silent).results]
      exact before
    · obtain ⟨task, w, f, reply, jitter, rfl, heard⟩ := heard_of_step step silent
      have absent := unrecorded_of_asking ledger heard.found heard.asking found
      have after := job_of_heard heard found found'
      have ways := settles p.settings f.item f.attempt jitter reply
      cases settled : settle p.settings f.item f.attempt jitter reply with
      | retry seconds =>
          simp only [settled] at after
          rw [after]
          exact before
      | record result cost credited exhausted =>
          simp only [settled] at after ways
          rcases advance_fields f.item.seq result cost e.wallTime job with
            ⟨_, _, _, _, results, _⟩
          rw [after, costUsd_advance, results, Dict.total_set_of_get?_none _ _ _ absent, before,
            (priced_of_settles ways).2]
      | lost credited =>
          simp only [settled] at after
          rw [after]
          exact before
      | cancelled =>
          simp only [settled] at after
          rw [after]
          exact before
  · rfl

theorem reachable_billed {ok : Engine → Label → Engine → Prop}
    (run : (engineMachine p).Reaches ok events e) : Billed p.settings e := by
  refine followed_invariant run (fun _ e => Billed p.settings e) ?_ ?_
  · intro _ _ impossible
    cases impossible
  · intro _ _ _ _ _ billed ledger _ _ _ step
    exact billed.next ledger step

/-! ### The registry -/

/-- The counters of the registry that have a counterpart in every job. -/
inductive Counter where
  | promptsCompleted
  | promptsSucceeded
  | promptsFailed
  | inferenceRetries
  | tokens

/-- What the registry shows. -/
def Counter.shown (m : Metrics) : Counter → Int
  | .promptsCompleted => m.promptsCompleted
  | .promptsSucceeded => m.promptsSucceeded
  | .promptsFailed => m.promptsFailed
  | .inferenceRetries => m.inferenceRetries
  | .tokens => m.tokens

/-- What one job counts. -/
def Counter.counted (job : Job) : Counter → Int
  | .promptsCompleted => job.completed
  | .promptsSucceeded => job.succeeded
  | .promptsFailed => job.failed
  | .inferenceRetries => job.retries
  | .tokens => job.inputTokens + job.outputTokens

/-- What one result adds. -/
def Counter.added (result : InferenceResult) : Counter → Int
  | .promptsCompleted => 1
  | .promptsSucceeded => if result.success then 1 else 0
  | .promptsFailed => if result.success then 0 else 1
  | .inferenceRetries => 0
  | .tokens => if result.success then result.inputTokens + result.outputTokens else 0

theorem counted_record (counter : Counter) (seq : Nat) (result : InferenceResult) (cost : ℚ)
    (job : Job) :
    counter.counted (job.record seq result cost) = counter.counted job + counter.added result := by
  unfold Job.record
  cases happy : result.success with
  | true =>
      cases counter with
      | tokens =>
          simp only [Counter.counted, Counter.added, happy, if_true]
          ring
      | _ => simp [Counter.counted, Counter.added, happy]
  | false => cases counter <;> simp [Counter.counted, Counter.added, happy]

theorem shown_countResult (counter : Counter) (f : InFlight) (result : InferenceResult) (cost : ℚ)
    (exhausted : Bool) (e : Engine) :
    counter.shown (e.countResult f result cost exhausted) =
      counter.shown e.metrics + counter.added result := by
  cases counter with
  | tokens => rfl
  | inferenceRetries => exact (add_zero _).symm
  | promptsCompleted => rfl
  | promptsSucceeded =>
      unfold countResult Counter.shown Counter.added
      cases result.success <;> simp
  | promptsFailed =>
      unfold countResult Counter.shown Counter.added
      cases result.success <;> simp

/-- The registry shows the sums over all jobs, and one latency for each prompt. -/
structure Books (e : Engine) : Prop where
  sums : ∀ counter : Counter,
    counter.shown e.metrics = e.store.jobs.total (fun _ job => counter.counted job)
  latencies : e.metrics.inferenceLatency.count = e.metrics.promptsCompleted

/-- An amount that does not see how a job ends, and that is nothing for a new job. -/
structure Blind (amount : JobId → Job → Int) : Prop where
  finish : ∀ jobId state now job, amount jobId (job.finish state now) = amount jobId job
  fresh : ∀ (p : Params) prompts priority key newId (e : Engine),
    amount newId (e.admittedJob p prompts priority key newId) = 0

theorem blind_counted (counter : Counter) : Blind (fun _ job => counter.counted job) where
  finish := by
    intro jobId state now job
    cases counter <;> rfl
  fresh := by
    intro p prompts priority key newId e
    cases counter <;> rfl

/-- What a step does to the registry and to the sums over the jobs. -/
inductive BookStep (p : Params) (e e' : Engine) (emitted : List Event) : Prop where
  | quiet (shown : ∀ counter : Counter, counter.shown e'.metrics = counter.shown e.metrics)
      (latencies : e'.metrics.inferenceLatency.count = e.metrics.inferenceLatency.count)
      (exhausted : e'.metrics.retriesExhausted = e.metrics.retriesExhausted)
      (totals : ∀ amount, Blind amount →
        e'.store.jobs.total amount = e.store.jobs.total amount)
  | retried (f : InFlight) (job : Job) (found : e.store.get f.jobId = some job)
      (shown : ∀ counter : Counter, counter.shown e'.metrics + counter.counted job =
        counter.shown e.metrics + counter.counted job.retried)
      (latencies : e'.metrics.inferenceLatency.count = e.metrics.inferenceLatency.count)
      (exhausted : e'.metrics.retriesExhausted = e.metrics.retriesExhausted)
      (totals : ∀ amount : JobId → Job → Int,
        e'.store.jobs.total amount + amount f.jobId job =
          e.store.jobs.total amount + amount f.jobId job.retried)
  | filed (task : TaskId) (w : Worker) (f : InFlight) (job : Job) (reply : Reply) (jitter : ℚ)
      (result : InferenceResult) (cost : ℚ) (credited spent : Bool)
      (read : e.workers.get? task = some w) (asks : w.loc.asking = some f)
      (found : e.store.get f.jobId = some job)
      (heard : emitted = [.replied f.jobId f.item.seq reply])
      (settled : settle p.settings f.item f.attempt jitter reply =
        .record result cost credited spent)
      (shown : ∀ counter : Counter,
        counter.shown e'.metrics = counter.shown e.metrics + counter.added result)
      (latencies : e'.metrics.inferenceLatency.count = e.metrics.inferenceLatency.count + 1)
      (exhausted : e'.metrics.retriesExhausted =
        e.metrics.retriesExhausted + if spent then 1 else 0)
      (totals : ∀ amount, Blind amount → e'.store.jobs.total amount + amount f.jobId job =
        e.store.jobs.total amount + amount f.jobId (job.record f.item.seq result cost))

theorem bookStep_same (store : e'.store = e.store)
    (shown : ∀ counter : Counter, counter.shown e'.metrics = counter.shown e.metrics)
    (latencies : e'.metrics.inferenceLatency.count = e.metrics.inferenceLatency.count)
    (exhausted : e'.metrics.retriesExhausted = e.metrics.retriesExhausted) :
    BookStep p e e' emitted :=
  .quiet shown latencies exhausted (fun _ _ => by rw [store])

theorem BookStep.congr {g : Engine} (step : BookStep p e g emitted)
    (metrics : e'.metrics = g.metrics) (store : e'.store = g.store) :
    BookStep p e e' emitted := by
  cases step with
  | quiet shown latencies exhausted totals =>
      rw [← metrics] at shown latencies exhausted
      rw [← store] at totals
      exact .quiet shown latencies exhausted totals
  | retried f job found shown latencies exhausted totals =>
      rw [← metrics] at shown latencies exhausted
      rw [← store] at totals
      exact .retried f job found shown latencies exhausted totals
  | filed task w f job reply jitter result cost credited spent read asks found heard settled
      shown latencies exhausted totals =>
      rw [← metrics] at shown latencies exhausted
      rw [← store] at totals
      exact .filed task w f job reply jitter result cost credited spent read asks found heard
        settled shown latencies exhausted totals

theorem shown_finalize (counter : Counter) (jobId : JobId) (state : JobState) (e : Engine) :
    counter.shown (e.finalize jobId state).metrics = counter.shown e.metrics ∧
      (e.finalize jobId state).metrics.inferenceLatency = e.metrics.inferenceLatency ∧
      (e.finalize jobId state).metrics.retriesExhausted = e.metrics.retriesExhausted ∧
      (e.finalize jobId state).metrics.promptsCompleted = e.metrics.promptsCompleted := by
  unfold finalize
  simp only
  split
  · refine ⟨?_, rfl, rfl, rfl⟩
    cases counter <;> rfl
  · exact ⟨rfl, rfl, rfl, rfl⟩

theorem total_finish {amount : JobId → Job → Int} (blind : Blind amount) (s : InMemoryJobStore)
    (jobId : JobId) (state : JobState) (now : ℚ) :
    (s.update jobId (Job.finish state now)).jobs.total amount = s.jobs.total amount :=
  InMemoryJobStore.total_update_same amount s jobId _ (fun job => blind.finish jobId state now job)

/-- The end of a shutdown ends jobs and does nothing else. -/
theorem total_interruptJobs {amount : JobId → Job → Int} (blind : Blind amount) (e : Engine) :
    e.interruptJobs.store.jobs.total amount = e.store.jobs.total amount := by
  have one : ∀ (e : Engine) (jobId : JobId),
      (e.interruptJob jobId).store.jobs.total amount = e.store.jobs.total amount := by
    intro e jobId
    unfold interruptJob
    split
    · rfl
    · split
      · rw [(finalize_frame _ _ _).1]
        exact total_finish blind e.store jobId _ _
      · rfl
  unfold interruptJobs
  simp only
  generalize e.store.jobs.keys = jobIds
  induction jobIds generalizing e with
  | nil => rfl
  | cons jobId rest ih =>
      rw [List.foldl_cons, ih (e.interruptJob jobId)]
      exact one e jobId

private theorem bookStep_record {task : TaskId} {w : Worker} {f : InFlight} {job : Job}
    {reply : Reply} {jitter : ℚ} {result : InferenceResult} {cost : ℚ} {credited exhausted : Bool}
    (read : e.workers.get? task = some w) (asks : w.loc.asking = some f)
    (found : e.store.get f.jobId = some job)
    (settled : settle p.settings f.item f.attempt jitter reply =
      .record result cost credited exhausted) :
    BookStep p e (e.record f result cost credited exhausted)
      [.replied f.jobId f.item.seq reply] := by
  have filed : ∀ amount : JobId → Job → Int,
      (e.fileResult f result cost credited exhausted).store.jobs.total amount +
          amount f.jobId job =
        e.store.jobs.total amount + amount f.jobId (job.record f.item.seq result cost) :=
    fun amount => InMemoryJobStore.total_update amount e.store found _
  rcases record_cases f result cost credited exhausted e with same | ⟨_, ended⟩
  · rw [same]
    exact .filed task w f job reply jitter result cost credited exhausted read asks found rfl settled
      (fun counter => shown_countResult counter f result cost exhausted e) rfl rfl
      (fun amount _ => filed amount)
  · rw [ended]
    have after := fun counter => shown_finalize counter f.jobId .completed
      (e.fileResult f result cost credited exhausted)
    refine .filed task w f job reply jitter result cost credited exhausted read asks found rfl
      settled ?_ ?_ ?_ ?_
    · intro counter
      have shown : counter.shown ((e.fileResult f result cost credited exhausted).finalize f.jobId
            .completed).refreshGauges.metrics =
          counter.shown ((e.fileResult f result cost credited exhausted).finalize f.jobId
            .completed).metrics := by
        cases counter <;> rfl
      rw [shown, (after counter).1]
      exact shown_countResult counter f result cost exhausted e
    · exact congrArg Histogram.count (after .tokens).2.1
    · exact (after .tokens).2.2.1
    · intro amount blind
      rw [(refreshGauges_frame _).1, (finalize_frame _ _ _).1, total_finish blind]
      exact filed amount

theorem bookStep_of_step (ledger : Ledger False events e) (step : Step p e label e' emitted) :
    BookStep p e e' emitted := by
  have known : ∀ {task : TaskId} {w : Worker} {f : InFlight}, e.workers.get? task = some w →
      w.loc.asking = some f → ∃ job, e.store.get f.jobId = some job :=
    fun found asks => ledger.job_of_held (mem_held_of_asking found asks rfl)
  cases step with
  | submitted label prompts priority key newId requested quiet named fresh =>
      rcases submit_cases p prompts priority key newId e with ⟨⟨_, _, same⟩, _⟩ | admitted
      · rw [same]
        refine bookStep_same rfl ?_ rfl rfl
        intro counter
        cases counter <;> rfl
      · rw [admitted.2.2.2.2]
        refine .quiet ?_ ?_ ?_ ?_
        · intro counter
          unfold register ensureWorkers
          simp only [spawn_metrics]
          cases counter <;> rfl
        · unfold register ensureWorkers
          simp only [spawn_metrics]
          rfl
        · unfold register ensureWorkers
          simp only [spawn_metrics]
          rfl
        · intro amount blind
          rw [register_store, InMemoryJobStore.total_create amount e.store _ fresh]
          exact add_eq_left.mpr (blind.fresh p prompts priority key newId e)
  | cancelled jobId job quiet found unfinished =>
      have after := fun counter => shown_finalize counter jobId .cancelled
        { e with scheduler := (e.scheduler.removeJob jobId).1 }
      refine .quiet ?_ (congrArg Histogram.count (after .tokens).2.1) (after .tokens).2.2.1 ?_
      · intro counter
        have shown : counter.shown (e.cancelOpen jobId).metrics =
            counter.shown (({ e with scheduler := (e.scheduler.removeJob jobId).1 } :
              Engine).finalize jobId .cancelled).metrics := by
          cases counter <;> rfl
        rw [shown, (after counter).1]
      · intro amount blind
        rw [(cancelOpen_frame jobId e).1, total_finish blind]
  | worked task action w g flag loc emitted found lowered work =>
      cases work with
      | retried f before at_ alone reply jitter seconds settled =>
          obtain ⟨job, present⟩ := known found (by rw [at_]; rfl)
          refine .retried f job present ?_ rfl rfl ?_
          · intro counter
            cases counter with
            | inferenceRetries =>
                have more : (e.onRetry f.jobId).metrics.inferenceRetries =
                    e.metrics.inferenceRetries + 1 := rfl
                have once : job.retried.retries = job.retries + 1 := rfl
                change ((e.onRetry f.jobId).metrics.inferenceRetries : Int) + job.retries =
                  e.metrics.inferenceRetries + job.retried.retries
                rw [more, once]
                push_cast
                ring
            | _ => rfl
          · intro amount
            exact InMemoryJobStore.total_update amount e.store present _
      | recorded f before at_ alone reply jitter result cost credited exhausted settled =>
          obtain ⟨job, present⟩ := known found (by rw [at_]; rfl)
          exact (bookStep_record found (by rw [at_]; rfl) present settled).congr rfl rfl
      | _ =>
          refine bookStep_same rfl ?_ rfl rfl
          intro counter
          cases counter <;> rfl
  | shutdownReturned ended phase =>
      have metrics := (interruptJobs_frame e).2.2.2.2.2.1
      refine .quiet ?_ ?_ ?_ (fun amount blind => total_interruptJobs blind e)
      · intro counter
        rw [metrics]
      · rw [metrics]
      · rw [metrics]
  | _ =>
      refine bookStep_same rfl ?_ rfl rfl
      intro counter
      cases counter <;> rfl

theorem Books.next (books : Books e) (step : BookStep p e e' emitted) : Books e' := by
  have completed : (e.metrics.promptsCompleted : Int) =
      Counter.shown e.metrics .promptsCompleted := rfl
  have completed' : (e'.metrics.promptsCompleted : Int) =
      Counter.shown e'.metrics .promptsCompleted := rfl
  have before := books.latencies
  cases step with
  | quiet shown latencies exhausted totals =>
      constructor
      · intro counter
        rw [shown, totals _ (blind_counted counter), books.sums]
      · have same := shown .promptsCompleted
        omega
  | retried f job found shown latencies exhausted totals =>
      constructor
      · intro counter
        have moved := shown counter
        have total := totals (fun _ job => counter.counted job)
        have sums := books.sums counter
        omega
      · have same := shown .promptsCompleted
        have still : Counter.counted job.retried .promptsCompleted =
          Counter.counted job .promptsCompleted := rfl
        omega
  | filed task w f job reply jitter result cost credited spent read asks found heard settled
      shown latencies exhausted totals =>
      constructor
      · intro counter
        have moved := shown counter
        have total := totals _ (blind_counted counter)
        have sums := books.sums counter
        have more := counted_record counter f.item.seq result cost job
        omega
      · have same := shown .promptsCompleted
        have one : Counter.added result .promptsCompleted = 1 := rfl
        omega

/-! ### Spent budgets -/

/-- The last reply is a 429 that came after all retries. -/
def budgetSpent (s : Settings) (replies : List Reply) : Bool :=
  match replies.getLast? with
  | some (.rateLimited _) => decide (s.maxRetries < replies.length)
  | _ => false

/-- The results of a job that are failures because of a 429. -/
def throttledOut (s : Settings) (events : List Event) (jobId : JobId) (job : Job) : Int :=
  job.results.total (fun seq result =>
    if !result.success && budgetSpent s (repliesOf jobId seq events) then 1 else 0)

theorem blind_throttledOut (s : Settings) (events : List Event) :
    Blind (throttledOut s events) where
  finish := fun _ _ _ _ => rfl
  fresh := fun _ _ _ _ _ _ => rfl

/-- What is recorded counts as a spent budget exactly if it is a failure by a 429. -/
theorem budgetSpent_of_settles {s : Settings} {item : WorkItem} {attempt : Nat} {reply : Reply}
    {result : InferenceResult} {cost : ℚ} {credited exhausted : Bool} {earlier : List Reply}
    (ways : Settles s item attempt reply (.record result cost credited exhausted))
    (length : earlier.length + 1 = attempt) :
    (!result.success && budgetSpent s (earlier ++ [reply])) = exhausted := by
  unfold budgetSpent
  rw [List.getLast?_concat, List.length_append, List.length_singleton, length]
  cases ways with
  | succeeded reply result answers id prompt success attempts price =>
      rw [success]
      rfl
  | failed reply error credited unanswered printable uncancelled overflow =>
      cases reply with
      | rateLimited retryAfter =>
          have left := (overflow retryAfter rfl).1
          simp [failure, left]
      | _ => rfl
  | exhausted retryAfter spent => simp [failure, spent]

/-- The registry counts the failures because of a 429. -/
def SpentCounted (s : Settings) (events : List Event) (e : Engine) : Prop :=
  (e.metrics.retriesExhausted : Int) = e.store.jobs.total (throttledOut s events)

theorem SpentCounted.next (counted : SpentCounted p.settings events e)
    (ledger : Ledger False events e) (followed : Followed p.settings events e)
    (step : Step p e label e' emitted) :
    SpentCounted p.settings (events ++ emitted) e' := by
  unfold SpentCounted at counted ⊢
  have older : e.store.jobs.total (throttledOut p.settings (events ++ emitted)) =
      e.store.jobs.total (throttledOut p.settings events) := by
    apply Dict.total_congr
    intro jobId job listed
    have found : e.store.get jobId = some job := (e.store.jobs.mem_entries_iff jobId job).mp listed
    apply Dict.total_congr
    intro seq result member
    have read := (job.results.mem_entries_iff seq result).mp member
    rw [repliesOf_append, unheard_of_recorded ledger step found read, List.append_nil]
  have blind := blind_throttledOut p.settings (events ++ emitted)
  cases bookStep_of_step ledger step with
  | quiet shown latencies exhausted totals =>
      rw [exhausted, totals _ blind, older, counted]
  | retried f job found shown latencies exhausted totals =>
      have total := totals (throttledOut p.settings (events ++ emitted))
      have same : throttledOut p.settings (events ++ emitted) f.jobId job.retried =
          throttledOut p.settings (events ++ emitted) f.jobId job := rfl
      omega
  | filed task w f job reply jitter result cost credited spent read asks found heard settled
      shown latencies exhausted totals =>
      have total := totals _ blind
      have absent := unrecorded_of_asking ledger read asks found
      have ways := settles p.settings f.item f.attempt jitter reply
      rw [settled] at ways
      have here : repliesOf f.jobId f.item.seq emitted = [reply] := by
        rw [heard]
        simp [repliesOf, replyTo]
      have results : (job.record f.item.seq result cost).results =
          job.results.set f.item.seq result := by
        unfold Job.record
        simp only
        split <;> rfl
      have one : throttledOut p.settings (events ++ emitted) f.jobId
            (job.record f.item.seq result cost) =
          throttledOut p.settings (events ++ emitted) f.jobId job + if spent then 1 else 0 := by
        unfold throttledOut
        rw [results, Dict.total_set_of_get?_none _ _ _ absent, repliesOf_append, here,
          budgetSpent_of_settles ways (answers_of_asking followed read asks found)]
      cases spent with
      | true =>
          simp only [if_true] at one exhausted
          omega
      | false =>
          simp only [Bool.false_eq_true, if_false] at one exhausted
          omega

/-! ### Runs -/

theorem failed_eq_deadLetter {job : Job} (counted : Counted job) :
    job.failed = job.deadLetter.length := by
  have all := List.length_eq_countP_add_countP (fun result => result.success)
    (l := job.results.values)
  have letters : job.deadLetter.length =
      job.results.values.countP (fun result => !result.success) := by
    unfold Job.deadLetter
    rw [← List.countP_eq_length_filter]
    exact job.orderedResults_perm.countP_eq _
  have succeeded := counted.succeeded
  have completed := counted.completed
  have results := counted.results
  rw [Dict.count_eq_countP] at succeeded
  have size : job.results.size = job.results.values.length := (List.length_map _).symm
  simp only [Bool.not_eq_true, Bool.decide_eq_false] at all
  omega

/-- A job's tokens, failures and costs are those of its results, the costs up to half a
unit of the eighth decimal for each result. -/
structure Reconciled (job : Job) : Prop where
  inputTokens : job.inputTokens = (job.orderedResults.map InferenceResult.inputTokens).sum
  outputTokens : job.outputTokens = (job.orderedResults.map InferenceResult.outputTokens).sum
  failed : job.failed = job.deadLetter.length
  costUsd : |job.costUsd - (job.orderedResults.map InferenceResult.costUsd).sum| ≤
    5 / 10 ^ 9 * job.orderedResults.length

theorem reconciled_of_tracked {job : Job} {prompts : List PromptItem}
    (tracked : Tracked p.settings events e jobId job prompts) (counted : Counted job)
    (originated : ∀ seq result, job.results.get? seq = some result →
      Origin p.settings jobId events seq result)
    (billed : job.costUsd = job.results.total (fun _ result => priceOf p.settings result)) :
    Reconciled job := by
  have priced : ∀ seq result, (seq, result) ∈ job.results.entries → Priced p.settings result :=
    fun seq result member =>
      priced_of_origin (originated seq result ((job.results.mem_entries_iff seq result).mp member))
  constructor
  · rw [tracked.inputTokens, ← total_orderedResults]
    apply Dict.total_congr
    intro seq result member
    split
    · rfl
    · rename_i failed
      exact ((priced seq result member).free (Bool.not_eq_true _ ▸ failed)).1.symm
  · rw [tracked.outputTokens, ← total_orderedResults]
    apply Dict.total_congr
    intro seq result member
    split
    · rfl
    · rename_i failed
      exact ((priced seq result member).free (Bool.not_eq_true _ ▸ failed)).2.symm
  · exact failed_eq_deadLetter counted
  · rw [billed, total_orderedResults]
    apply abs_sum_sub_le
    intro result member
    rw [job.orderedResults_perm.mem_iff, Dict.mem_values_iff] at member
    obtain ⟨seq, read⟩ := member
    rw [(priced_of_origin (originated seq result read)).price]
    exact abs_sub_round8_le _

end EngineTallies
end BatchInference
