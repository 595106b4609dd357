/-
The gauge of the concurrency limit.

A throttle, a submission, a cancellation and the last result of a job set the gauge. A
success that raises the limit does not, so the gauge is behind by the raises since it
was set.
-/

import BatchInference.EngineGauges

set_option autoImplicit false

namespace BatchInference
namespace EngineLimitGauge

open Engine EngineItems EngineGauges EnginePermits

variable {p : Params} {events emitted : List Event} {e e' : Engine} {label : Label}

/-! ### Raises and settings of the gauge -/

inductive Mark where
  | raised
  | shown
deriving DecidableEq

/-- The next success raises the limit. -/
def raises (l : AdaptiveConcurrencyLimiter) : Bool :=
  decide (l.increaseAfter ≤ l.successStreak + 1) && decide (l.limit < l.maximum)

def creditMarks (credited : Bool) (l : AdaptiveConcurrencyLimiter) : List Mark :=
  if credited && raises l then [.raised] else []

def settledMarks (e : Engine) (f : InFlight) : Settlement → List Mark
  | .retry _ => [.shown]
  | .record _ _ credited _ =>
      creditMarks credited e.limiter ++ if completes e f.jobId then [.shown] else []
  | .lost credited => creditMarks credited e.limiter
  | .cancelled => []

def workMarks (p : Params) (w : Worker) (action : Action) (e : Engine) : List Mark :=
  match action, w.loc with
  | .reply reply jitter, .calling f _ =>
      settledMarks e f (settle p.settings f.item f.attempt jitter reply)
  | _, _ => []

def answerMarks : SubmitResult → List Mark
  | .job _ false => [.shown]
  | _ => []

/-- What one segment does to the limit and to its gauge, in this order. -/
def limitMarks (p : Params) (e : Engine) : Label → List Mark
  | .submit prompts priority key newId =>
      answerMarks (e.submitWithIdempotency p prompts priority key newId).2
  | .replayFailed jobId priority newId =>
      match e.replayFailed p jobId priority newId with
      | none => []
      | some (_, _, _, result) => answerMarks result
  | .cancel jobId => if (e.cancel jobId).2 = some true then [.shown] else []
  | .work task action =>
      match e.workers.get? task with
      | none => []
      | some w => workMarks p w action e
  | _ => []

/-- Some raise has not been shown. -/
def Unshown (marks : List Mark) : Prop :=
  ∃ before after, marks = before ++ .raised :: after ∧ .shown ∉ after

def Mark.apply (behind : Nat) : Mark → Nat
  | .raised => behind + 1
  | .shown => 0

/-- The raises since the gauge was set. -/
def behind (marks : List Mark) : Nat := marks.foldl Mark.apply 0

theorem behind_concat (marks : List Mark) (mark : Mark) :
    behind (marks ++ [mark]) = Mark.apply (behind marks) mark := by
  unfold behind
  rw [List.foldl_append]
  rfl

theorem behind_eq_zero_iff (marks : List Mark) : behind marks = 0 ↔ ¬Unshown marks := by
  induction marks using List.reverseRecOn with
  | nil =>
      refine ⟨fun _ => ?_, fun _ => rfl⟩
      rintro ⟨before, after, same, _⟩
      simp at same
  | append_singleton marks mark ih =>
      rw [behind_concat]
      cases mark with
      | raised =>
          refine ⟨fun impossible => ?_, fun shown => ?_⟩
          · exact absurd impossible (Nat.succ_ne_zero _)
          · exact absurd ⟨marks, [], rfl, List.not_mem_nil⟩ shown
      | shown =>
          refine ⟨fun _ => ?_, fun _ => rfl⟩
          rintro ⟨before, after, same, unset⟩
          rcases List.eq_nil_or_concat after with rfl | ⟨front, last, rfl⟩
          · have ends := (List.append_inj' same rfl).2
            cases ends
          · rw [List.concat_eq_append] at same unset
            rw [← List.cons_append, ← List.append_assoc] at same
            have ends := (List.append_inj' same rfl).2
            exact unset (List.mem_append_right _ (ends ▸ List.mem_singleton_self _))

/-! ### The gauge through one step -/

/-- How far the gauge is behind the limit. -/
def lag (e : Engine) : Int := e.limiter.limit - e.metrics.concurrencyLimit

/-- What the marks make of the lag. -/
def lagAfter (marks : List Mark) (lag : Int) : Int :=
  marks.foldl (fun lag mark =>
    match mark with
    | .raised => lag + 1
    | .shown => 0) lag

theorem lagAfter_append (first second : List Mark) (lag : Int) :
    lagAfter (first ++ second) lag = lagAfter second (lagAfter first lag) :=
  List.foldl_append

theorem lagAfter_zero (marks : List Mark) : lagAfter marks 0 = behind marks := by
  induction marks using List.reverseRecOn with
  | nil => rfl
  | append_singleton marks mark ih =>
      rw [lagAfter_append, behind_concat, ih]
      cases mark with
      | raised => rfl
      | shown => rfl

theorem limit_recordSuccess (l : AdaptiveConcurrencyLimiter) :
    l.recordSuccess.limit = l.limit + if raises l then 1 else 0 := by
  unfold AdaptiveConcurrencyLimiter.recordSuccess raises
  simp only [Bool.and_eq_true, decide_eq_true_eq]
  split
  · rfl
  · rw [add_zero]

theorem lag_credited {g : Engine} {credited : Bool}
    (limiter : g.limiter = if credited then e.limiter.recordSuccess else e.limiter)
    (gauge : g.metrics.concurrencyLimit = e.metrics.concurrencyLimit) :
    lag g = lagAfter (creditMarks credited e.limiter) (lag e) := by
  unfold lag creditMarks
  rw [limiter, gauge]
  cases credited with
  | false => rfl
  | true =>
      rw [if_pos rfl, limit_recordSuccess, Bool.true_and]
      split
      · change _ = _ + 1
        omega
      · change _ = e.limiter.limit - e.metrics.concurrencyLimit
        omega

theorem lag_record (f : InFlight) (result : InferenceResult) (cost : ℚ)
    (credited exhausted : Bool) (e : Engine) :
    lag (e.record f result cost credited exhausted) =
      lagAfter (settledMarks e f (.record result cost credited exhausted)) (lag e) := by
  have filed : lag (e.fileResult f result cost credited exhausted) =
      lagAfter (creditMarks credited e.limiter) (lag e) := lag_credited rfl rfl
  unfold settledMarks
  rw [record_eq, lagAfter_append, ← filed]
  split
  · exact sub_self _
  · rfl

theorem lag_worked {task : TaskId} {w : Worker} {action : Action} {g : Engine} {loc : Loc}
    (work : WorkStep p e task w action g loc emitted) :
    lag g = lagAfter (workMarks p w action e) (lag e) := by
  cases work with
  | retried f before at_ alone reply jitter seconds settled =>
      simp only [workMarks, at_, settled]
      exact sub_self _
  | recorded f before at_ alone reply jitter result cost credited exhausted settled =>
      simp only [workMarks, at_, settled]
      exact lag_record f result cost credited exhausted e
  | lost f before at_ alone reply jitter credited settled =>
      simp only [workMarks, at_, settled]
      exact lag_credited rfl rfl
  | callCancelled f before at_ alone reply jitter settled =>
      simp only [workMarks, at_, settled]
      rfl
  | _ => rfl

theorem lag_answer (prompts : List PromptItem) (priority : Priority) (key : Option String)
    (newId : JobId) :
    lag (e.submitWithIdempotency p prompts priority key newId).1 =
      lagAfter (answerMarks (e.submitWithIdempotency p prompts priority key newId).2) (lag e) := by
  rcases submit_cases p prompts priority key newId e with ⟨⟨_, _, same⟩, refused⟩ | admitted
  · have unmarked : answerMarks (e.submitWithIdempotency p prompts priority key newId).2 = [] := by
      cases answer : (e.submitWithIdempotency p prompts priority key newId).2 with
      | overloaded retryAfter message => rfl
      | conflict message => rfl
      | job jobId reuse =>
          cases reuse with
          | true => rfl
          | false => exact absurd answer (refused jobId)
    rw [same, unmarked]
    rfl
  · rw [admitted.2.2.2.2]
    unfold lag register ensureWorkers
    simp only [spawn_metrics, spawn_frame]
    exact sub_self _

theorem lag_cancel (jobId : JobId) (e : Engine) :
    lag (e.cancel jobId).1 =
      lagAfter (if (e.cancel jobId).2 = some true then [.shown] else []) (lag e) := by
  unfold Engine.cancel
  cases found : e.store.get jobId with
  | none => rfl
  | some job =>
      by_cases unfinished : isOpen job.state
      · simp only [unfinished, if_true]
        exact sub_self _
      · simp only [unfinished]
        rfl

/-- The marks of a segment say how the gauge moves against the limit. -/
theorem lag_step (stepped : (engineMachine p).step e label = some (e', emitted)) :
    lag e' = lagAfter (limitMarks p e label) (lag e) := by
  cases label with
  | submit prompts priority key newId =>
      change Engine.step p e (.submit prompts priority key newId) = some (e', emitted) at stepped
      simp only [Engine.step] at stepped
      split at stepped
      · cases stepped
        exact lag_answer prompts priority key newId
      · cases stepped
  | replayFailed jobId priority newId =>
      change Engine.step p e (.replayFailed jobId priority newId) = some (e', emitted) at stepped
      simp only [Engine.step] at stepped
      simp only [limitMarks]
      split at stepped
      · cases answered : e.replayFailed p jobId priority newId with
        | none =>
            simp only [answered] at stepped
            cases stepped
            rfl
        | some answer =>
            obtain ⟨prompts, chosen, after, result⟩ := answer
            simp only [answered] at stepped
            cases stepped
            unfold Engine.replayFailed at answered
            split at answered
            · cases answered
            · split at answered
              · cases answered
              · cases answered
                exact lag_answer _ _ _ _
      · cases stepped
  | cancel jobId =>
      have moved := lag_cancel jobId e
      change Engine.step p e (.cancel jobId) = some (e', emitted) at stepped
      simp only [Engine.step] at stepped
      simp only [limitMarks]
      split at stepped
      · split at stepped
        · rename_i answered
          cases stepped
          rw [answered] at moved ⊢
          exact moved
        · rename_i answered
          cases stepped
          rw [answered] at moved ⊢
          exact moved
      · cases stepped
  | work task action =>
      obtain ⟨w, g, flag, loc, found, rfl, _, work⟩ := work_cases stepped
      have moved := lag_worked work
      simp only [limitMarks, found]
      exact moved
  | tick loopTime wallTime =>
      cases step_cases stepped with
      | tick loopTime wallTime later => rfl
      | unchanged label serves => rfl
      | submitted label prompts priority key newId requested quiet named fresh => cases requested
  | shutdown =>
      cases step_cases stepped with
      | unchanged label serves => exact serves.elim
      | submitted label prompts priority key newId requested quiet named fresh => cases requested
      | shutdownStarted quiet phase => rfl
  | graceExpired =>
      cases step_cases stepped with
      | unchanged label serves => exact serves.elim
      | submitted label prompts priority key newId requested quiet named fresh => cases requested
      | graceExpired quiet phase => rfl
  | shutdownReturned =>
      cases step_cases stepped with
      | unchanged label serves => exact serves.elim
      | submitted label prompts priority key newId requested quiet named fresh => cases requested
      | shutdownReturned ended phase =>
          unfold lag
          rw [(interruptJobs_frame e).1, (interruptJobs_frame e).2.2.2.2.2.1]
          rfl

/-! ### The gauge through runs -/

/-- The engine with the marks of all its segments. -/
def marked (p : Params) : Machine (Engine × List Mark) Label Event :=
  (engineMachine p).logged (limitMarks p)

theorem lag_new (p : Params) : lag (Engine.new p) = 0 := sub_self _

/-- The lag is the number of raises since the gauge was set. -/
theorem lag_marked {ok : Engine × List Mark → Label → Engine × List Mark → Prop}
    {marks : List Mark} (run : (marked p).Reaches ok events (e, marks)) :
    lag e = behind marks := by
  refine Machine.Run.invariant run (fun _ s => lag s.1 = behind s.2) (lag_new p) ?_
  intro _ _ s s' label same _ stepped
  obtain ⟨moved, logged⟩ := Machine.logged_step.mp stepped
  rw [lag_step moved, same, logged, ← lagAfter_zero, ← lagAfter_append, lagAfter_zero]

theorem lag_eq_zero_iff (e : Engine) :
    lag e = 0 ↔ e.metrics.concurrencyLimit = e.limiter.limit := by
  unfold lag
  omega

/-- The gauge shows the limit exactly when every raise was followed by a throttle, a
submission, a cancellation or a last result. It does so in every state of a run
whose segments show what they raise. -/
theorem limit_gauge_iff (p : Params) :
    (∀ events e marks, (marked p).Reaches Machine.anyStep events (e, marks) →
      (e.metrics.concurrencyLimit = e.limiter.limit ↔ ¬Unshown marks)) ∧
    ∀ events e, (engineMachine p).Reaches
        (fun e label _ => ¬Unshown (limitMarks p e label)) events e →
      e.metrics.concurrencyLimit = e.limiter.limit := by
  constructor
  · intro events e marks run
    rw [← lag_eq_zero_iff, lag_marked run, ← behind_eq_zero_iff]
    exact Int.natCast_eq_zero
  · intro events e run
    rw [← lag_eq_zero_iff]
    refine Machine.Run.invariant run (fun _ e => lag e = 0) (lag_new p) ?_
    intro _ _ _ _ label same shown stepped
    rw [lag_step stepped, same, lagAfter_zero, (behind_eq_zero_iff _).mpr shown]
    rfl

/-- One item is throttled once, and five items are answered; more are queued. -/
def throttleThenGrow : List Label :=
  [.submit (List.replicate 7 { id := none, prompt := "hello" }) .normal none "a",
    .work 0 .start, .work 0 .enter, .work 0 .take, .work 0 .gate,
    .work 0 (.reply (.rateLimited 0) 0), .work 0 .backoffWake, .work 0 .gate] ++
    (List.replicate 5
      [.work 0 (.reply (.returned "hi") 0), .work 0 .leave,
        .work 0 .enter, .work 0 .take, .work 0 .gate, .work 0 .suspend]).flatten

/-- With the shipped settings the limit has grown back to 52, and the gauge shows 51. -/
theorem limit_gauge_stale :
    ∃ events e, (engineMachine shipped).Reaches
        (Machine.onLabels (fun label => BeforeShutdown label ∧ WellBehaved label)) events e ∧
      e.atAwait = true ∧ e.limiter.limit = 52 ∧ e.metrics.concurrencyLimit = 51 := by
  rcases @Machine.exists_run_of_exec _ _ _ (engineMachine shipped)
      (Machine.onLabels (fun label => BeforeShutdown label ∧ WellBehaved label))
      (engineMachine shipped).initial (fun _ label _ => isWellBehaved label)
      (fun _ _ _ checked => wellBehaved_of_check checked) throttleThenGrow
      (fun outcome => outcome.2.atAwait && decide (outcome.2.limiter.limit = 52) &&
        decide (outcome.2.metrics.concurrencyLimit = 51)) (by decide +kernel) with
    ⟨events, e, run, tested⟩
  rw [Bool.and_eq_true, Bool.and_eq_true, decide_eq_true_eq, decide_eq_true_eq] at tested
  exact ⟨events, e, run, tested.1.1, tested.1.2, tested.2⟩

end EngineLimitGauge
end BatchInference
