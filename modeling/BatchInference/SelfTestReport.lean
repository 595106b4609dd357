/-
What a self-test beside other clients can blame on whom.

All checks but one read what the test itself has submitted, or a bound that holds in
every state of the engine. The queue that has to be drained is that of all clients.
-/

import BatchInference.SelfTestRuns
import BatchInference.EngineAccounting
import BatchInference.EngineOrigins

set_option autoImplicit false

namespace BatchInference
namespace SelfTest

open Engine EngineItems EngineCompletion EnginePermits

variable {p : Params} {n : Int} {opened e e' : Engine} {events emitted : List Event}
  {jobId : JobId}

/-! ### The checks -/

/-- Nobody gets a permit of a limiter that is capped at zero, so nothing is completed. -/
theorem cap_of_completed (factor_nonneg : 0 ≤ p.settings.adaptiveDecreaseFactor)
    (factor_le : p.settings.adaptiveDecreaseFactor ≤ 1)
    (run : (engineMachine p).Reaches Machine.anyStep events e) {job : Job}
    (found : e.store.get jobId = some job) (some_ : 0 < job.completed) :
    1 ≤ p.settings.globalMaxConcurrency := by
  by_contra closed
  have idle : ∀ jobId job, e.store.get jobId = some job → job.completed = 0 := by
    refine run_invariant (run.along (fun e => e.count Loc.holdsPermit = 0) ?_)
      (fun _ e => ∀ jobId job, e.store.get jobId = some job → job.completed = 0) ?_ ?_
    · intro events e run
      have used := (reachable_capped
        (fun e label _ _ => throttleLowers_of_factor factor_nonneg factor_le e label) run).used
      have held := (reachable_permits run).held
      omega
    · intro _ _ impossible
      cases impossible
    · intro _ _ e e' label before _ ⟨_, nobody⟩ step jobId job' found'
      rcases step.job found' with ⟨job, found, change⟩ | ⟨_, _, _, _, _, rfl⟩
      · have none : job.completed = 0 := before jobId job found
        cases change with
        | advanced seq result cost silent answered =>
            obtain ⟨seq, reply, shown⟩ := answered
            obtain ⟨task, w, f, _, _, _, heard⟩ := EngineOrigins.heard_of_step step
              (fun unanswered => unanswered seq reply shown)
            obtain ⟨suspended, calling⟩ := heard.calling
            have holds : w.loc.holdsPermit = true := by
              rw [calling]
              rfl
            have somebody : 0 < e.count Loc.holdsPermit := Dict.count_pos _ _ heard.found holds
            omega
        | _ => exact none
      · rfl
  rw [idle jobId job found] at some_
  exact lt_irrefl _ some_

/-- Both jobs of the test are through, so what is pending belongs to others. -/
theorem drained_iff (run : (engineMachine p).Reaches Machine.anyStep events e) {fairId : JobId}
    (primary : Fulfilled e jobId) (fairness : Fulfilled e fairId) :
    e.scheduler.pending = 0 ↔
      ∀ other, other ≠ jobId → other ≠ fairId → queued other e = 0 := by
  have through : ∀ {jobId : JobId}, Fulfilled e jobId → queued jobId e = 0 := by
    rintro jobId ⟨job, found, completed, _⟩
    exact EngineAccounting.completed_drained run found completed
  rw [pending_eq_zero_iff (reachable_stored run)]
  constructor
  · intro empty other _ _
    exact empty other
  · intro empty other
    by_cases first : other = jobId
    · rw [first]
      exact through primary
    · by_cases second : other = fairId
      · rw [second]
        exact through fairness
      · exact empty other first second

theorem clamp_pos (n : Int) : 5 ≤ clamp n := by
  unfold clamp
  omega

/-- Every check but the one on the queue holds, and the report can be made. -/
theorem report_of_facts (factor_nonneg : 0 ≤ p.settings.adaptiveDecreaseFactor)
    (factor_le : p.settings.adaptiveDecreaseFactor ≤ 1)
    (run : (engineMachine p).Reaches Machine.anyStep events e) {l : Measured}
    {fairJob : Option JobId} (facts : Facts p n e (.evaluating l fairJob)) :
    ∃ job report, e.store.get l.jobId = some job ∧
      evaluate p l fairJob job e = .returned report ∧
      report.checks =
        { immediateAck := true
          idempotencyRoundtrip := true
          allPromptsAggregated := true
          noPromptsDropped := true
          retryRecoveryObserved := decide (0 < job.retries)
          concurrencyCapRespected := true
          queueDrained := decide (e.scheduler.pending = 0)
          fairScheduling := true } ∧
      (report.status = "passed" ↔ e.scheduler.pending = 0) := by
  obtain ⟨measures, rfl, fairness, _⟩ := facts
  obtain ⟨job, found, _, _, completed, succeeded, failed⟩ :=
    measures.fulfilled.counters measures.pairs.primary run
  obtain ⟨fair, foundFair, fairCompleted, fairTotal, _, fairSucceeded, _⟩ :=
    fairness.counters measures.pairs.fairness run
  have size := measures.pairs.size
  have enough := clamp_pos n
  have cap := cap_of_completed factor_nonneg factor_le run found (by omega)
  have checks : checksOf p l (some l.fairId) job e =
      { immediateAck := true
        idempotencyRoundtrip := true
        allPromptsAggregated := true
        noPromptsDropped := true
        retryRecoveryObserved := decide (0 < job.retries)
        concurrencyCapRespected := true
        queueDrained := decide (e.scheduler.pending = 0)
        fairScheduling := true } := by
    have peak := measures.peak
    have bounded : l.peakInflight ≤ p.settings.globalMaxConcurrency := by omega
    have both : job.succeeded + job.failed = l.n := by omega
    unfold checksOf
    rw [Option.bind_some, foundFair, Option.any_some, fairCompleted, fairSucceeded, fairTotal,
      decide_eq_true measures.pairs.acked, measures.pairs.roundtrip, decide_eq_true completed,
      decide_eq_true both, decide_eq_true bounded, beq_self_eq_true, beq_self_eq_true]
    rfl
  have reported : evaluate p l (some l.fairId) job e = .returned _ :=
    if_neg measures.elapsed.ne'
  refine ⟨job, _, found, reported, checks, ?_⟩
  by_cases drained : e.scheduler.pending = 0
  · simp only [checks, Checks.passed, drained]
    decide
  · simp only [checks, Checks.passed, drained]
    decide

/-- While it polls, the test cannot be disturbed by the work of others; but the queue that
it wants to find drained is the queue of all jobs. If both submissions are admitted, the
first within the limit, and both jobs end before their deadlines with all prompts succeeded,
then the report passes exactly if no other job has anything queued when it is made. -/
theorem self_test_passes_iff (p : Params) (n : Int)
    (factor_nonneg : 0 ≤ p.settings.adaptiveDecreaseFactor)
    (factor_le : p.settings.adaptiveDecreaseFactor ≤ 1)
    (run : (engineMachine p).Reaches Machine.anyStep events opened) {shown : List Event}
    {s : Engine × Stage} (testing : (selfTestMachine p n opened).Reaches Untroubled shown s)
    {l : Measured} {fairJob : Option JobId} (at_ : s.2 = .evaluating l fairJob) (uuid : String) :
    ∃ report, (selfTestMachine p n opened).step s (.resume uuid) =
        some ((s.1, .returned report), []) ∧
      (report.status = "passed" ↔
        ∀ jobId, jobId ≠ l.jobId → jobId ≠ l.fairId → queued jobId s.1 = 0) ∧
      ((systemSelfTest report).1 = 200 ↔ report.status = "passed") ∧
      { report.checks with queueDrained := true }.passed = true := by
  have facts := reachable_facts factor_nonneg factor_le run testing
  rw [at_] at facts
  have whole := run.trans (engine_run testing)
  obtain ⟨job, report, found, evaluated, checks, passes⟩ :=
    report_of_facts factor_nonneg factor_le whole facts
  obtain ⟨measures, _, fairness, quiet⟩ := facts
  refine ⟨report, ?_, ?_, ?_, ?_⟩
  · change (if s.1.atAwait then resume p n uuid s.1 s.2 else none) = _
    rw [if_pos quiet, at_]
    change (s.1.store.get l.jobId).map _ = _
    rw [found, Option.map_some, evaluated]
  · exact passes.trans (drained_iff whole measures.fulfilled fairness)
  · unfold systemSelfTest
    by_cases passed : report.status = "passed"
    · simp only [passed, if_true]
    · simp only [passed, if_false]
      decide
  · rw [checks]
    rfl

/-! ### One self-test, and one prompt or two of another client -/

def brings (s s' : Engine × Stage) : Bool :=
  match s.2, s'.2 with
  | .begun _, .acknowledged _ jobId => (s.1.store.get jobId).isNone
  | .pairing _ _, .paired pair => (s.1.store.get pair.fairId).isNone
  | _, _ => true

def acknowledges (s' : Engine × Stage) : Bool :=
  match s'.2 with
  | .duplicating l => decide (l.ackMs < 500)
  | _ => true

def inTime (jobId : JobId) (deadline : ℚ) (e : Engine) : Bool :=
  (e.store.get jobId).all (fun job =>
    (!decide (deadline < e.loopTime) || !isOpen job.state) &&
      (isOpen job.state || job.state == .completed && job.succeeded == job.total))

def punctual (s : Engine × Stage) : Bool :=
  match s.2 with
  | .watching l deadline _ _ => inTime l.jobId deadline s.1
  | .waiting l deadline _ => inTime l.fairId deadline s.1
  | _ => true

theorem inTime_of_check {deadline : ℚ} (checked : inTime jobId deadline e = true) :
    InTime jobId deadline e := by
  intro job found
  unfold inTime at checked
  rw [found, Option.all_some, Bool.and_eq_true, Bool.or_eq_true, Bool.or_eq_true,
    Bool.and_eq_true, beq_iff_eq, beq_iff_eq, Bool.not_eq_true', Bool.not_eq_true',
    decide_eq_false_iff_not] at checked
  obtain ⟨early, fulfilled⟩ := checked
  constructor
  · exact early.resolve_left ∘ not_not_intro
  · intro ended
    rcases fulfilled with unfinished | fulfilled
    · rw [ended] at unfinished
      cases unfinished
    · exact fulfilled

theorem untroubled_of_check {s s' : Engine × Stage} (label : TestLabel)
    (checked : (brings s s' && acknowledges s' && punctual s') = true) :
    Untroubled s label s' := by
  rw [Bool.and_eq_true, Bool.and_eq_true] at checked
  obtain ⟨⟨new, acked⟩, inTime⟩ := checked
  refine ⟨⟨?_, ?_, ?_⟩, ?_⟩
  · intro l jobId before after
    unfold brings at new
    rw [before, after] at new
    exact Option.isNone_iff_eq_none.mp new
  · intro l roundtrip pair before after
    unfold brings at new
    rw [before, after] at new
    exact Option.isNone_iff_eq_none.mp new
  · intro l after
    unfold acknowledges at acked
    rw [after] at acked
    exact of_decide_eq_true acked
  · unfold punctual at inTime
    unfold Punctual
    split
    · rename_i at_
      rw [at_] at inTime
      exact inTime_of_check inTime
    · rename_i at_
      rw [at_] at inTime
      exact inTime_of_check inTime
    · trivial

def workOf (task : TaskId) (actions : List Action) : List TestLabel :=
  actions.map (fun action => .engine (.work task action))

def answers (count : Nat) : List TestLabel :=
  (List.replicate count
    (workOf 0 [.take, .gate, .reply (.returned "y") 0, .leave, .enter])).flatten

/-- The only worker answers both batches of the test and ends. While the test sleeps,
another client submits a batch, and its first prompt is called for. -/
def besideOthers (others : List PromptItem) : List TestLabel :=
  [.resume "run", .resume "a", .resume "", .resume "x", .resume "b", .resume "", .resume "",
    .resume ""] ++
    workOf 0 [.start, .enter] ++ answers 10 ++ workOf 0 [.take, .leave] ++
    [.engine (.submit others .normal none "c")] ++
    workOf 1 [.start, .enter, .take, .gate, .suspend] ++
    [.engine (.tick (1 / 10) 0), .resume "", .resume "", .resume "", .resume "", .resume "",
      .resume ""]

def evaluatesIdle (outcome : List Event × (Engine × Stage)) : Bool :=
  (match outcome.2.2 with
    | .evaluating _ _ => true
    | _ => false) && outcome.2.1.scheduler.pending == 0 && outcome.2.1.count Loc.inCall == 1

/-- With a single prompt the other client is in a call when the report is made, and has
nothing queued. -/
theorem self_test_passes_beside_call :
    ∃ shown s report, (selfTestMachine singleWorker 5 (Engine.new singleWorker)).Reaches
        Untroubled shown s ∧ s.1.count Loc.inCall = 1 ∧
      (selfTestMachine singleWorker 5 (Engine.new singleWorker)).step s (.resume "") =
        some ((s.1, .returned report), []) ∧ report.status = "passed" := by
  obtain ⟨shown, s, testing, checked⟩ := @Machine.exists_run_of_exec _ _ _
    (selfTestMachine singleWorker 5 (Engine.new singleWorker)) Untroubled
    (Engine.new singleWorker, .created) (fun s _ s' => brings s s' && acknowledges s' && punctual s')
    (fun _ label _ checked => untroubled_of_check label checked)
    (besideOthers [{ id := none, prompt := "x" }]) evaluatesIdle (by decide +kernel)
  unfold evaluatesIdle at checked
  rw [Bool.and_eq_true, Bool.and_eq_true, beq_iff_eq, beq_iff_eq] at checked
  obtain ⟨⟨evaluates, drained⟩, calling⟩ := checked
  have opened : (engineMachine singleWorker).Reaches Machine.anyStep []
      (Engine.new singleWorker) := .refl
  have stored := reachable_stored (opened.trans (engine_run testing))
  split at evaluates
  · rename_i l fairJob at_
    obtain ⟨report, stepped, passes, _⟩ := self_test_passes_iff singleWorker 5 (by decide +kernel)
      (by decide +kernel) opened testing at_ ""
    refine ⟨shown, s, report, testing, calling, stepped, passes.mpr ?_⟩
    intro jobId _ _
    exact (pending_eq_zero_iff stored).mp drained jobId
  · cases evaluates

def reportsFailure (outcome : List Event × (Engine × Stage)) : Bool :=
  (match outcome.2.2 with
    | .returned report => (systemSelfTest report).1 == 500 && report.status == "failed" &&
        report.succeeded == 5 && !report.checks.queueDrained
    | _ => false) &&
    queued "a" outcome.2.1 == 0 && queued "b" outcome.2.1 == 0

/-- With two prompts of the other client the second one is queued when the report is made:
the test fails, although both of its own jobs have gone through. -/
theorem self_test_blames_others :
    ∃ shown s report, 0 ≤ singleWorker.settings.adaptiveDecreaseFactor ∧
      singleWorker.settings.adaptiveDecreaseFactor ≤ 1 ∧
      (selfTestMachine singleWorker 5 (Engine.new singleWorker)).Reaches Untroubled shown s ∧
      s.2 = .returned report ∧ report.status = "failed" ∧ (systemSelfTest report).1 = 500 ∧
      report.succeeded = 5 ∧ report.checks.queueDrained = false ∧
      queued "a" s.1 = 0 ∧ queued "b" s.1 = 0 := by
  obtain ⟨shown, s, testing, checked⟩ := @Machine.exists_run_of_exec _ _ _
    (selfTestMachine singleWorker 5 (Engine.new singleWorker)) Untroubled
    (Engine.new singleWorker, .created) (fun s _ s' => brings s s' && acknowledges s' && punctual s')
    (fun _ label _ checked => untroubled_of_check label checked)
    (besideOthers [{ id := none, prompt := "x" }, { id := none, prompt := "y" }] ++ [.resume ""])
    reportsFailure (by decide +kernel)
  unfold reportsFailure at checked
  simp only [Bool.and_eq_true, beq_iff_eq] at checked
  obtain ⟨⟨reports, primary⟩, fairness⟩ := checked
  split at reports
  · rename_i report at_
    simp only [Bool.and_eq_true, beq_iff_eq, Bool.not_eq_true'] at reports
    obtain ⟨⟨⟨code, failed⟩, succeeded⟩, undrained⟩ := reports
    exact ⟨shown, s, report, by decide +kernel, by decide +kernel, testing, at_, failed, code,
      succeeded, undrained, primary, fairness⟩
  · cases reports

end SelfTest
end BatchInference
