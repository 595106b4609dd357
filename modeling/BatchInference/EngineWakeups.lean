/-
Wake-ups at the adaptive limiter.

`release` notifies one waiter although two slots may have opened, and
`record_success` raises the limit without notifying. Nothing is lost because the
worker that releases comes back to the limiter in the same stretch: it counts as
one more task on its way to a permit. The account below says that, as long as
somebody sleeps, the free slots are covered by notified waiters and by workers
on their way.
-/

import BatchInference.EnginePermits

set_option autoImplicit false

namespace BatchInference
namespace EngineWakeups

open Engine EnginePermits

/-- The worker is about to test the limit, in the stretch that is going on. -/
def retrying : Loc → Bool
  | .acquiring => true
  | .releasing again => again
  | _ => false

theorem retrying_working {loc : Loc} (working : loc.flight.isSome = true) :
    retrying loc = false := by
  cases loc with
  | gating f => rfl
  | tokenSleep f seconds => rfl
  | calling f suspended => rfl
  | backoff f seconds => rfl
  | created => cases working
  | acquiring => cases working
  | waiting => cases working
  | popping => cases working
  | releasing again => cases working
  | done => cases working

theorem running_of_retrying (loc : Loc) (coming : retrying loc = true) : loc.running = true := by
  cases loc with
  | acquiring => rfl
  | releasing again => rfl
  | _ => cases coming

/-! ### The account of free slots -/

/-- While somebody sleeps, notified waiters and `coming` workers cover the free
slots. -/
def Covered (l : AdaptiveConcurrencyLimiter) (coming : Nat) : Prop :=
  0 < l.cond.asleep → l.limit ≤ l.inUse + l.cond.notified + coming

/-- Somebody holds a permit or will ask for one, while somebody sleeps. -/
def Stirring (l : AdaptiveConcurrencyLimiter) (coming : Nat) : Prop :=
  0 < l.cond.asleep → 0 < l.inUse + l.cond.notified + coming

private theorem release_counts (l : AdaptiveConcurrencyLimiter)
    (sleeper : 0 < l.release.cond.asleep) :
    0 < l.cond.asleep ∧ l.release.cond.notified = l.cond.notified + 1 := by
  rcases l.cond.notify_counts with ⟨nobody, somebody⟩
  rcases Nat.eq_zero_or_pos l.cond.asleep with none | some
  · have same : l.release.cond = l.cond := nobody none
    rw [same, none] at sleeper
    cases sleeper
  · exact ⟨some, (somebody some).1⟩

/-- One stretch of a worker keeps the account, unless a throttle raises the limit. -/
theorem covered_step {task : TaskId} {l l' : AdaptiveConcurrencyLimiter} {source target : Loc}
    {s : Settings} {coming coming' : Nat} (configured : Configured s l) (used : 0 ≤ l.inUse)
    (absent : source.isWaiting = false → l.cond.waiters.get? task = none)
    (moved : coming' + (if retrying source then 1 else 0) =
      coming + if retrying target then 1 else 0)
    (covered : Covered l coming)
    (step : PermitStep (pyInt (l.limit * s.adaptiveDecreaseFactor) ≤ max 0 l.limit) False task l
      source target l') :
    Covered l' coming' := by
  intro sleeper
  cases step with
  | begin =>
      have before := covered sleeper
      simp only [retrying, Bool.false_eq_true, if_false, if_true] at moved
      omega
  | wake marked =>
      rcases l.cond.leave_counts task marked with ⟨gone, kept⟩
      simp only [AdaptiveConcurrencyLimiter.leave] at sleeper ⊢
      rw [kept] at sleeper
      have before := covered sleeper
      simp only [retrying, Bool.false_eq_true, if_false, if_true] at moved
      omega
  | grant free =>
      have before := covered sleeper
      simp only [retrying, Bool.false_eq_true, if_false, if_true] at moved
      simp only
      omega
  | sleep full =>
      rcases l.cond.wait_counts task (absent rfl) with ⟨same, _⟩
      simp only [same]
      omega
  | idle =>
      have before := covered sleeper
      simp only [retrying, Bool.false_eq_true, if_false] at moved
      omega
  | skip =>
      have before := covered sleeper
      simp only [retrying, Bool.false_eq_true, if_false, if_true] at moved
      omega
  | take target working =>
      have before := covered sleeper
      rw [retrying_working working] at moved
      simp only [retrying, Bool.false_eq_true, if_false] at moved
      omega
  | carry source target working stays =>
      have before := covered sleeper
      rw [retrying_working working, retrying_working stays] at moved
      omega
  | throttle source target working stays known =>
      have before := covered sleeper
      have floor := configured.floor
      rw [retrying_working working, retrying_working stays] at moved
      simp only [AdaptiveConcurrencyLimiter.recordThrottle, configured.decrease]
      omega
  | finish source again working =>
      have before := covered sleeper
      rw [retrying_working working] at moved
      simp only [retrying, Bool.false_eq_true, if_false] at moved
      omega
  | credit source working =>
      -- The limit may rise by one; the worker that raised it is on its way back.
      have kept : l.recordSuccess.cond = l.cond ∧ l.recordSuccess.inUse = l.inUse ∧
          l.recordSuccess.limit ≤ l.limit + 1 := by
        rcases l.recordSuccess_cases with ⟨_, rises⟩ | ⟨_, counted⟩
        · rw [rises]
          exact ⟨rfl, rfl, le_refl _⟩
        · rw [counted]
          exact ⟨rfl, rfl, Int.le_add_one le_rfl⟩
      rcases kept with ⟨sameCond, sameUse, raised⟩
      rw [sameCond] at sleeper
      have before := covered sleeper
      rw [retrying_working working] at moved
      simp only [retrying, Bool.false_eq_true, if_false, if_true] at moved
      rw [sameCond, sameUse]
      omega
  | leave again =>
      rcases release_counts l sleeper with ⟨some, notified⟩
      have before := covered some
      rw [notified]
      change l.limit ≤ l.inUse - 1 + _ + _
      cases again with
      | true =>
          simp only [retrying, if_true] at moved
          omega
      | false =>
          simp only [retrying, Bool.false_eq_true, if_false] at moved
          omega
  | kill known => exact known.elim
  | giveUp known => exact known.elim

/-- As long as the limit allows one permit, every stretch of a worker leaves
somebody behind who will release a permit or ask for one. -/
theorem stirring_step {task : TaskId} {l l' : AdaptiveConcurrencyLimiter} {source target : Loc}
    {lowers : Prop} {coming coming' : Nat} (positive : 0 < l.limit) (used : 0 ≤ l'.inUse)
    (absent : source.isWaiting = false → l.cond.waiters.get? task = none)
    (held : (if source.holdsPermit then 1 else 0) ≤ l.inUse)
    (moved : coming' + (if retrying source then 1 else 0) =
      coming + if retrying target then 1 else 0)
    (step : PermitStep lowers False task l source target l') : Stirring l' coming' := by
  intro sleeper
  cases step with
  | begin =>
      simp only [retrying, Bool.false_eq_true, if_false, if_true] at moved
      omega
  | wake marked =>
      simp only [retrying, Bool.false_eq_true, if_false, if_true] at moved
      omega
  | grant free =>
      simp only [Loc.holdsPermit, Bool.false_eq_true, if_false] at held
      simp only
      omega
  | sleep full =>
      simp only
      omega
  | idle =>
      simp only [Loc.holdsPermit, if_true] at held
      omega
  | skip =>
      simp only [Loc.holdsPermit, if_true] at held
      omega
  | take target working =>
      simp only [Loc.holdsPermit, if_true] at held
      omega
  | carry source target working stays =>
      rw [(working_spec working).1, if_pos rfl] at held
      omega
  | throttle source target working stays known =>
      rw [(working_spec working).1, if_pos rfl] at held
      simp only [AdaptiveConcurrencyLimiter.recordThrottle]
      omega
  | finish source again working =>
      rw [(working_spec working).1, if_pos rfl] at held
      omega
  | credit source working =>
      rw [retrying_working working] at moved
      simp only [retrying, Bool.false_eq_true, if_false, if_true] at moved
      omega
  | leave again =>
      rcases release_counts l sleeper with ⟨_, notified⟩
      rw [notified]
      omega
  | kill known => exact known.elim
  | giveUp known => exact known.elim

/-! ### Runs before shutdown -/

/-- A worker waits in `limiter.acquire` and nobody has notified it. -/
def Asleep (e : Engine) (task : TaskId) : Prop :=
  (∃ w, e.workers.get? task = some w ∧ w.loc.isWaiting = true) ∧
    e.limiter.cond.waiters.get? task = some false

theorem notified_waits {e : Engine} (permits : Permits e) (some_ : 0 < e.limiter.cond.notified) :
    ∃ task w, e.workers.get? task = some w ∧ w.loc = .waiting ∧
      e.limiter.cond.waiters.get? task = some true := by
  rcases e.limiter.cond.exists_notified some_ with ⟨task, marked⟩
  rcases (permits.waiting task).mp (by rw [marked]; rfl) with ⟨w, found, waits⟩
  exact ⟨task, w, found, Loc.eq_waiting waits, marked⟩

theorem not_waiting {e : Engine} (permits : Permits e) {task : TaskId} {w : Worker}
    (found : e.workers.get? task = some w) (awake : w.loc.isWaiting = false) :
    e.limiter.cond.waiters.get? task = none := by
  cases read : e.limiter.cond.waiters.get? task with
  | none => rfl
  | some flag =>
      rcases (permits.waiting task).mp (by rw [read]; rfl) with ⟨w', found', waits⟩
      rw [found, Option.some.injEq] at found'
      rw [← found', awake] at waits
      cases waits

private theorem count_retrying_request (p : Params) {e : Engine} (loop : e.EventLoop)
    (prompts : List PromptItem) (priority : Priority) (key : Option String) (newId : JobId) :
    (e.submitWithIdempotency p prompts priority key newId).1.count retrying =
      e.count retrying := by
  rcases submit_cases p prompts priority key newId e with ⟨⟨_, _, same⟩, _⟩ | admitted
  · rw [same]
    rfl
  · rw [admitted.2.2.2.2]
    rcases register_spec p prompts priority key newId e loop.numbered with ⟨_, _, _, counts, _⟩
    simp only [counts retrying rfl, retrying, Bool.false_eq_true, if_false, add_zero]

variable {p : Params} {ok : Engine → Label → Engine → Prop} {events : List Event} {e : Engine}

/-- What is known about the limiter in every reachable state. -/
private def LimiterFacts (p : Params) (e : Engine) : Prop :=
  Configured p.settings e.limiter ∧ Permits e

private theorem along_facts (run : (engineMachine p).Reaches ok events e) :
    (engineMachine p).Reaches (fun e label e' => ok e label e' ∧ LimiterFacts p e) events e :=
  run.along (LimiterFacts p)
    (fun earlier => ⟨reachable_configured earlier, reachable_permits earlier⟩)

private theorem used_nonneg {e : Engine} (permits : Permits e) : 0 ≤ e.limiter.inUse := by
  rw [permits.held]
  exact Nat.cast_nonneg _

private theorem no_interrupt {task : TaskId} {action : Action}
    (serves : Serves (.work task action)) (interrupted : action = .interrupt) : False := by
  rw [interrupted] at serves
  exact serves

theorem reachable_covered (before : ∀ e label e', ok e label e' → BeforeShutdown label)
    (lowers : ∀ e label e', ok e label e' → ThrottleLowers p e label)
    (run : (engineMachine p).Reaches ok events e) : Covered e.limiter (e.count retrying) := by
  refine (serving_invariant (fun e label e' admissible => before e label e' admissible.1)
    (along_facts run) (fun _ e => Covered e.limiter (e.count retrying)) ?_ ?_).1
  · intro sleeper
    cases sleeper
  · intro _ _ e e' label covered loop _ serves admissible step
    rcases admissible with ⟨allowed, configured, permits⟩
    cases step with
    | submitted label prompts priority key newId requested quiet named fresh =>
        rw [limiter_of_request, count_retrying_request p loop]
        exact covered
    | worked task action w g flag loc emitted found lowered work =>
        have moved := count_moveTo retrying task flag loc work.workers.1 found
        have permit : PermitStep (pyInt (e.limiter.limit * p.settings.adaptiveDecreaseFactor) ≤
            max 0 e.limiter.limit) False task e.limiter w.loc loc g.limiter := by
          refine permitStep ?_ (no_interrupt serves) work
          intro f suspended reply jitter seconds isReply
          exact lowers e _ _ allowed task w f suspended reply jitter seconds (by rw [isReply]) found
        exact covered_step configured (used_nonneg permits) (not_waiting permits found) moved
          covered permit
    | shutdownStarted quiet phase => exact serves.elim
    | graceExpired quiet phase => exact serves.elim
    | shutdownReturned ended phase => exact serves.elim
    | _ => exact covered

theorem reachable_stirring (before : ∀ e label e', ok e label e' → BeforeShutdown label)
    (minimum : 1 ≤ p.settings.adaptiveMinConcurrency)
    (maximum : 1 ≤ p.settings.globalMaxConcurrency)
    (run : (engineMachine p).Reaches ok events e) : Stirring e.limiter (e.count retrying) := by
  refine (serving_invariant (fun e label e' admissible => before e label e' admissible.1)
    (along_facts run) (fun _ e => Stirring e.limiter (e.count retrying)) ?_ ?_).1
  · intro sleeper
    cases sleeper
  · intro _ _ e e' label stirring loop _ serves admissible step
    rcases admissible with ⟨_, configured, permits⟩
    cases step with
    | submitted label prompts priority key newId requested quiet named fresh =>
        rw [limiter_of_request, count_retrying_request p loop]
        exact stirring
    | worked task action w g flag loc emitted found lowered work =>
        have moved := count_moveTo retrying task flag loc work.workers.1 found
        have permit : PermitStep True False task e.limiter w.loc loc g.limiter :=
          permitStep (fun _ _ _ _ _ _ _ _ => trivial) (no_interrupt serves) work
        have positive : 0 < e.limiter.limit := by
          have floor := configured.floor
          rw [configured.minimum] at floor
          omega
        have held : (if w.loc.holdsPermit then 1 else 0) ≤ e.limiter.inUse := by
          rw [permits.held]
          by_cases holds : w.loc.holdsPermit = true
          · have one := Dict.count_pos (fun w => w.loc.holdsPermit) e.workers found holds
            rw [if_pos holds]
            exact_mod_cast one
          · rw [if_neg holds]
            exact Nat.cast_nonneg _
        have after := permits_worked flag permits work.workers.1 found permit
        exact stirring_step positive (used_nonneg after) (not_waiting permits found) held moved
          permit
    | shutdownStarted quiet phase => exact serves.elim
    | graceExpired quiet phase => exact serves.elim
    | shutdownReturned ended phase => exact serves.elim
    | _ => exact stirring

/-- Between two stretches nobody is on the way to the limiter. -/
private theorem retrying_atAwait {e : Engine} (quiet : e.atAwait = true) :
    e.count retrying = 0 :=
  count_of_atAwait quiet retrying running_of_retrying

/-- With nobody to release a permit and nobody notified, not all workers sleep. -/
theorem not_all_asleep (before : ∀ e label e', ok e label e' → BeforeShutdown label)
    (minimum : 1 ≤ p.settings.adaptiveMinConcurrency)
    (maximum : 1 ≤ p.settings.globalMaxConcurrency)
    (run : (engineMachine p).Reaches ok events e) (quiet : e.atAwait = true) :
    ¬((∃ task w, e.workers.get? task = some w ∧ w.loc.isDone = false) ∧
      ∀ task w, e.workers.get? task = some w → w.loc.isDone = false → Asleep e task) := by
  rintro ⟨⟨task, w, found, alive⟩, all⟩
  have permits := reachable_permits run
  have stirring := reachable_stirring before minimum maximum run
    (e.limiter.cond.asleep_pos (all task w found alive).2)
  rw [retrying_atAwait quiet] at stirring
  have noHolder : e.count Loc.holdsPermit = 0 := by
    apply Dict.count_eq_zero
    intro other w' found'
    cases ended : w'.loc.isDone with
    | true =>
        rw [Loc.eq_done ended]
        rfl
    | false =>
        rcases (all other w' found' ended).1 with ⟨w'', found'', waits⟩
        rw [found', Option.some.injEq] at found''
        rw [found'', Loc.eq_waiting waits]
        rfl
  have noNotified : e.limiter.cond.notified = 0 := by
    rcases Nat.eq_zero_or_pos e.limiter.cond.notified with none | some
    · exact none
    · rcases notified_waits permits some with ⟨other, w', found', waits, marked⟩
      have unmarked := (all other w' found' (by rw [waits]; rfl)).2
      rw [marked] at unmarked
      cases unmarked
  rw [permits.held, noHolder, noNotified] at stirring
  cases stirring

/-- As long as no throttle raises the limit, no wake-up is lost: while a worker
sleeps unnoticed, the notified workers that have not resumed cover the free
slots, nobody sleeps below the limit once all of those have resumed, and the
live workers are never all asleep. -/
theorem no_lost_wakeup (p : Params) {events : List Event} {e : Engine}
    (run : (engineMachine p).Reaches
      (fun e label _ => BeforeShutdown label ∧ ThrottleLowers p e label) events e)
    (quiet : e.atAwait = true) :
    (∀ task, Asleep e task →
        e.limiter.limit - e.limiter.inUse ≤ e.limiter.cond.notified) ∧
      (e.limiter.cond.notified = 0 →
        ∀ task, Asleep e task → e.limiter.limit ≤ e.limiter.inUse) ∧
      (1 ≤ p.settings.adaptiveMinConcurrency → 1 ≤ p.settings.globalMaxConcurrency →
        ¬((∃ task w, e.workers.get? task = some w ∧ w.loc.isDone = false) ∧
          ∀ task w, e.workers.get? task = some w → w.loc.isDone = false → Asleep e task)) := by
  have covers : ∀ task, Asleep e task →
      e.limiter.limit - e.limiter.inUse ≤ e.limiter.cond.notified := by
    intro task asleep
    have covered := reachable_covered (fun _ _ _ admissible => admissible.1)
      (fun _ _ _ admissible => admissible.2) run (e.limiter.cond.asleep_pos asleep.2)
    rw [retrying_atAwait quiet] at covered
    omega
  refine ⟨covers, ?_, ?_⟩
  · intro none task asleep
    have covered := covers task asleep
    rw [none] at covered
    omega
  · intro minimum maximum
    exact not_all_asleep (fun _ _ _ admissible => admissible.1) minimum maximum run quiet

/-- Three workers compete for one permit; a throttle multiplies the limit by `factor`. -/
def contended (factor : ℚ) : Params :=
  { settings :=
      { workerPoolSize := 3
        globalMaxConcurrency := 1
        adaptiveDecreaseFactor := factor }
    fingerprint := fun _ _ => "" }

/-- The first worker calls the provider and the other two go to sleep. -/
def contention : List Label :=
  [.submit (List.replicate 3 { id := none, prompt := "hello" }) .normal none "a",
    .work 0 .start, .work 0 .enter, .work 0 .take, .work 0 .gate, .work 0 .suspend,
    .work 1 .start, .work 1 .enter, .work 2 .start, .work 2 .enter]

/-- Two of the workers sleep at the limiter, and nothing is lost. -/
theorem no_lost_wakeup_contended :
    ∃ events e, (engineMachine (contended (4 / 5))).Reaches
        (fun e label _ => BeforeShutdown label ∧ ThrottleLowers (contended (4 / 5)) e label)
        events e ∧
      e.atAwait = true ∧ e.limiter.cond.asleep = 2 ∧
      ((∀ task, Asleep e task →
          e.limiter.limit - e.limiter.inUse ≤ e.limiter.cond.notified) ∧
        (e.limiter.cond.notified = 0 →
          ∀ task, Asleep e task → e.limiter.limit ≤ e.limiter.inUse) ∧
        (1 ≤ (contended (4 / 5)).settings.adaptiveMinConcurrency →
          1 ≤ (contended (4 / 5)).settings.globalMaxConcurrency →
            ¬((∃ task w, e.workers.get? task = some w ∧ w.loc.isDone = false) ∧
              ∀ task w, e.workers.get? task = some w → w.loc.isDone = false →
                Asleep e task))) := by
  rcases @Machine.exists_run_of_exec _ _ _ (engineMachine (contended (4 / 5)))
      (fun e label _ => BeforeShutdown label ∧ ThrottleLowers (contended (4 / 5)) e label)
      (engineMachine (contended (4 / 5))).initial (fun _ label _ => !isShutdown label)
      (fun e label _ checked => ⟨beforeShutdown_of_check checked,
        throttleLowers_of_factor (by decide +kernel) (by decide +kernel) e label⟩)
      contention
      (fun outcome => outcome.2.atAwait && outcome.2.limiter.cond.asleep == 2)
      (by decide +kernel) with
    ⟨events, e, run, tested⟩
  rw [Bool.and_eq_true, beq_iff_eq] at tested
  exact ⟨events, e, run, tested.1, tested.2, no_lost_wakeup (contended (4 / 5)) run tested.1⟩

/-- With a factor of 2 the first 429 raises the limit from 1 to 2 and notifies
nobody: two workers sleep next to a free slot. -/
theorem wakeup_lost_by_raised_limit :
    ∃ events e, (engineMachine (contended 2)).Reaches
        (Machine.onLabels BeforeShutdown) events e ∧
      e.atAwait = true ∧ Asleep e 1 ∧ e.limiter.cond.notified = 0 ∧
      ¬e.limiter.limit - e.limiter.inUse ≤ e.limiter.cond.notified ∧
      ¬e.limiter.limit ≤ e.limiter.inUse := by
  rcases @Machine.exists_run_of_exec _ _ _ (engineMachine (contended 2))
      (Machine.onLabels BeforeShutdown)
      (engineMachine (contended 2)).initial (fun _ label _ => !isShutdown label)
      (fun _ _ _ checked => beforeShutdown_of_check checked)
      (contention ++ [.work 0 (.reply (.rateLimited 0) 0)])
      (fun outcome => outcome.2.atAwait &&
        (outcome.2.limiter.cond.waiters.get? 1 == some false &&
          (outcome.2.limiter.cond.notified == 0 &&
            (outcome.2.limiter.limit == 2 && outcome.2.limiter.inUse == 1))))
      (by decide +kernel) with
    ⟨events, e, run, tested⟩
  simp only [Bool.and_eq_true, beq_iff_eq] at tested
  rcases tested with ⟨quiet, unmarked, nobody, limit, used⟩
  have waits := ((reachable_permits run).waiting 1).mp (by rw [unmarked]; rfl)
  refine ⟨events, e, run, quiet, ⟨waits, unmarked⟩, nobody, ?_, ?_⟩
  · rw [limit, used, nobody]
    decide
  · rw [limit, used]
    decide

end EngineWakeups
end BatchInference
