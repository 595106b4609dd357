/-
Whether the pool is work-conserving.

`_ensure_workers` compares the number of workers it wants with all live workers,
busy ones included. The queue is served by idle workers only, so a submission to
a busy engine may leave items queued next to unused worker slots. The account
below shows that this comparison, a throttle that raises the limit and a call
that ends its worker are the only ways in which it happens.
-/

import BatchInference.EngineJobs
import BatchInference.EngineWakeups

set_option autoImplicit false

namespace BatchInference
namespace EngineConserving

open Engine EnginePermits EngineWakeups

/-- The worker has an item, or is done with one and comes back for the next. -/
def busy : Loc → Bool
  | .releasing again => again
  | loc => loc.flight.isSome

/-- The task is not done and will not end in this stretch. -/
def staying : Loc → Bool
  | .releasing again => again
  | .done => false
  | _ => true

/-- Enough workers for the queue, as far as pool and limit allow. -/
def Staffed (p : Params) (e : Engine) : Prop :=
  min p.settings.workerPoolSize
      (min p.settings.globalMaxConcurrency (e.count busy + e.scheduler.pending)) ≤
    e.count staying

/-- What the step must not do: leave fewer workers than pool, limit and work
allow, by an admission that is not topped up or by a call that ends its worker. -/
def Sufficient (p : Params) (e : Engine) (label : Label) : Prop :=
  (∀ prompts priority key newId, e.Requests label prompts priority key newId →
      e.existingJob key = none → e.activeJobs < p.settings.maxActiveJobs →
        e.scheduler.pending + prompts.length ≤ p.settings.maxQueueSize →
          min p.settings.workerPoolSize (min p.settings.globalMaxConcurrency
              (e.limiter.inUse + (e.scheduler.pending + prompts.length))) ≤
            max (e.live : Int) (min p.settings.workerPoolSize
              (max 1 (e.scheduler.pending + prompts.length)))) ∧
    ∀ task jitter, label = .work task (.reply .cancelled jitter) →
      min p.settings.workerPoolSize (min p.settings.globalMaxConcurrency
          (e.limiter.inUse - 1 + e.scheduler.pending)) ≤ e.live - 1

/-! ### Counting busy and staying workers -/

private theorem busy_staying (loc : Loc) (working : busy loc = true) : staying loc = true := by
  cases loc with
  | releasing again => exact working
  | gating f => rfl
  | tokenSleep f seconds => rfl
  | calling f suspended => rfl
  | backoff f seconds => rfl
  | created => rfl
  | acquiring => rfl
  | waiting => rfl
  | popping => rfl
  | done => cases working

theorem count_busy_le (e : Engine) : e.count busy ≤ e.count staying :=
  Dict.count_mono e.workers (fun _ w _ working => busy_staying w.loc working)

/-- Outside the stretches that begin and end a turn, the busy workers are those
with a permit and the staying ones are the live ones. -/
private theorem counts_between {e : Engine}
    (between : ∀ task w, e.workers.get? task = some w →
      w.loc.running = false ∨ ∃ f suspended, w.loc = .calling f suspended) :
    e.count busy = e.count Loc.holdsPermit ∧ e.count staying = e.live := by
  have same : ∀ task w, e.workers.get? task = some w →
      busy w.loc = w.loc.holdsPermit ∧ staying w.loc = !w.loc.isDone := by
    intro task w found
    rcases between task w found with idle | ⟨f, suspended, at_⟩
    · cases at_ : w.loc with
      | popping =>
          rw [at_] at idle
          cases idle
      | releasing again =>
          rw [at_] at idle
          cases idle
      | _ => exact ⟨rfl, rfl⟩
    · rw [at_]
      exact ⟨rfl, rfl⟩
  exact ⟨Dict.count_congr _ (fun task w found => (same task w found).1),
    Dict.count_congr _ (fun task w found => (same task w found).2)⟩

theorem counts_atAwait {e : Engine} (quiet : e.atAwait = true) :
    e.count busy = e.count Loc.holdsPermit ∧ e.count staying = e.live :=
  counts_between (fun task w found => Or.inl (e.atAwait_iff.mp quiet task w found))

/-! ### One step -/

private theorem staffed_registered {p : Params} {e : Engine} (loop : e.EventLoop)
    (permits : Permits e) (quiet : e.atAwait = true) (prompts : List PromptItem)
    (priority : Priority) (key : Option String) (newId : JobId)
    (enough : min p.settings.workerPoolSize (min p.settings.globalMaxConcurrency
        (e.limiter.inUse + (e.scheduler.pending + prompts.length))) ≤
      max (e.live : Int) (min p.settings.workerPoolSize
        (max 1 (e.scheduler.pending + prompts.length)))) :
    Staffed p (e.register p prompts priority key newId) := by
  rcases register_spec p prompts priority key newId e loop.numbered with
    ⟨added, amount, _, counts, _⟩
  have pending : (e.register p prompts priority key newId).scheduler.pending =
      e.scheduler.pending + prompts.length := by
    simp [register, FairScheduler.addJob, workItems]
  rcases counts_atAwait quiet with ⟨sameBusy, sameStaying⟩
  rw [permits.held] at enough
  unfold Staffed
  rw [counts busy rfl, counts staying rfl, pending, sameBusy, sameStaying]
  simp only [busy, Loc.flight, Option.isSome_none, staying, Bool.false_eq_true, if_false, if_true,
    add_zero, Nat.cast_add]
  omega

/-- What a stretch does to the queue, to being busy and to staying. -/
inductive TurnStep (e g : Engine) (action : Action) (source target : Loc) : Prop where
  | same (pending : g.scheduler.pending = e.scheduler.pending)
      (work : busy source = busy target) (stay : staying source = staying target)
  | drained (pending : g.scheduler.pending = 0)
  | took (pending : g.scheduler.pending = e.scheduler.pending - 1)
      (work : busy target = true) (stay : staying source = staying target)
  | back (pending : g.scheduler.pending = e.scheduler.pending)
      (work : busy target = false) (stay : staying source = staying target)
  | ended (jitter : ℚ) (isCancelled : action = .reply .cancelled jitter) (f : InFlight)
      (suspended : Bool) (at_ : source = .calling f suspended) (left : target = .releasing false)
      (pending : g.scheduler.pending = e.scheduler.pending)

theorem cancelled_of_settle {s : Settings} {item : WorkItem} {attempt : Nat} {jitter : ℚ}
    {reply : Reply} (settled : settle s item attempt jitter reply = .cancelled) :
    reply = .cancelled := by
  have cases_ := settles s item attempt jitter reply
  rw [settled] at cases_
  cases cases_ with
  | cancelled => rfl

theorem turnStep {p : Params} {e g : Engine} {task : TaskId} {w : Worker}
    {action : Action} {loc : Loc} {emitted : List Event} (stored : e.Stored)
    (serves : Serves (.work task action))
    (work : WorkStep p e task w action g loc emitted) : TurnStep e g action w.loc loc := by
  have popped : ∀ {scheduler : FairScheduler} {jobId : JobId} {item : WorkItem},
      e.scheduler.pop = (scheduler, some (jobId, item)) →
        scheduler.pending = e.scheduler.pending - 1 :=
    fun result => (e.scheduler.pop_some_spec _ stored.queue _ _ result).2.2.1
  cases work with
  | started at_ quiet => exact .same rfl (by rw [at_]; rfl) (by rw [at_]; rfl)
  | woken at_ quiet marked => exact .same rfl (by rw [at_]; rfl) (by rw [at_]; rfl)
  | granted at_ free => exact .same rfl (by rw [at_]; rfl) (by rw [at_]; rfl)
  | slept at_ full => exact .same rfl (by rw [at_]; rfl) (by rw [at_]; rfl)
  | drained at_ scheduler nothing =>
      rcases e.scheduler.pop_none_spec scheduler stored.queue nothing with ⟨zero, _, rfl⟩
      exact .drained zero
  | skipped at_ scheduler jobId item result gone =>
      exact .took (popped result) rfl (by rw [at_]; rfl)
  | taken at_ scheduler jobId item job result known alive =>
      exact .took (popped result) rfl (by rw [at_]; rfl)
  | called f at_ bucket grant => exact .same rfl (by rw [at_]; rfl) (by rw [at_]; rfl)
  | throttled f at_ bucket seconds refused =>
      exact .same rfl (by rw [at_]; rfl) (by rw [at_]; rfl)
  | tokenWoken f seconds at_ quiet => exact .same rfl (by rw [at_]; rfl) (by rw [at_]; rfl)
  | suspended f at_ => exact .same rfl (by rw [at_]; rfl) (by rw [at_]; rfl)
  | retried f before at_ alone reply jitter seconds settled =>
      exact .same rfl (by rw [at_]; rfl) (by rw [at_]; rfl)
  | recorded f before at_ alone reply jitter result cost credited exhausted settled =>
      exact .same (by rw [(record_frame f result cost credited exhausted e).1])
        (by rw [at_]; rfl) (by rw [at_]; rfl)
  | lost f before at_ alone reply jitter credited settled =>
      exact .same rfl (by rw [at_]; rfl) (by rw [at_]; rfl)
  | callCancelled f before at_ alone reply jitter settled =>
      exact .ended jitter (by rw [cancelled_of_settle settled]) f before at_ rfl rfl
  | backoffEnded f seconds at_ quiet => exact .same rfl (by rw [at_]; rfl) (by rw [at_]; rfl)
  | left again at_ =>
      cases again with
      | true => exact .back rfl rfl (by rw [at_]; rfl)
      | false => exact .same rfl (by rw [at_]; rfl) (by rw [at_]; rfl)
  | killed at_ requested quiet => exact serves.elim
  | gaveUp at_ requested quiet => exact serves.elim
  | sleepCancelled f seconds at_ requested quiet => exact serves.elim

private theorem staffed_worked {p : Params} {e g : Engine} {task : TaskId} {w : Worker}
    {action : Action} {loc : Loc} {emitted : List Event} (flag : Bool) (loop : e.EventLoop)
    (stored : e.Stored) (permits : Permits e) (serves : Serves (.work task action))
    (sufficient : Sufficient p e (.work task action)) (staffed : Staffed p e)
    (found : e.workers.get? task = some w)
    (work : WorkStep p e task w action g loc emitted) :
    Staffed p (g.moveTo task
      { w with cancelRequested := flag } loc) := by
  have movedBusy := count_moveTo busy task flag loc work.workers.1 found
  have movedStaying := count_moveTo staying task flag loc work.workers.1 found
  have below := count_busy_le (g.moveTo task
    { w with cancelRequested := flag } loc)
  unfold Staffed at staffed ⊢
  simp only [moveTo_frame]
  generalize (g.moveTo task
    { w with cancelRequested := flag } loc).count busy = busy' at *
  generalize (g.moveTo task
    { w with cancelRequested := flag } loc).count staying = staying' at *
  cases turnStep stored serves work with
  | same pending sameWork sameStay =>
      rw [sameWork] at movedBusy
      rw [sameStay] at movedStaying
      omega
  | drained pending =>
      -- An empty queue asks for no more workers than are busy.
      omega
  | took pending nowBusy sameStay =>
      rw [nowBusy, if_pos rfl] at movedBusy
      rw [sameStay] at movedStaying
      omega
  | back pending nowIdle sameStay =>
      rw [nowIdle, if_neg Bool.false_ne_true] at movedBusy
      rw [sameStay] at movedStaying
      omega
  | ended jitter isCancelled f suspended at_ left pending =>
      have enough := sufficient.2 task jitter (by rw [isCancelled])
      have between : ∀ other w', e.workers.get? other = some w' →
          w'.loc.running = false ∨ ∃ f suspended, w'.loc = .calling f suspended := by
        intro other w' found'
        by_cases mine : other = task
        · rw [mine, found, Option.some.injEq] at found'
          exact Or.inr ⟨f, suspended, found' ▸ at_⟩
        · exact Or.inl (work.others_idle loop found found' mine)
      rcases counts_between between with ⟨sameBusy, sameStaying⟩
      rw [permits.held] at enough
      rw [at_, left, sameBusy] at movedBusy
      rw [at_, left, sameStaying] at movedStaying
      simp only [busy, staying, Loc.flight, Option.isSome_some, Bool.false_eq_true, if_true,
        if_false, add_zero] at movedBusy movedStaying
      omega

/-! ### Runs before shutdown -/

variable {p : Params} {ok : Engine → Label → Engine → Prop} {events : List Event} {e : Engine}

theorem removeJob_pending_le (s : FairScheduler) (jobId : JobId) :
    (s.removeJob jobId).1.pending ≤ s.pending := by
  unfold FairScheduler.removeJob
  split
  · exact le_refl _
  · simp only
    omega

theorem reachable_staffed (before : ∀ e label e', ok e label e' → BeforeShutdown label)
    (sufficient : ∀ e label e', ok e label e' → Sufficient p e label)
    (run : (engineMachine p).Reaches ok events e) : Staffed p e := by
  have facts := run.along (fun e => e.Stored ∧ Permits e)
    (fun earlier => ⟨reachable_stored earlier, reachable_permits earlier⟩)
  refine (serving_invariant (fun e label e' admissible => before e label e' admissible.1)
    facts (fun _ e => Staffed p e) ?_ ?_).1
  · exact (min_le_right _ _).trans (min_le_right _ _)
  · intro _ _ e e' label staffed loop _ serves admissible step
    rcases admissible with ⟨allowed, stored, permits⟩
    cases step with
    | submitted label prompts priority key newId requested quiet named fresh =>
        rcases submit_cases p prompts priority key newId e with
          ⟨⟨_, _, same⟩, _⟩ | ⟨_, unknown, idle, room, admitted⟩
        · rw [same]
          exact staffed
        · rw [admitted]
          exact staffed_registered loop permits quiet prompts priority key newId
            ((sufficient e label _ allowed).1 prompts priority key newId requested unknown idle
              room)
    | cancelled jobId job quiet found unfinished =>
        have fewer := removeJob_pending_le e.scheduler jobId
        unfold Staffed at staffed ⊢
        simp only [count, cancelOpen_frame] at staffed ⊢
        omega
    | worked task action w g flag loc emitted found lowered work =>
        exact staffed_worked flag loop stored permits serves (sufficient e _ _ allowed) staffed
          found work
    | shutdownStarted quiet phase => exact serves.elim
    | graceExpired quiet phase => exact serves.elim
    | shutdownReturned ended phase => exact serves.elim
    | _ => exact staffed

/-- The worker holds a permit and is suspended in the token bucket, in a
provider call or in a backoff sleep. -/
def suspendedHolding : Loc → Bool
  | .tokenSleep _ _ => true
  | .calling _ suspended => suspended
  | .backoff _ _ => true
  | _ => false

/-- No worker is runnable. -/
def NoneRunnable (e : Engine) : Prop :=
  ∀ task w, e.workers.get? task = some w → w.loc.isDone = false →
    suspendedHolding w.loc = true ∨ Asleep e task

private theorem atAwait_of_noneRunnable {e : Engine} (still : NoneRunnable e) :
    e.atAwait = true := by
  rw [atAwait_iff]
  intro task w found
  cases ended : w.loc.isDone with
  | true =>
      rw [Loc.eq_done ended]
      rfl
  | false =>
      rcases still task w found ended with holding | ⟨⟨w', found', waits⟩, _⟩
      · cases at_ : w.loc with
        | calling f suspended =>
            rw [at_] at holding
            have isSuspended : suspended = true := holding
            rw [isSuspended]
            rfl
        | tokenSleep f seconds => rfl
        | backoff f seconds => rfl
        | _ =>
            rw [at_] at holding
            cases holding
      · rw [found, Option.some.injEq] at found'
        rw [found', Loc.eq_waiting waits]
        rfl

/-- With nobody asleep at the limiter every live worker holds a permit. -/
private theorem live_le_held {e : Engine} (still : NoneRunnable e)
    (nobody : ∀ task, ¬Asleep e task) : e.live ≤ e.count Loc.holdsPermit := by
  unfold live
  apply Dict.count_mono
  intro task w found alive
  rcases still task w found (by simpa using alive) with holding | asleep
  · cases at_ : w.loc with
    | calling f suspended => rfl
    | tokenSleep f seconds => rfl
    | backoff f seconds => rfl
    | _ =>
        rw [at_] at holding
        cases holding
  · exact (nobody task asleep).elim

/-- No prompt waits in the scheduler next to an unused worker slot and an unused
permit, in every run in which no throttle raises the limit and every admission
and every cancelled call leaves enough workers. -/
theorem work_conserving (p : Params) {events : List Event} {e : Engine}
    (run : (engineMachine p).Reaches
      (fun e label _ => BeforeShutdown label ∧ ThrottleLowers p e label ∧ Sufficient p e label)
      events e)
    (still : NoneRunnable e) (queued : 0 < e.scheduler.pending) :
    min p.settings.workerPoolSize e.limiter.limit ≤ e.limiter.inUse := by
  have quiet := atAwait_of_noneRunnable still
  have permits := reachable_permits run
  by_cases sleeper : ∃ task, Asleep e task
  · -- Somebody sleeps unnoticed: the limit is used up, or a notified worker is runnable.
    rcases sleeper with ⟨task, asleep⟩
    have covered := reachable_covered (fun _ _ _ admissible => admissible.1)
      (fun _ _ _ admissible => admissible.2.1) run (e.limiter.cond.asleep_pos asleep.2)
    have nobodyComing : e.count retrying = 0 :=
      count_of_atAwait quiet retrying running_of_retrying
    have nobodyNotified : e.limiter.cond.notified = 0 := by
      rcases Nat.eq_zero_or_pos e.limiter.cond.notified with none | some
      · exact none
      · rcases notified_waits permits some with ⟨other, w, found, waits, marked⟩
        rcases still other w found (by rw [waits]; rfl) with holding | unmarked
        · rw [waits] at holding
          cases holding
        · have flag := unmarked.2
          rw [marked] at flag
          cases flag
    rw [nobodyComing, nobodyNotified] at covered
    have below : e.limiter.limit ≤ e.limiter.inUse := by omega
    exact (min_le_right _ _).trans below
  · -- Nobody sleeps: all live workers hold permits, and there are enough of them.
    have nobody : ∀ task, ¬Asleep e task := fun task asleep => sleeper ⟨task, asleep⟩
    have held := live_le_held still nobody
    have staffed := reachable_staffed (fun _ _ _ admissible => admissible.1)
      (fun _ _ _ admissible => admissible.2.2) run
    have capped := reachable_capped (fun _ _ _ admissible => admissible.2.1) run
    have limit := capped.limit
    rcases counts_atAwait quiet with ⟨sameBusy, sameStaying⟩
    unfold Staffed at staffed
    rw [sameBusy, sameStaying] at staffed
    have used := permits.held
    omega

/-- A pool of two workers. -/
def twoWorkers : Params :=
  { settings := { workerPoolSize := 2 }
    fingerprint := fun _ _ => "" }

/-- A check of `Sufficient` for runs without replays and cancelled calls. -/
def checkSufficient (p : Params) (e : Engine) : Label → Bool
  | .submit prompts _ _ _ =>
      decide (min p.settings.workerPoolSize (min p.settings.globalMaxConcurrency
          (e.limiter.inUse + (e.scheduler.pending + prompts.length))) ≤
        max (e.live : Int) (min p.settings.workerPoolSize
          (max 1 (e.scheduler.pending + prompts.length))))
  | .replayFailed _ _ _ => false
  | .work _ (.reply .cancelled _) => false
  | _ => true

theorem sufficient_of_check {p : Params} {e : Engine} {label : Label}
    (checked : checkSufficient p e label = true) : Sufficient p e label := by
  constructor
  · intro prompts priority key newId requested _ _ _
    cases requested with
    | submit prompts priority key newId => exact of_decide_eq_true checked
    | replay jobId priority newId job found failures => cases checked
  · intro task jitter same
    rw [same] at checked
    cases checked

/-- Three prompts reach an idle engine: both workers are busy and one prompt waits. -/
theorem work_conserving_idle :
    ∃ events e, (engineMachine twoWorkers).Reaches
        (fun e label _ => BeforeShutdown label ∧ ThrottleLowers twoWorkers e label ∧
          Sufficient twoWorkers e label) events e ∧
      NoneRunnable e ∧ 0 < e.scheduler.pending ∧
      min twoWorkers.settings.workerPoolSize e.limiter.limit ≤ e.limiter.inUse := by
  rcases @Machine.exists_run_of_exec _ _ _ (engineMachine twoWorkers)
      (fun e label _ => BeforeShutdown label ∧ ThrottleLowers twoWorkers e label ∧
        Sufficient twoWorkers e label)
      (engineMachine twoWorkers).initial
      (fun e label _ => !isShutdown label && checkSufficient twoWorkers e label)
      (fun e label _ checked =>
        ⟨beforeShutdown_of_check (Bool.and_eq_true_iff.mp checked).1,
          throttleLowers_of_factor (by decide +kernel) (by decide +kernel) e label,
          sufficient_of_check (Bool.and_eq_true_iff.mp checked).2⟩)
      [.submit (List.replicate 3 { id := none, prompt := "hello" }) .normal none "a",
        .work 0 .start, .work 0 .enter, .work 0 .take, .work 0 .gate, .work 0 .suspend,
        .work 1 .start, .work 1 .enter, .work 1 .take, .work 1 .gate, .work 1 .suspend]
      (fun outcome => outcome.2.workers.values.all (fun w => suspendedHolding w.loc) &&
        decide (0 < outcome.2.scheduler.pending))
      (by decide +kernel) with
    ⟨events, e, run, tested⟩
  simp only [Bool.and_eq_true, List.all_eq_true, decide_eq_true_eq] at tested
  rcases tested with ⟨holding, queued⟩
  have still : NoneRunnable e :=
    fun task w found _ => Or.inl (holding w ((e.workers.mem_values_iff w).mpr ⟨task, found⟩))
  exact ⟨events, e, run, still, queued, work_conserving twoWorkers run still queued⟩

/-- One prompt keeps one of two workers busy; the next submission of one prompt
finds a live worker and creates none, so it waits next to an unused slot. -/
theorem slot_unused_by_second_submit :
    ∃ events e, (engineMachine twoWorkers).Reaches (Machine.onLabels BeforeShutdown) events e ∧
      NoneRunnable e ∧ 0 < e.scheduler.pending ∧
      ¬min twoWorkers.settings.workerPoolSize e.limiter.limit ≤ e.limiter.inUse := by
  rcases @Machine.exists_run_of_exec _ _ _ (engineMachine twoWorkers)
      (Machine.onLabels BeforeShutdown) (engineMachine twoWorkers).initial
      (fun _ label _ => !isShutdown label)
      (fun _ _ _ checked => beforeShutdown_of_check checked)
      [.submit [{ id := none, prompt := "hello" }] .normal none "a",
        .work 0 .start, .work 0 .enter, .work 0 .take, .work 0 .gate, .work 0 .suspend,
        .submit [{ id := none, prompt := "again" }] .normal none "b"]
      (fun outcome => outcome.2.workers.values.all (fun w => suspendedHolding w.loc) &&
        (decide (0 < outcome.2.scheduler.pending) &&
          (outcome.2.limiter.limit == 64 && outcome.2.limiter.inUse == 1)))
      (by decide +kernel) with
    ⟨events, e, run, tested⟩
  simp only [Bool.and_eq_true, List.all_eq_true, decide_eq_true_eq, beq_iff_eq] at tested
  rcases tested with ⟨holding, queued, limit, used⟩
  refine ⟨events, e, run, ?_, queued, ?_⟩
  · intro task w found _
    exact Or.inl (holding w ((e.workers.mem_values_iff w).mpr ⟨task, found⟩))
  · rw [limit, used]
    decide

end EngineConserving
end BatchInference
