/-
What a cancellation stops.

`cancel` empties the queue of its job, but of the items already taken only the entry of
`_process` looks at the state of the job, in the stretch that takes them. Whether a call
for the job can still be started is decided by where its items in flight are.
-/

import BatchInference.EngineItems
import BatchInference.TokenBucketRuns

set_option autoImplicit false

namespace BatchInference
namespace EngineCancel

open Engine EngineItems EngineRate TokenBucketRuns

variable {p : Params} {events emitted : List Event} {e e' : Engine} {label : Label}
  {jobId : JobId}

/-! ### Who may still call -/

/-- The worker may start another call for its item: it goes on to the bucket, it will wake
up before that, or a 429 to its present call would be retried. -/
def MayCall (s : Settings) (w : Worker) : Prop :=
  match w.loc with
  | .gating _ => True
  | .tokenSleep _ _ => w.cancelRequested = false
  | .backoff _ _ => w.cancelRequested = false
  | .calling f _ => Retries s f.attempt
  | _ => False

/-- Nobody who holds an item of the job may start another call for it. -/
def NoneMayCall (s : Settings) (jobId : JobId) (e : Engine) : Prop :=
  ∀ task w f, e.workers.get? task = some w → w.loc.flight = some f → f.jobId = jobId →
    ¬MayCall s w

/-- The bucket grants a token sooner or later. -/
def Grants (s : Settings) : Prop := s.providerMaxRps ≤ 0 ∨ 1 ≤ bucketCapacity s

theorem uncancelled_of_wake {task : TaskId} {action : Action} {w : Worker}
    (stepped : (engineMachine p).step e (.work task action) = some (e', emitted))
    (found : e.workers.get? task = some w)
    (wakes : action = .tokenWake ∨ action = .backoffWake) : w.cancelRequested = false := by
  change Engine.step p e (.work task action) = some (e', emitted) at stepped
  simp only [step, found] at stepped
  have resumed : e.mayResume w = true → w.cancelRequested = false := by
    intro may
    unfold mayResume at may
    simpa using (Bool.and_eq_true_iff.mp may).2
  rcases wakes with rfl | rfl
  · cases at_ : w.loc with
    | tokenSleep f seconds =>
        simp only [workStep, at_] at stepped
        split at stepped
        · rename_i may
          exact resumed may
        · cases stepped
    | _ => simp [workStep, at_] at stepped
  · cases at_ : w.loc with
    | backoff f seconds =>
        simp only [workStep, at_] at stepped
        split at stepped
        · rename_i may
          exact resumed may
        · cases stepped
    | _ => simp [workStep, at_] at stepped

/-- Who may call after a stretch of its code, could before, or took its item from the queue. -/
theorem mayCall_before {g : Engine} {task : TaskId} {w : Worker} {action : Action} {loc : Loc}
    {flag : Bool} (stored : e.Stored) (work : WorkStep p e task w action g loc emitted)
    (awake : action = .tokenWake ∨ action = .backoffWake → w.cancelRequested = false)
    {f' : InFlight} (holds : loc.flight = some f')
    (may : MayCall p.settings { loc := loc, cancelRequested := flag }) :
    (∃ f, w.loc.flight = some f ∧ f.jobId = f'.jobId ∧ MayCall p.settings w) ∨
      f'.item ∈ queued f'.jobId e := by
  cases work with
  | taken at_ scheduler jobId item job popped found alive =>
      right
      rw [Loc.flight, Option.some.injEq] at holds
      have queue := queued_pop (g := { e with
          scheduler := scheduler
          metrics := e.gaugePop scheduler }) stored popped jobId
      rw [if_pos rfl] at queue
      rw [← holds, ← queue]
      exact Multiset.mem_add.mpr (Or.inr (Multiset.mem_singleton_self _))
  | called f at_ bucket grant =>
      rw [Loc.flight, Option.some.injEq] at holds
      refine Or.inl ⟨f, by rw [at_]; rfl, by rw [holds], ?_⟩
      unfold MayCall
      rw [at_]
      trivial
  | throttled f at_ bucket seconds refused =>
      rw [Loc.flight, Option.some.injEq] at holds
      refine Or.inl ⟨f, by rw [at_]; rfl, by rw [holds], ?_⟩
      unfold MayCall
      rw [at_]
      trivial
  | tokenWoken f seconds at_ quiet =>
      rw [Loc.flight, Option.some.injEq] at holds
      refine Or.inl ⟨f, by rw [at_]; rfl, by rw [holds], ?_⟩
      unfold MayCall
      rw [at_]
      exact awake (Or.inl rfl)
  | suspended f at_ =>
      rw [Loc.flight, Option.some.injEq] at holds
      refine Or.inl ⟨f, by rw [at_]; rfl, by rw [holds], ?_⟩
      unfold MayCall
      rw [at_]
      exact may
  | retried f before at_ alone reply jitter seconds settled =>
      rw [Loc.flight, Option.some.injEq] at holds
      refine Or.inl ⟨f, by rw [at_]; rfl, by rw [holds], ?_⟩
      unfold MayCall
      rw [at_]
      exact (retry_of_settle settled).2
  | backoffEnded f seconds at_ quiet =>
      rw [Loc.flight, Option.some.injEq] at holds
      refine Or.inl ⟨f, by rw [at_]; rfl, by rw [← holds], ?_⟩
      unfold MayCall
      rw [at_]
      exact awake (Or.inr rfl)
  | left again at_ =>
      cases again with
      | true => cases holds
      | false => cases holds
  | _ => cases holds

/-! ### Silence -/

/-- Nothing of the job is queued, and who holds an item of it cannot call for it again. -/
structure Silenced (s : Settings) (jobId : JobId) (e : Engine) : Prop where
  known : ∃ job, e.store.get jobId = some job
  unqueued : queued jobId e = 0
  mute : NoneMayCall s jobId e

theorem Silenced.next (silenced : Silenced p.settings jobId e) (stored : e.Stored)
    (loop : e.EventLoop) (stepped : (engineMachine p).step e label = some (e', emitted)) :
    Silenced p.settings jobId e' ∧ ∀ seq time, Event.called jobId seq time ∉ emitted := by
  have step := step_cases stepped
  obtain ⟨job, found⟩ := silenced.known
  obtain ⟨job', found', _⟩ := step.job_stays found
  have unqueued : queued jobId e' = 0 := by
    have part := queued_shrinks stored step found
    rw [silenced.unqueued] at part
    exact Multiset.le_zero.mp part
  have kept : NoneMayCall p.settings jobId e' → Silenced p.settings jobId e' :=
    fun mute => ⟨⟨job', found'⟩, unqueued, mute⟩
  cases step with
  | submitted label prompts priority key newId requested quiet named fresh =>
      refine ⟨kept ?_, by simp⟩
      rcases submit_cases p prompts priority key newId e with ⟨⟨_, _, same⟩, _⟩ | admitted
      · rw [same]
        exact silenced.mute
      · rw [admitted.2.2.2.2]
        rcases register_spec p prompts priority key newId e loop.numbered with ⟨_, _, _, _, tasks⟩
        intro task w f read holds mine
        rcases (tasks task w).mp read with ⟨before, _⟩ | ⟨_, _, rfl⟩
        · exact silenced.mute task w f before holds mine
        · cases holds
  | worked task action w g flag loc emitted read lowered work =>
      constructor
      · apply kept
        intro other w' f' read' holds mine may
        rw [get?_moveTo] at read'
        by_cases own : other = task
        · rw [if_pos own, Option.some.injEq] at read'
          subst read'
          rcases mayCall_before stored work (uncancelled_of_wake stepped read) holds may with
            ⟨f, before, sameJob, could⟩ | waiting
          · exact silenced.mute task w f read before (sameJob.trans mine) could
          · rw [mine, silenced.unqueued] at waiting
            exact Multiset.notMem_zero _ waiting
        · rw [if_neg own, work.workers.1] at read'
          exact silenced.mute other w' f' read' holds mine may
      · intro seq time called
        cases work with
        | called f at_ bucket grant =>
            rw [List.mem_singleton] at called
            injection called with sameJob
            apply silenced.mute task w f read (by rw [at_]; rfl) sameJob.symm
            unfold MayCall
            rw [at_]
            trivial
        | _ => simp at called
  | graceExpired quiet phase =>
      refine ⟨kept ?_, by simp⟩
      intro task w f read holds mine may
      unfold requestCancels at read
      simp only [Dict.get?_mapValues, Option.map_eq_some_iff] at read
      obtain ⟨old, before, rfl⟩ := read
      apply silenced.mute task old f before holds mine
      unfold MayCall at may ⊢
      cases at_ : old.loc with
      | tokenSleep f seconds =>
          rw [at_] at may
          cases may
      | backoff f seconds =>
          rw [at_] at may
          cases may
      | _ =>
          rw [at_] at may
          exact may
  | shutdownReturned ended phase =>
      refine ⟨kept ?_, by simp⟩
      unfold NoneMayCall
      rw [(interruptJobs_frame e).2.2.1]
      exact silenced.mute
  | _ => exact ⟨kept silenced.mute, by simp⟩

/-! ### The bucket -/

/-- The bucket of the settings, never fuller than it can be. -/
structure Bucketed (s : Settings) (e : Engine) : Prop where
  rate : e.rateLimiter.rate = s.providerMaxRps
  capacity : e.rateLimiter.capacity = bucketCapacity s
  full : e.rateLimiter.tokens ≤ e.rateLimiter.capacity

theorem acquireOnce_keeps (b : TokenBucket) (now : ℚ) (full : b.tokens ≤ b.capacity) :
    (b.acquireOnce 1 now).1.rate = b.rate ∧ (b.acquireOnce 1 now).1.capacity = b.capacity ∧
      (b.acquireOnce 1 now).1.tokens ≤ b.capacity := by
  have filled := refill_le_capacity full now
  unfold TokenBucket.acquireOnce
  split
  · exact ⟨rfl, rfl, full⟩
  · dsimp only
    split
    · refine ⟨refill_rate b now, refill_capacity b now, ?_⟩
      change (b.refill now).tokens - 1 ≤ b.capacity
      linarith
    · exact ⟨refill_rate b now, refill_capacity b now, filled⟩

theorem Bucketed.next (bucketed : Bucketed p.settings e) (step : Step p e label e' emitted) :
    Bucketed p.settings e' := by
  rcases bucket_step step with ⟨same, _, _⟩ | ⟨next, _, _⟩
  · exact
      { rate := by rw [same, bucketed.rate]
        capacity := by rw [same, bucketed.capacity]
        full := by
          rw [same]
          exact bucketed.full }
  · rcases acquireOnce_keeps e.rateLimiter e.loopTime bucketed.full with ⟨rate, capacity, full⟩
    exact
      { rate := by rw [next, rate, bucketed.rate]
        capacity := by rw [next, capacity, bucketed.capacity]
        full := by
          rw [next, capacity]
          exact full }

theorem reachable_bucketed {ok : Engine → Label → Engine → Prop}
    (run : (engineMachine p).Reaches ok events e) : Bucketed p.settings e := by
  refine Machine.Run.invariant run (fun _ e => Bucketed p.settings e) ⟨rfl, rfl, le_refl _⟩ ?_
  intro _ _ _ _ _ bucketed _ stepped
  exact bucketed.next (step_cases stepped)

theorem uncalled_of_starved (bucketed : Bucketed p.settings e) (starved : ¬Grants p.settings)
    (step : Step p e label e' emitted) (seq : Nat) (time : ℚ) :
    Event.called jobId seq time ∉ emitted := by
  intro called
  have timed : time ∈ callTimes emitted :=
    List.mem_filterMap.mpr ⟨_, called, rfl⟩
  unfold Grants at starved
  rw [not_or, not_le, not_le, ← bucketed.rate, ← bucketed.capacity] at starved
  have refused := acquireOnce_starves starved.1 bucketed.full starved.2 e.loopTime
  rcases bucket_step step with ⟨_, _, none⟩ | ⟨_, _, calls⟩
  · rw [none] at timed
    cases timed
  · rw [calls, if_neg] at timed
    · cases timed
    · rwa [Option.isNone_iff_eq_none]

/-! ### A call that is still started -/

/-- Some continuation starts a call for the job. -/
def CallFollows (p : Params) (jobId : JobId) (e : Engine) : Prop :=
  ∃ later e' seq time, (engineMachine p).Run Machine.anyStep e later e' ∧
    Event.called jobId seq time ∈ later

theorem CallFollows.before {label : Label} (follows : CallFollows p jobId e')
    (stepped : (engineMachine p).step e label = some (e', emitted)) : CallFollows p jobId e := by
  obtain ⟨later, last, seq, time, run, called⟩ := follows
  have first : (engineMachine p).Run Machine.anyStep e ([] ++ emitted) e' :=
    .tail .refl trivial stepped
  exact ⟨_, last, seq, time, first.trans run, List.mem_append.mpr (Or.inr called)⟩

/-- The worker moves within its item and the others stay, so the engine is at rest again. -/
theorem atAwait_moveTo {g : Engine} {task : TaskId} {w : Worker} {loc : Loc}
    (quiet : ∀ other w', other ≠ task → g.workers.get? other = some w' → w'.loc.running = false)
    (suspended : loc.running = false) : (g.moveTo task w loc).atAwait = true := by
  rw [atAwait_iff]
  intro other w' read
  rw [get?_moveTo] at read
  by_cases own : other = task
  · rw [if_pos own, Option.some.injEq] at read
    rw [← read]
    exact suspended
  · rw [if_neg own] at read
    exact quiet other w' own read

theorem callFollows_granted {task : TaskId} {w : Worker} {f : InFlight}
    (found : e.workers.get? task = some w) (at_ : w.loc = .gating f)
    (granted : (e.rateLimiter.acquireOnce 1 e.loopTime).2 = none) :
    CallFollows p f.jobId e := by
  have stepped : (engineMachine p).step e (.work task .gate) =
      some (moveTo task w (.calling f false)
        { e with rateLimiter := (e.rateLimiter.acquireOnce 1 e.loopTime).1 },
          [.called f.jobId f.item.seq e.loopTime]) := by
    change Engine.step p e (.work task .gate) = _
    simp only [step, found, workStep, at_]
    generalize e.rateLimiter.acquireOnce 1 e.loopTime = answer at granted
    obtain ⟨bucket, refused⟩ := answer
    subst granted
    rfl
  refine ⟨_, _, f.item.seq, e.loopTime, .tail .refl trivial stepped, ?_⟩
  rw [List.nil_append]
  exact List.mem_singleton_self _

/-- At rest, a worker that sleeps for a token wakes up and goes on to the bucket. -/
theorem step_tokenWake (p : Params) {task : TaskId} {w : Worker} {f : InFlight} {seconds : ℚ}
    (quiet : e.atAwait = true) (found : e.workers.get? task = some w)
    (at_ : w.loc = .tokenSleep f seconds) (awake : w.cancelRequested = false) :
    (engineMachine p).step e (.work task .tokenWake) =
      some (e.moveTo task w (.gating f), []) := by
  change Engine.step p e (.work task .tokenWake) = _
  simp only [step, found, workStep, at_, mayResume, quiet, awake, Bool.not_false, Bool.and_self,
    if_true]

theorem step_backoffWake (p : Params) {task : TaskId} {w : Worker} {f : InFlight} {seconds : ℚ}
    (quiet : e.atAwait = true) (found : e.workers.get? task = some w)
    (at_ : w.loc = .backoff f seconds) (awake : w.cancelRequested = false) :
    (engineMachine p).step e (.work task .backoffWake) =
      some (e.moveTo task w (.gating { f with attempt := f.attempt + 1 }), []) := by
  change Engine.step p e (.work task .backoffWake) = _
  simp only [step, found, workStep, at_, mayResume, quiet, awake, Bool.not_false, Bool.and_self,
    if_true]

/-- At the bucket, a call follows, at the latest after one sleep. -/
theorem callFollows_gating (bucketed : Bucketed p.settings e) (grants : Grants p.settings)
    {task : TaskId} {w : Worker} {f : InFlight} (found : e.workers.get? task = some w)
    (at_ : w.loc = .gating f) (awake : w.cancelRequested = false)
    (quiet : ∀ other w', other ≠ task → e.workers.get? other = some w' → w'.loc.running = false) :
    CallFollows p f.jobId e := by
  cases refused : (e.rateLimiter.acquireOnce 1 e.loopTime).2 with
  | none => exact callFollows_granted found at_ refused
  | some wait =>
      have rate : 0 < e.rateLimiter.rate := by
        by_contra free
        rw [not_lt] at free
        unfold TokenBucket.acquireOnce at refused
        rw [if_pos free] at refused
        cases refused
      have large : 1 ≤ e.rateLimiter.capacity := by
        rw [bucketed.capacity]
        refine grants.resolve_left ?_
        rw [not_le, ← bucketed.rate]
        exact rate
      let bucket := (e.rateLimiter.acquireOnce 1 e.loopTime).1
      let later := e.loopTime + max wait 0
      let asleep := moveTo task w (.tokenSleep f wait) { e with rateLimiter := bucket }
      let rested : Engine := { asleep with loopTime := later }
      have slept : (engineMachine p).step e (.work task .gate) = some (asleep, []) := by
        change Engine.step p e (.work task .gate) = _
        simp only [step, found, workStep, at_]
        change _ = some (moveTo task w (.tokenSleep f wait) { e with
          rateLimiter := (e.rateLimiter.acquireOnce 1 e.loopTime).1 }, [])
        generalize e.rateLimiter.acquireOnce 1 e.loopTime = answer at refused
        obtain ⟨bucket, refusal⟩ := answer
        subst refused
        rfl
      have ticked : (engineMachine p).step asleep (.tick later e.wallTime) =
          some (rested, []) := by
        change Engine.step p asleep (.tick later e.wallTime) = _
        have forward : asleep.loopTime ≤ later := le_add_of_nonneg_right (le_max_right _ _)
        simp only [step, if_pos forward]
        rfl
      have there : rested.workers.get? task =
          some { w with loc := .tokenSleep f wait } := by
        change (e.workers.set task { w with loc := .tokenSleep f wait }).get? task = _
        exact Dict.get?_set_same _ _ _
      have still : asleep.atAwait = true := atAwait_moveTo quiet rfl
      have atRest : rested.atAwait = true := still
      have woken := step_tokenWake p atRest there rfl awake
      have back := get?_moveTo rested task task
        { w with loc := .tokenSleep f wait } (.gating f)
      rw [if_pos rfl] at back
      refine CallFollows.before (CallFollows.before (CallFollows.before ?_ woken) ticked) slept
      refine callFollows_granted back rfl (granted_after_wait rate large refused ?_)
      exact add_le_add (le_refl _) (le_max_left _ _)

theorem callFollows_woken (bucketed : Bucketed p.settings e) (grants : Grants p.settings)
    (quiet : e.atAwait = true) {task : TaskId} {w : Worker} {f : InFlight} {action : Action}
    (awake : w.cancelRequested = false)
    (woken : (engineMachine p).step e (.work task action) =
      some (e.moveTo task w (.gating f), [])) : CallFollows p f.jobId e := by
  refine CallFollows.before ?_ woken
  have there := get?_moveTo e task task w (.gating f)
  rw [if_pos rfl] at there
  refine callFollows_gating (bucketed.next (step_cases woken)) grants there rfl awake ?_
  intro other w' different read
  rw [get?_moveTo, if_neg different] at read
  exact e.atAwait_iff.mp quiet other w' read

/-- At rest, whoever may call for an item calls for it in some continuation. -/
theorem callFollows_of_mayCall (bucketed : Bucketed p.settings e) (grants : Grants p.settings)
    (quiet : e.atAwait = true) {task : TaskId} {w : Worker} {f : InFlight}
    (found : e.workers.get? task = some w) (holds : w.loc.flight = some f)
    (may : MayCall p.settings w) : CallFollows p f.jobId e := by
  have idle := e.atAwait_iff.mp quiet task w found
  unfold MayCall at may
  cases at_ : w.loc with
  | gating g =>
      rw [at_] at idle
      cases idle
  | tokenSleep g seconds =>
      rw [at_] at may holds
      obtain rfl : g = f := Option.some.inj holds
      exact callFollows_woken bucketed grants quiet may (step_tokenWake p quiet found at_ may)
  | backoff g seconds =>
      rw [at_] at may holds
      obtain rfl : g = f := Option.some.inj holds
      have woken := step_backoffWake p quiet found at_ may
      have follows := callFollows_woken bucketed grants quiet may woken
      exact follows
  | calling g suspended =>
      rw [at_] at may holds
      obtain rfl : g = f := Option.some.inj holds
      have ways := settles p.settings g.item g.attempt 0 (.rateLimited 0)
      obtain ⟨seconds, settled⟩ : ∃ seconds,
          settle p.settings g.item g.attempt 0 (.rateLimited 0) = .retry seconds := by
        generalize settle p.settings g.item g.attempt 0 (.rateLimited 0) = settlement at ways
        cases ways with
        | retried retryAfter seconds left => exact ⟨seconds, rfl⟩
        | exhausted retryAfter spent => exact absurd may.1 (not_le.mpr spent)
        | failed reply error credited unanswered printable uncancelled overflow =>
            exact absurd may.2 (not_le.mpr (overflow 0 rfl).2)
        | succeeded reply result answers id prompt success attempts price => exact answers.elim
        | lost reply credited unprintable => exact unprintable.elim
      let retried := (e.onRetry g.jobId).moveTo task
        { w with cancelRequested := false } (.backoff g seconds)
      have answered : (engineMachine p).step e (.work task (.reply (.rateLimited 0) 0)) =
          some (retried, [.replied g.jobId g.item.seq (.rateLimited 0)]) := by
        change Engine.step p e (.work task (.reply (.rateLimited 0) 0)) = _
        simp only [step, found, workStep, at_, quiet, Bool.or_true, if_true, replyStep, settled]
        rfl
      refine CallFollows.before ?_ answered
      have there := get?_moveTo (e.onRetry g.jobId) task task
        { w with cancelRequested := false } (.backoff g seconds)
      rw [if_pos rfl] at there
      have still : retried.atAwait = true := by
        refine atAwait_moveTo ?_ rfl
        intro other w' _ read
        exact e.atAwait_iff.mp quiet other w' read
      have woken := step_backoffWake p still there rfl rfl
      have follows := callFollows_woken (bucketed.next (step_cases answered)) grants still rfl woken
      exact follows
  | _ =>
      rw [at_] at may
      cases may

/-! ### The cancellation -/

/-- What a cancellation that returns `True` has done. -/
theorem cancelled_eq (stepped : (engineMachine p).step e (.cancel jobId) = some (e', emitted))
    (cancelled : (e.cancel jobId).2 = some true) :
    e.atAwait = true ∧ (∃ job, e.store.get jobId = some job) ∧ e' = e.cancelOpen jobId := by
  change Engine.step p e (.cancel jobId) = some (e', emitted) at stepped
  simp only [step] at stepped
  split at stepped
  · rename_i quiet
    unfold cancel at stepped cancelled
    cases found : e.store.get jobId with
    | none =>
        simp only [found] at cancelled
        cases cancelled
    | some job =>
        by_cases unfinished : isOpen job.state
        · simp only [found, unfinished, if_true] at stepped
          cases stepped
          exact ⟨quiet, ⟨job, rfl⟩, rfl⟩
        · simp only [found, unfinished] at cancelled
          cases cancelled
  · cases stepped

theorem uncalled_of_silenced {later : List Event} (silenced : Silenced p.settings jobId e)
    (stored : e.Stored) (loop : e.EventLoop)
    (run : (engineMachine p).Run Machine.anyStep e later e') (seq : Nat) (time : ℚ) :
    Event.called jobId seq time ∉ later := by
  have whole : (Silenced p.settings jobId e' ∧ e'.Stored ∧ e'.EventLoop) ∧
      Event.called jobId seq time ∉ later := by
    refine run.invariant (fun later e' => (Silenced p.settings jobId e' ∧ e'.Stored ∧
      e'.EventLoop) ∧ Event.called jobId seq time ∉ later)
      ⟨⟨silenced, stored, loop⟩, List.not_mem_nil⟩ ?_
    rintro _ _ _ _ _ ⟨⟨silenced, stored, loop⟩, silent⟩ _ stepped
    obtain ⟨next, quiet⟩ := silenced.next stored loop stepped
    have step := step_cases stepped
    refine ⟨⟨next, step.stored stored, step.eventLoop loop⟩, ?_⟩
    rw [List.mem_append, not_or]
    exact ⟨silent, quiet seq time⟩
  exact whole.2

theorem uncalled_of_starving {later : List Event} (bucketed : Bucketed p.settings e)
    (starved : ¬Grants p.settings) (run : (engineMachine p).Run Machine.anyStep e later e')
    (seq : Nat) (time : ℚ) : Event.called jobId seq time ∉ later := by
  have whole : Bucketed p.settings e' ∧ Event.called jobId seq time ∉ later := by
    refine run.invariant (fun later e' => Bucketed p.settings e' ∧
      Event.called jobId seq time ∉ later) ⟨bucketed, List.not_mem_nil⟩ ?_
    rintro _ _ _ _ _ ⟨bucketed, silent⟩ _ stepped
    have step := step_cases stepped
    refine ⟨bucketed.next step, ?_⟩
    rw [List.mem_append, not_or]
    exact ⟨silent, uncalled_of_starved bucketed starved step seq time⟩
  exact whole.2

theorem callFollows_cancelled (run : (engineMachine p).Reaches Machine.anyStep events e)
    (stepped : (engineMachine p).step e (.cancel jobId) = some (e', emitted))
    (cancelled : (e.cancel jobId).2 = some true) (grants : Grants p.settings) {task : TaskId}
    {w : Worker} {f : InFlight} (found : e.workers.get? task = some w)
    (holds : w.loc.flight = some f) (mine : f.jobId = jobId) (may : MayCall p.settings w) :
    CallFollows p jobId e' := by
  have bucketed := (reachable_bucketed run).next (step_cases stepped)
  obtain ⟨quiet, _, same⟩ := cancelled_eq stepped cancelled
  have workers : e'.workers = e.workers := by
    rw [same]
    exact (cancelOpen_frame jobId e).2.2.2.2.2.1
  have still : e'.atAwait = true := by
    unfold atAwait
    rw [workers]
    exact quiet
  rw [← workers] at found
  rw [← mine]
  exact callFollows_of_mayCall bucketed grants still found holds may

/-- After a cancellation no continuation starts a call for the job, exactly if nobody who
holds an item of the job at that moment may start another one, or the bucket never grants. -/
theorem cancel_stops_calls_iff (p : Params) {events : List Event} {e : Engine}
    (run : (engineMachine p).Reaches Machine.anyStep events e) (jobId : JobId)
    {e' : Engine} {emitted : List Event}
    (stepped : (engineMachine p).step e (.cancel jobId) = some (e', emitted))
    (cancelled : (e.cancel jobId).2 = some true) :
    (∀ later e'', (engineMachine p).Run Machine.anyStep e' later e'' →
        ∀ seq time, Event.called jobId seq time ∉ later) ↔
      (Grants p.settings → NoneMayCall p.settings jobId e) := by
  have step := step_cases stepped
  constructor
  · intro silent grants task w f present holds mine may
    obtain ⟨later, e'', seq, time, after, called⟩ :=
      callFollows_cancelled run stepped cancelled grants present holds mine may
    exact silent later e'' after seq time called
  · intro none later e'' after seq time
    by_cases grants : Grants p.settings
    · obtain ⟨_, ⟨job, found⟩, same⟩ := cancelled_eq stepped cancelled
      obtain ⟨job', found', _⟩ := step.job_stays found
      refine uncalled_of_silenced ⟨⟨job', found'⟩, ?_, ?_⟩ (step.stored (reachable_stored run))
        (step.eventLoop (reachable_eventLoop run)) after seq time
      · unfold queued
        rw [same, (cancelOpen_frame jobId e).2.1, FairScheduler.itemsOf_removeJob, if_pos rfl]
        rfl
      · unfold NoneMayCall
        rw [same, (cancelOpen_frame jobId e).2.2.2.2.2.1]
        exact none grants
    · exact uncalled_of_starving ((reachable_bucketed run).next step) grants after seq time

/-- The test of the condition on one worker. -/
def cannotCall (s : Settings) (w : Worker) : Bool :=
  match w.loc with
  | .gating _ => false
  | .tokenSleep _ _ => w.cancelRequested
  | .backoff _ _ => w.cancelRequested
  | .calling f _ => decide (s.maxRetries < f.attempt)
  | _ => true

theorem noneMayCall_of_check {s : Settings} (checked : e.workers.values.all (cannotCall s) = true) :
    NoneMayCall s jobId e := by
  intro task w f found _ _ may
  have cannot := List.all_eq_true.mp checked w ((e.workers.mem_values_iff w).mpr ⟨task, found⟩)
  unfold cannotCall at cannot
  unfold MayCall at may
  cases at_ : w.loc with
  | calling g suspended =>
      rw [at_] at cannot may
      exact absurd may.1 (not_le.mpr (of_decide_eq_true cannot))
  | tokenSleep g seconds =>
      rw [at_] at cannot may
      rw [may] at cannot
      cases cannot
  | backoff g seconds =>
      rw [at_] at cannot may
      rw [may] at cannot
      cases cannot
  | gating g =>
      rw [at_] at cannot
      cases cannot
  | _ =>
      rw [at_] at may
      cases may

theorem step_cancel (p : Params) (quiet : e.atAwait = true)
    (cancelled : (e.cancel jobId).2 = some true) :
    ∃ e' emitted, (engineMachine p).step e (.cancel jobId) = some (e', emitted) := by
  refine ⟨(e.cancel jobId).1, [.cancelled jobId (e.scheduler.itemsOf jobId)], ?_⟩
  change Engine.step p e (.cancel jobId) = _
  simp only [step, if_pos quiet]
  generalize e.cancel jobId = outcome at cancelled
  obtain ⟨next, answer⟩ := outcome
  subst cancelled
  rfl

/-- One worker, and no 429 is retried. -/
def unretrying : Params :=
  { settings := { workerPoolSize := 1, maxRetries := 0 }
    fingerprint := fun _ _ => "" }

/-- Of two prompts the first is in its only call; the job is cancelled. -/
theorem cancel_stops_calls_iff_last_call :
    ∃ events e e' emitted, (engineMachine unretrying).Reaches Machine.anyStep events e ∧
      (engineMachine unretrying).step e (.cancel "a") = some (e', emitted) ∧
      e.count Loc.inCall = 1 ∧
      ∀ later e'', (engineMachine unretrying).Run Machine.anyStep e' later e'' →
        ∀ seq time, Event.called "a" seq time ∉ later := by
  rcases Machine.exists_anyRun_of_exec (engineMachine unretrying)
      (engineMachine unretrying).initial
      [.submit [{ id := none, prompt := "x" }, { id := none, prompt := "y" }] .normal none "a",
        .work 0 .start, .work 0 .enter, .work 0 .take, .work 0 .gate, .work 0 .suspend]
      (fun outcome => outcome.2.atAwait && (outcome.2.cancel "a").2 == some true &&
        outcome.2.count Loc.inCall == 1 &&
        outcome.2.workers.values.all (cannotCall unretrying.settings)) (by decide +kernel) with
    ⟨events, e, run, tested⟩
  simp only [Bool.and_eq_true, beq_iff_eq] at tested
  obtain ⟨⟨⟨quiet, cancelled⟩, calling⟩, checked⟩ := tested
  obtain ⟨e', emitted, stepped⟩ := step_cancel unretrying quiet cancelled
  exact ⟨events, e, e', emitted, run, stepped, calling,
    (cancel_stops_calls_iff unretrying run "a" stepped cancelled).mpr
      (fun _ => noneMayCall_of_check checked)⟩

/-- The worker of task 0 sleeps between two attempts. -/
def backsOff (jobId : JobId) (e : Engine) : Bool :=
  match e.workers.get? 0 with
  | some { loc := .backoff f _, cancelRequested := false } => f.jobId == jobId
  | _ => false

theorem backsOff_spec (backs : backsOff jobId e = true) :
    ∃ w f, e.workers.get? 0 = some w ∧ w.loc.flight = some f ∧ f.jobId = jobId ∧
      ∀ s, MayCall s w := by
  unfold backsOff at backs
  split at backs
  · rename_i f seconds found
    exact ⟨_, f, found, rfl, beq_iff_eq.mp backs, fun _ => rfl⟩
  · cases backs

/-- With the shipped settings, a prompt that was answered 429 is called for again although
its job was cancelled in between. -/
theorem call_after_cancel :
    ∃ events e e' emitted later e'' seq time,
      (engineMachine singleWorker).Reaches Machine.anyStep events e ∧
      (engineMachine singleWorker).step e (.cancel "a") = some (e', emitted) ∧
      (e.cancel "a").2 = some true ∧
      (engineMachine singleWorker).Run Machine.anyStep e' later e'' ∧
      Event.called "a" seq time ∈ later := by
  rcases Machine.exists_anyRun_of_exec (engineMachine singleWorker)
      (engineMachine singleWorker).initial
      [.submit [{ id := none, prompt := "x" }] .normal none "a", .work 0 .start, .work 0 .enter,
        .work 0 .take, .work 0 .gate, .work 0 (.reply (.rateLimited 0) 0)]
      (fun outcome => outcome.2.atAwait && (outcome.2.cancel "a").2 == some true &&
        backsOff "a" outcome.2) (by decide +kernel) with
    ⟨events, e, run, tested⟩
  simp only [Bool.and_eq_true, beq_iff_eq] at tested
  obtain ⟨⟨quiet, cancelled⟩, sleeping⟩ := tested
  obtain ⟨e', emitted, stepped⟩ := step_cancel singleWorker quiet cancelled
  obtain ⟨w, f, found, holds, mine, may⟩ := backsOff_spec sleeping
  have grants : Grants singleWorker.settings := Or.inl (by decide +kernel)
  obtain ⟨later, e'', seq, time, after, called⟩ :=
    callFollows_cancelled run stepped cancelled grants found holds mine (may _)
  exact ⟨events, e, e', emitted, later, e'', seq, time, run, stepped, cancelled, after, called⟩

end EngineCancel
end BatchInference
