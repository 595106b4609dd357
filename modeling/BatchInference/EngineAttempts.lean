/-
Attempts and calls.

Every call of the provider for an item is answered or still going on, so a result
has as many calls behind it as replies. A success carries the number of its attempt;
the failure path of `_process` leaves `attempts` at its default of 0. Retries are
counted by the callback, whether or not the item ends with a result.
-/

import BatchInference.EngineOrigins
import Mathlib.Algebra.Order.BigOperators.Group.List

set_option autoImplicit false

namespace BatchInference
namespace EngineAttempts

open Engine EngineItems EngineOutcomes EngineOrigins

variable {p : Params} {events emitted : List Event} {e e' : Engine} {label : Label}
  {jobId : JobId}

/-! ### Calls and replies -/

def isCallFor (jobId : JobId) (seq : Nat) : Event → Bool
  | .called called number _ => decide (called = jobId ∧ number = seq)
  | _ => false

/-- The calls of the provider for one item of a job. -/
def callsOf (jobId : JobId) (seq : Nat) (events : List Event) : Nat :=
  events.countP (isCallFor jobId seq)

/-- The worker is in a call for the item. -/
def inCallFor (jobId : JobId) (seq : Nat) : Loc → Bool
  | .calling f _ => decide (f.jobId = jobId ∧ f.item.seq = seq)
  | _ => false

/-- Every call is answered or still going on. -/
def CallsAnswered (events : List Event) (e : Engine) : Prop :=
  ∀ jobId seq, callsOf jobId seq events =
    (repliesOf jobId seq events).length + e.count (inCallFor jobId seq)

private theorem callsAnswered_work {g : Engine} {task : TaskId} {w : Worker} {action : Action}
    {loc : Loc} (work : WorkStep p e task w action g loc emitted) (jobId : JobId) (seq : Nat) :
    callsOf jobId seq emitted + (if inCallFor jobId seq w.loc then 1 else 0) =
      (repliesOf jobId seq emitted).length + (if inCallFor jobId seq loc then 1 else 0) := by
  have answered : ∀ {f : InFlight} {before : Bool} {target : Loc} (reply : Reply),
      w.loc = .calling f before → inCallFor jobId seq target = false →
        callsOf jobId seq [.replied f.jobId f.item.seq reply] +
            (if inCallFor jobId seq w.loc then 1 else 0) =
          (repliesOf jobId seq [.replied f.jobId f.item.seq reply]).length +
            (if inCallFor jobId seq target then 1 else 0) := by
    intro f before target reply at_ away
    rw [at_, away]
    by_cases same : f.jobId = jobId ∧ f.item.seq = seq
    · simp [callsOf, isCallFor, repliesOf, replyTo, inCallFor, same]
    · simp [callsOf, isCallFor, repliesOf, replyTo, inCallFor, same]
  cases work with
  | called f at_ bucket grant =>
      have unheard : repliesOf jobId seq [.called f.jobId f.item.seq e.loopTime] = [] := rfl
      rw [at_, unheard]
      by_cases same : f.jobId = jobId ∧ f.item.seq = seq
      · simp [callsOf, isCallFor, inCallFor, same]
      · simp [callsOf, isCallFor, inCallFor, same]
  | suspended f at_ =>
      rw [at_]
      rfl
  | retried f before at_ alone reply jitter seconds settled => exact answered reply at_ rfl
  | recorded f before at_ alone reply jitter result cost credited exhausted settled =>
      exact answered reply at_ rfl
  | lost f before at_ alone reply jitter credited settled => exact answered reply at_ rfl
  | callCancelled f before at_ alone reply jitter settled => exact answered reply at_ rfl
  | left again at_ =>
      rw [at_]
      cases again with
      | true => rfl
      | false => rfl
  | sleepCancelled f seconds at_ requested quiet =>
      rcases at_ with at_ | at_
      · rw [at_]
        rfl
      · rw [at_]
        rfl
  | _ => simp [*, callsOf, repliesOf, inCallFor]

theorem callsAnswered_next (answered : CallsAnswered events e) (loop : e.EventLoop)
    (step : Step p e label e' emitted) : CallsAnswered (events ++ emitted) e' := by
  intro jobId seq
  have before := answered jobId seq
  have calls : callsOf jobId seq (events ++ emitted) =
      callsOf jobId seq events + callsOf jobId seq emitted := List.countP_append
  rw [calls, repliesOf_append, List.length_append]
  have quiet : callsOf jobId seq emitted = 0 → repliesOf jobId seq emitted = [] →
      e'.count (inCallFor jobId seq) = e.count (inCallFor jobId seq) →
        callsOf jobId seq events + callsOf jobId seq emitted =
          (repliesOf jobId seq events).length + (repliesOf jobId seq emitted).length +
            e'.count (inCallFor jobId seq) := by
    intro noCall noReply same
    rw [noCall, noReply, same]
    exact before
  cases step with
  | submitted label prompts priority key newId requested quiet' named fresh =>
      refine quiet rfl rfl ?_
      rcases submit_cases p prompts priority key newId e with ⟨⟨_, _, same⟩, _⟩ | admitted
      · rw [same]
        rfl
      · rw [admitted.2.2.2.2]
        exact total_register (fun loc => if inCallFor jobId seq loc then 1 else 0) rfl rfl p
          prompts priority key newId e loop.numbered
  | cancelled cancelledId job quiet' found unfinished => exact quiet rfl rfl rfl
  | worked task action w g flag loc emitted found lowered work =>
      have here := callsAnswered_work work jobId seq
      have moved := count_moveTo (inCallFor jobId seq) task flag loc work.workers.1 found
      omega
  | graceExpired quiet' phase =>
      refine quiet rfl rfl ?_
      unfold requestCancels count
      rw [Dict.count_mapValues]
  | shutdownReturned ended phase =>
      refine quiet rfl rfl ?_
      unfold count
      rw [(interruptJobs_frame e).2.2.1]
  | _ => exact quiet rfl rfl rfl

theorem reachable_callsAnswered {ok : Engine → Label → Engine → Prop}
    (run : (engineMachine p).Reaches ok events e) : CallsAnswered events e := by
  refine run_invariant run CallsAnswered ?_ ?_
  · intro _ _
    rfl
  · intro _ _ _ _ _ answered loop _ step
    exact callsAnswered_next answered loop step

/-! ### Attempts of a result -/

theorem calls_of_recorded (answered : CallsAnswered events e) (ledger : Ledger False events e)
    {job : Job} (found : e.store.get jobId = some job) {seq : Nat} {result : InferenceResult}
    (read : job.results.get? seq = some result) :
    callsOf jobId seq events = (repliesOf jobId seq events).length := by
  have nobody : e.count (inCallFor jobId seq) = 0 := by
    apply Dict.count_eq_zero
    intro task w present
    cases at_ : w.loc with
    | calling f suspended =>
        by_contra calling
        rw [Bool.not_eq_false, inCallFor, decide_eq_true_eq] at calling
        obtain ⟨rfl, rfl⟩ := calling
        have absent := unrecorded_of_asking ledger present (by rw [at_]; rfl) found
        rw [absent] at read
        cases read
    | _ => rfl
  rw [answered jobId seq, nobody, add_zero]

/-- The attempts of a result are the calls for its item exactly if it is a success. -/
theorem attempts_of_result {ok : Engine → Label → Engine → Prop}
    (run : (engineMachine p).Reaches ok events e) {job : Job}
    (found : e.store.get jobId = some job) {seq : Nat} {result : InferenceResult}
    (read : job.results.get? seq = some result) :
    result.attempts = callsOf jobId seq events ↔ result.success = true := by
  rw [calls_of_recorded (reachable_callsAnswered run) (reachable_followed run).1 found read]
  obtain ⟨earlier, reply, jitter, cost, credited, exhausted, replies, settled⟩ :=
    reachable_originated run jobId job found seq result read
  rw [replies, List.length_append, List.length_singleton]
  generalize ({ seq := seq, id := result.id, prompt := result.prompt } : WorkItem) = item
    at settled
  have ways := settles p.settings item (earlier.length + 1) jitter reply
  rw [settled] at ways
  cases ways with
  | succeeded reply result answers id prompt success attempts price =>
      exact ⟨fun _ => success, fun _ => attempts⟩
  | failed reply error credited unanswered printable uncancelled overflow =>
      exact ⟨fun impossible => (by cases impossible), fun impossible => (by cases impossible)⟩
  | exhausted retryAfter spent =>
      exact ⟨fun impossible => (by cases impossible), fun impossible => (by cases impossible)⟩

/-- Every result carries the number of calls made for its item. -/
def AttemptsMatch (events : List Event) (e : Engine) : Prop :=
  ∀ jobId job, e.store.get jobId = some job →
    ∀ seq result, job.results.get? seq = some result → result.attempts = callsOf jobId seq events

def NoneFailed (e : Engine) : Prop :=
  ∀ jobId job, e.store.get jobId = some job →
    ∀ seq result, job.results.get? seq = some result → result.success = true

theorem attemptsMatch_iff {ok : Engine → Label → Engine → Prop}
    (run : (engineMachine p).Reaches ok events e) : AttemptsMatch events e ↔ NoneFailed e := by
  constructor
  · intro same jobId job found seq result read
    exact (attempts_of_result run found read).mp (same jobId job found seq result read)
  · intro success jobId job found seq result read
    exact (attempts_of_result run found read).mpr (success jobId job found seq result read)

/-! ### Dead letters -/

/-- The step hears a reply that is recorded as a failure. -/
def Fails (s : Settings) (e : Engine) (label : Label) : Prop :=
  ∃ task w f reply jitter, label = .work task (.reply reply jitter) ∧
    e.workers.get? task = some w ∧ w.loc.asking = some f ∧ DeadLetters s f.attempt reply

/-- The step gives an item up, without a result, after a retry. -/
def GivesUp (e : Engine) (label : Label) : Prop :=
  ∃ task action w f, label = .work task action ∧ e.workers.get? task = some w ∧
    w.loc.asking = some f ∧ 1 < f.attempt ∧
      (action = .interrupt ∨
        ∃ reply jitter, action = .reply reply jitter ∧ (Unprintable reply ∨ reply = .cancelled))

theorem heard_of_reply {task : TaskId} {w : Worker} {f : InFlight} {reply : Reply} {jitter : ℚ}
    (stepped : (engineMachine p).step e (.work task (.reply reply jitter)) = some (e', emitted))
    (found : e.workers.get? task = some w) (asks : w.loc.asking = some f) :
    Heard p e (.work task (.reply reply jitter)) e' emitted task w f reply jitter := by
  obtain ⟨w', g, flag, loc, read, rfl, _, work⟩ := work_cases stepped
  rw [found, Option.some.injEq] at read
  subst read
  have same : ∀ {f' : InFlight} {before : Bool}, w.loc = .calling f' before → f' = f := by
    intro f' before at_
    rw [at_] at asks
    exact Option.some.inj asks
  cases work with
  | retried f' before at_ alone reply jitter seconds settled =>
      obtain rfl := same at_
      refine ⟨rfl, found, ⟨before, at_⟩, rfl, ?_⟩
      rw [settled]
      rfl
  | recorded f' before at_ alone reply jitter result cost credited exhausted settled =>
      obtain rfl := same at_
      refine ⟨rfl, found, ⟨before, at_⟩, rfl, ?_⟩
      rw [settled]
      rfl
  | lost f' before at_ alone reply jitter credited settled =>
      obtain rfl := same at_
      refine ⟨rfl, found, ⟨before, at_⟩, rfl, ?_⟩
      rw [settled]
      rfl
  | callCancelled f' before at_ alone reply jitter settled =>
      obtain rfl := same at_
      refine ⟨rfl, found, ⟨before, at_⟩, rfl, ?_⟩
      rw [settled]
      rfl

theorem failed_of_fails (ledger : Ledger False events e)
    (stepped : (engineMachine p).step e label = some (e', emitted))
    (fails : Fails p.settings e label) : ¬NoneFailed e' := by
  intro success'
  obtain ⟨task, w, f, reply, jitter, rfl, found, asks, dead⟩ := fails
  obtain ⟨job, present⟩ := ledger.job_of_held (mem_held_of_asking found asks rfl)
  obtain ⟨job', present', _⟩ := (step_cases stepped).job_stays present
  obtain ⟨result, cost, credited, exhausted, settled⟩ := dead.recorded f.item jitter
  have results := results_of_heard (heard_of_reply stepped found asks) present present'
  have ways := settles p.settings f.item f.attempt jitter reply
  simp only [settled] at results ways
  have read : job'.results.get? f.item.seq = some result := by
    rw [results, Dict.get?_set_same]
  have failed := ways.failure_iff.mpr dead
  rw [success' f.jobId job' present' f.item.seq result read] at failed
  cases failed

/-- Only a dead letter makes a failure. -/
theorem NoneFailed.next (success : NoneFailed e) (step : Step p e label e' emitted)
    (silent : ¬Fails p.settings e label) : NoneFailed e' := by
  intro jobId job' found' seq result read
  rcases step.job found' with ⟨job, found, change⟩ | ⟨_, _, _, _, _, rfl⟩
  · by_cases unanswered : Unanswered jobId emitted
    · rw [(sameTally_of_unanswered change unanswered).results] at read
      exact success jobId job found seq result read
    · obtain ⟨task, w, f, reply, jitter, rfl, heard⟩ := heard_of_step step unanswered
      have results := results_of_heard heard found found'
      have ways := settles p.settings f.item f.attempt jitter reply
      cases settled : settle p.settings f.item f.attempt jitter reply with
      | record recorded cost credited exhausted =>
          simp only [settled] at results ways
          rw [results, Dict.get?_set] at read
          by_cases same : seq = f.item.seq
          · rw [if_pos same, Option.some.injEq] at read
            subst read
            by_contra failed
            rw [Bool.not_eq_true] at failed
            exact silent ⟨task, w, f, reply, jitter, heard.isReply, heard.found, heard.asking,
              ways.failure_iff.mp failed⟩
          · rw [if_neg same] at read
            exact success f.jobId job found seq result read
      | _ =>
          simp only [settled] at results
          rw [results] at read
          exact success f.jobId job found seq result read
  · cases read

/-! ### The balance of retries -/

/-- The retries behind an item of the job that is still asked for. -/
def retriesBehind (jobId : JobId) : Option InFlight → Int
  | some f => if f.jobId = jobId then f.attempt - 1 else 0
  | none => 0

def retriesInFlight (jobId : JobId) (e : Engine) : Int :=
  e.workers.total (fun _ w => retriesBehind jobId w.loc.asking)

def retriesRecorded (job : Job) : Int :=
  job.results.total (fun _ result => (result.attempts : Int) - 1)

/-- The retries of every job belong to its results and to its items in flight. -/
def RetriesBalance (e : Engine) : Prop :=
  ∀ jobId job, e.store.get jobId = some job →
    (job.retries : Int) = retriesRecorded job + retriesInFlight jobId e

theorem retriesInFlight_of_idle (idle : held jobId e = 0) : retriesInFlight jobId e = 0 := by
  apply Dict.total_eq_zero
  intro task w member
  cases asks : w.loc.asking with
  | none => rfl
  | some f =>
      rw [retriesBehind, if_neg]
      intro mine
      have holds := mem_held_of_asking ((e.workers.mem_entries_iff task w).mp member) asks mine
      rw [idle] at holds
      exact Multiset.notMem_zero _ holds

theorem retriesInFlight_moveTo {g : Engine} {task : TaskId} {w : Worker} (flag : Bool) (loc : Loc)
    (workers : g.workers = e.workers) (found : e.workers.get? task = some w) (jobId : JobId) :
    retriesInFlight jobId (g.moveTo task
        { w with cancelRequested := flag } loc) + retriesBehind jobId w.loc.asking =
      retriesInFlight jobId e + retriesBehind jobId loc.asking := by
  unfold retriesInFlight moveTo
  rw [workers]
  exact Dict.total_set_of_get?_some (fun _ w => retriesBehind jobId w.loc.asking) e.workers _ found

/-- Apart from worker code, no step moves the retries in flight. -/
private theorem retriesInFlight_unworked (loop : e.EventLoop) (step : Step p e label e' emitted)
    (unworked : ∀ task action, label ≠ .work task action) (jobId : JobId) :
    retriesInFlight jobId e' = retriesInFlight jobId e := by
  cases step with
  | submitted label prompts priority key newId requested quiet named fresh =>
      rcases submit_cases p prompts priority key newId e with ⟨⟨_, _, same⟩, _⟩ | admitted
      · rw [same]
        rfl
      · rw [admitted.2.2.2.2]
        exact total_register (fun loc => retriesBehind jobId loc.asking) rfl rfl p prompts priority
          key newId e loop.numbered
  | worked task action w g flag loc emitted found lowered work =>
      exact absurd rfl (unworked task action)
  | graceExpired quiet phase =>
      unfold retriesInFlight requestCancels
      rw [Dict.total_mapValues]
  | shutdownReturned ended phase =>
      unfold retriesInFlight
      rw [(interruptJobs_frame e).2.2.1]
  | _ => rfl

/-- Worker code moves the retries of a job from the item in flight to its result. -/
private theorem retriesBalance_worked {g : Engine} {task : TaskId} {w : Worker} {action : Action}
    {loc : Loc} (flag : Bool) (balance : RetriesBalance e) (ledger : Ledger False events e)
    (silent : ¬Fails p.settings e (.work task action)) (patient : ¬GivesUp e (.work task action))
    (attempted : ∀ f job, w.loc.asking = some f → e.store.get f.jobId = some job → 1 ≤ f.attempt)
    (found : e.workers.get? task = some w) (work : WorkStep p e task w action g loc emitted) :
    RetriesBalance (g.moveTo task
      { w with cancelRequested := flag } loc) := by
  intro jobId job' found'
  have read' : g.store.get jobId = some job' := found'
  have moved := retriesInFlight_moveTo flag loc work.workers.1 found jobId
  have fails := fun f reply jitter isReply asks dead =>
    silent ⟨task, w, f, reply, jitter, isReply, found, asks, dead⟩
  have gaveUp := fun f asks late how => patient ⟨task, action, w, f, rfl, found, asks, late, how⟩
  have item := itemStep work
  generalize asks : w.loc.asking = source at item moved attempted fails gaveUp
  generalize loc.asking = target at item moved
  have same : g.store = e.store → retriesBehind jobId target = retriesBehind jobId source →
      (job'.retries : Int) = retriesRecorded job' + retriesInFlight jobId (g.moveTo task
        { w with cancelRequested := flag } loc) := by
    intro store still
    rw [store] at read'
    have before := balance jobId job' read'
    omega
  have abandoned : ∀ f, source = some f → target = none → g.store = e.store →
      (action = .interrupt ∨ ∃ reply jitter, action = .reply reply jitter ∧
        (Unprintable reply ∨ reply = .cancelled)) →
      (job'.retries : Int) = retriesRecorded job' + retriesInFlight jobId (g.moveTo task
        { w with cancelRequested := flag } loc) := by
    intro f was now store how
    refine same store ?_
    rw [was, now, retriesBehind, retriesBehind]
    by_cases mine : f.jobId = jobId
    · have early := gaveUp f was
      have first := attempted f job' was (mine ▸ store ▸ read')
      have once : ¬1 < f.attempt := fun late => early late how
      rw [if_pos mine]
      omega
    · rw [if_neg mine]
  cases item with
  | carry held emitted scheduler store quiet => exact same store rfl
  | drained popped store => exact same store rfl
  | skipped served item popped store gone => exact same store rfl
  | taken f job popped store read alive first =>
      refine same store ?_
      rw [retriesBehind, retriesBehind, first]
      simp
  | retried f reply jitter seconds isReply scheduler store settled =>
      rw [store, InMemoryJobStore.get, InMemoryJobStore.get?_update] at read'
      simp only [retriesBehind] at moved
      by_cases mine : f.jobId = jobId
      · rw [if_pos mine.symm, Option.map_eq_some_iff] at read'
        obtain ⟨job, read, rfl⟩ := read'
        have before := balance jobId job (mine ▸ read)
        have once : job.retried.retries = job.retries + 1 := rfl
        have results : retriesRecorded job.retried = retriesRecorded job := rfl
        rw [if_pos mine, if_pos mine] at moved
        push_cast at moved
        rw [once, results]
        push_cast
        omega
      · rw [if_neg (Ne.symm mine)] at read'
        rw [if_neg mine, if_neg mine] at moved
        have before := balance jobId job' read'
        omega
  | recorded f reply jitter result cost credited exhausted isReply scheduler store settled =>
      rw [store, InMemoryJobStore.get, (record_jobs f result cost credited exhausted e).2] at read'
      simp only [retriesBehind] at moved
      by_cases mine : jobId = f.jobId
      · subst mine
        rw [if_pos rfl, Option.map_eq_some_iff] at read'
        obtain ⟨job, read, rfl⟩ := read'
        have before := balance f.jobId job read
        have absent := unrecorded_of_asking ledger found asks read
        rcases advance_fields f.item.seq result cost e.wallTime job with
          ⟨_, _, _, _, results, retried, _, _⟩
        have ways := settles p.settings f.item f.attempt jitter reply
        rw [settled] at ways
        have attempts : result.attempts = f.attempt := by
          apply ways.attempts_of_success
          by_contra failed
          rw [Bool.not_eq_true] at failed
          exact fails f reply jitter (by rw [isReply]) rfl (ways.failure_iff.mp failed)
        have recordedNow : retriesRecorded (job.advance f.item.seq result cost e.wallTime) =
            retriesRecorded job + ((f.attempt : Int) - 1) := by
          unfold retriesRecorded
          rw [results, Dict.total_set_of_get?_none _ _ _ absent, attempts]
        rw [if_pos rfl] at moved
        rw [retried, recordedNow]
        omega
      · rw [if_neg mine] at read'
        rw [if_neg (Ne.symm mine)] at moved
        have before := balance jobId job' read'
        omega
  | forgotten f reply jitter isReply scheduler store settled =>
      refine abandoned f rfl rfl store (Or.inr ⟨reply, jitter, isReply, ?_⟩)
      have ways := settles p.settings f.item f.attempt jitter reply
      rcases settled with ⟨credited, settled⟩ | settled
      · rw [settled] at ways
        cases ways with
        | lost reply credited unprintable => exact Or.inl unprintable
      · rw [settled] at ways
        cases ways with
        | cancelled => exact Or.inr rfl
  | interrupted f isInterrupt scheduler store => exact abandoned f rfl rfl store (Or.inl isInterrupt)

theorem RetriesBalance.next (balance : RetriesBalance e) (ledger : Ledger False events e)
    (followed : Followed p.settings events e) (loop : e.EventLoop)
    (silent : ¬Fails p.settings e label) (patient : ¬GivesUp e label)
    (step : Step p e label e' emitted) : RetriesBalance e' := by
  by_cases worked : ∃ task action, label = .work task action
  · obtain ⟨task, action, rfl⟩ := worked
    cases step with
    | worked task action w g flag loc emitted found lowered work =>
        refine retriesBalance_worked flag balance ledger silent patient ?_ found work
        intro f job asks present
        rw [← answers_of_asking followed found asks present]
        exact Nat.le_add_left _ _
    | unchanged label serves => exact balance
    | submitted label prompts priority key newId requested quiet named fresh => cases requested
  · have same := retriesInFlight_unworked loop step (fun task action is => worked ⟨task, action, is⟩)
    intro jobId job' found'
    rcases step.job found' with ⟨job, found, change⟩ | ⟨fresh, prompts, priority, key, _, rfl⟩
    · have unanswered : Unanswered jobId emitted := by
        by_contra answered
        obtain ⟨task, w, f, reply, jitter, _, heard⟩ := heard_of_step step answered
        exact worked ⟨task, _, heard.isReply⟩
      have tally := sameTally_of_unanswered change unanswered
      rw [tally.retries, same, balance jobId job found]
      unfold retriesRecorded
      rw [tally.results]
    · rw [same, retriesInFlight_of_idle (ledger.unknown jobId fresh).2.1]
      rfl

/-! ### Runs -/

/-- As long as no result is a failure, every result carries the number of the calls for
its item; a step breaks this exactly by a failure. As long as, moreover, no item is given up
after a retry, the retries of a job without items in flight are those of its results. -/
theorem attempts_match_calls (p : Params) {events : List Event} {e : Engine}
    (run : (engineMachine p).Reaches
      (fun e label _ => ¬Fails p.settings e label ∧ ¬GivesUp e label) events e) :
    AttemptsMatch events e ∧
      (∀ jobId job, e.store.get jobId = some job → held jobId e = 0 →
        (job.retries : Int) =
          (job.orderedResults.map (fun result => (result.attempts : Int) - 1)).sum) ∧
      ∀ label e' emitted, (engineMachine p).step e label = some (e', emitted) →
        (AttemptsMatch (events ++ emitted) e' ↔ ¬Fails p.settings e label) := by
  have invariant : NoneFailed e ∧ RetriesBalance e := by
    refine followed_invariant run (fun _ e => NoneFailed e ∧ RetriesBalance e) ?_ ?_
    · constructor
      · intro _ _ impossible
        cases impossible
      · intro _ _ impossible
        cases impossible
    · intro _ _ _ _ _ before ledger followed loop keeps step
      exact ⟨before.1.next step keeps.1, before.2.next ledger followed loop keeps.1 keeps.2 step⟩
  obtain ⟨success, balance⟩ := invariant
  refine ⟨(attemptsMatch_iff run).mpr success, ?_, ?_⟩
  · intro jobId job found idle
    rw [balance jobId job found, retriesInFlight_of_idle idle, add_zero, ← total_orderedResults]
    rfl
  · intro label e' emitted stepped
    have longer : (engineMachine p).Reaches Machine.anyStep (events ++ emitted) e' :=
      run.anyStep.snoc label trivial stepped
    rw [attemptsMatch_iff longer]
    exact ⟨fun success' fails => failed_of_fails (reachable_followed run).1 stepped fails success',
      success.next (step_cases stepped)⟩

/-- The test of the conditions on a concrete run: answers, and 429s within the budget. -/
def keepsAttempts (p : Params) (e : Engine) : Label → Bool
  | .work _ (.reply (.returned _) _) => decide (p.settings.charsPerToken ≠ 0)
  | .work task (.reply (.rateLimited _) _) =>
      (e.workers.get? task).all (fun w => w.loc.asking.all (fun f =>
        decide ((f.attempt : Int) ≤ p.settings.maxRetries ∧ f.attempt ≤ 1024)))
  | .work _ (.reply _ _) => false
  | .work _ .interrupt => false
  | _ => true

theorem keeps_of_check (checked : keepsAttempts p e label = true) :
    ¬Fails p.settings e label ∧ ¬GivesUp e label := by
  constructor
  · rintro ⟨task, w, f, reply, jitter, rfl, found, asks, dead⟩
    cases reply with
    | returned output =>
        have priced : p.settings.charsPerToken ≠ 0 := of_decide_eq_true checked
        exact dead.unanswered priced
    | rateLimited retryAfter =>
        simp only [keepsAttempts, found, asks, Option.all_some, decide_eq_true_eq] at checked
        exact dead.spent retryAfter rfl checked
    | _ => cases checked
  · rintro ⟨task, action, w, f, rfl, found, asks, late, rfl | ⟨reply, jitter, rfl, strange⟩⟩
    · cases checked
    · cases reply with
      | returned output => exact strange.elim id Reply.noConfusion
      | rateLimited retryAfter => exact strange.elim id Reply.noConfusion
      | _ => cases checked

/-- One prompt is taken up to its first call. -/
def asked : List Label :=
  [.submit [{ id := none, prompt := "x" }] .normal none "a", .work 0 .start, .work 0 .enter,
    .work 0 .take, .work 0 .gate]

/-- A result on the second attempt has two calls behind it, and the job one retry. -/
theorem attempts_match_calls_second :
    ∃ events e job result, (engineMachine singleWorker).Reaches
        (fun e label _ => ¬Fails singleWorker.settings e label ∧ ¬GivesUp e label) events e ∧
      e.store.get "a" = some job ∧ job.results.get? 0 = some result ∧
      result.attempts = callsOf "a" 0 events ∧ callsOf "a" 0 events = 2 ∧ job.retries = 1 := by
  rcases @Machine.exists_run_of_exec _ _ _ (engineMachine singleWorker)
      (fun e label _ => ¬Fails singleWorker.settings e label ∧ ¬GivesUp e label)
      (engineMachine singleWorker).initial (fun e label _ => keepsAttempts singleWorker e label)
      (fun _ _ _ checked => keeps_of_check checked)
      (asked ++ [.work 0 (.reply (.rateLimited 0) 0), .work 0 .backoffWake, .work 0 .gate,
        .work 0 (.reply (.returned "hi") 0)])
      (fun outcome => callsOf "a" 0 outcome.1 == 2 && (outcome.2.store.get "a").any
        (fun job => job.retries == 1 && (job.results.get? 0).isSome)) (by decide +kernel) with
    ⟨events, e, run, tested⟩
  rw [Bool.and_eq_true, beq_iff_eq, Option.any_eq_true] at tested
  obtain ⟨calls, job, found, checked⟩ := tested
  rw [Bool.and_eq_true, beq_iff_eq, Option.isSome_iff_exists] at checked
  obtain ⟨retries, result, read⟩ := checked
  exact ⟨events, e, job, result, run, found, read,
    (attempts_match_calls singleWorker run).1 "a" job found 0 result read, calls, retries⟩

/-- A prompt that is refused twice and then fails has three calls behind it, but its dead
letter carries no attempts. -/
theorem attempts_missing_in_dead_letter :
    ∃ events e job result, (engineMachine singleWorker).Reaches
        (Machine.onLabels (fun label => BeforeShutdown label ∧ WellBehaved label)) events e ∧
      e.store.get "a" = some job ∧ held "a" e = 0 ∧ job.deadLetter = [result] ∧
      callsOf "a" 0 events = 3 ∧ result.attempts = 0 ∧ job.retries = 2 ∧
      ¬AttemptsMatch events e := by
  rcases @Machine.exists_run_of_exec _ _ _ (engineMachine singleWorker)
      (Machine.onLabels (fun label => BeforeShutdown label ∧ WellBehaved label))
      (engineMachine singleWorker).initial (fun _ label _ => isWellBehaved label)
      (fun _ _ _ checked => wellBehaved_of_check checked)
      (asked ++ [.work 0 (.reply (.rateLimited 0) 0), .work 0 .backoffWake, .work 0 .gate,
        .work 0 (.reply (.rateLimited 0) 0), .work 0 .backoffWake, .work 0 .gate,
        .work 0 (.reply (.raised "no") 0)])
      (fun outcome => callsOf "a" 0 outcome.1 == 3 && held "a" outcome.2 == 0 &&
        (outcome.2.store.get "a").any (fun job => job.retries == 2 &&
          job.deadLetter == [failure { seq := 0, id := "prompt-1", prompt := "x" } "no"] &&
            job.results.get? 0 ==
              some (failure { seq := 0, id := "prompt-1", prompt := "x" } "no")))
      (by decide +kernel) with
    ⟨events, e, run, tested⟩
  simp only [Bool.and_eq_true, beq_iff_eq, Option.any_eq_true] at tested
  obtain ⟨⟨calls, idle⟩, job, found, ⟨retries, letter⟩, read⟩ := tested
  refine ⟨events, e, job, _, run, found, idle, letter, calls, rfl, retries, ?_⟩
  intro same
  have attempts := same "a" job found 0 _ read
  rw [calls] at attempts
  cases attempts

end EngineAttempts
end BatchInference
