/-
The providers of app/mock_inference.py and app/providers.py, and the engine with one of
them behind it.

A provider counts its calls and decides by the number of a call whether it answers 429,
which it does at once. Otherwise the prompt comes back in a completion, after a sleep or
without one. The machine of the engine leaves the replies open; here they are what the
code of the provider can do.
-/

import BatchInference.EngineCalls
import Mathlib.Data.Nat.Count

set_option autoImplicit false

namespace BatchInference

/-- The parts in which the `infer` of the providers differ. -/
structure InferenceProvider where
  /-- The call with this number, from 1 on, raises `RateLimitError` before it suspends. -/
  rateLimits : Nat → Bool
  /-- What `retry_after` may be. -/
  retryAfter : ℚ → Bool
  hinted : ∃ seconds, retryAfter seconds = true
  /-- `asyncio.sleep` comes before the completion. -/
  sleeps : Bool
  completion : String → String

/-- `MockInferenceClient`: every so many calls one is refused; 0 disables this. -/
def mockProvider (rateLimitEvery : Int) : InferenceProvider :=
  { rateLimits := fun n => decide (rateLimitEvery ≠ 0 ∧ (n : Int) % rateLimitEvery = 0)
    retryAfter := fun seconds => decide (1 / 20 ≤ seconds ∧ seconds ≤ 1 / 5)
    hinted := ⟨1 / 10, by decide +kernel⟩
    sleeps := true
    completion := fun prompt => "completion::" ++ prompt }

/-- It never raises; 0 is the default of `RateLimitError`. -/
def slowProvider : InferenceProvider :=
  { rateLimits := fun _ => false
    retryAfter := fun seconds => decide (seconds = 0)
    hinted := ⟨0, rfl⟩
    sleeps := true
    completion := fun prompt => "slow-completion::" ++ prompt }

/-- The first calls are refused. -/
def flakyProvider (failTimes : Int) : InferenceProvider :=
  { rateLimits := fun n => decide ((n : Int) ≤ failTimes)
    retryAfter := fun seconds => decide (seconds = 1 / 100)
    hinted := ⟨1 / 100, by decide +kernel⟩
    sleeps := false
    completion := fun prompt => "completion::" ++ prompt }

namespace InferenceProvider

/-- What `infer` can do in its call with this number: not suspended yet, or in the sleep,
out of which a cancellation comes first. -/
def answers (provider : InferenceProvider) (number : Nat) (w : Worker) (reply : Reply) : Bool :=
  match w.loc with
  | .calling f true =>
      if w.cancelRequested then decide (reply = .cancelled)
      else decide (reply = .returned (provider.completion f.item.prompt))
  | .calling f false =>
      if provider.rateLimits number then
        match reply with
        | .rateLimited seconds => provider.retryAfter seconds
        | _ => false
      else !provider.sleeps && decide (reply = .returned (provider.completion f.item.prompt))
  | _ => false

def admits (provider : InferenceProvider) (number : Nat) (w : Worker) : Action → Bool
  | .suspend => provider.sleeps && !provider.rateLimits number
  | .reply reply _ => provider.answers number w reply
  | _ => true

end InferenceProvider

open EngineCalls

/-- The engine and its provider, which has counted its calls. -/
structure Deployment where
  engine : Engine
  calls : Nat

namespace Deployment

/-- The provider's code allows this label. -/
def admits (provider : InferenceProvider) (d : Deployment) : Label → Bool
  | .work task action => (d.engine.workers.get? task).all (provider.admits d.calls · action)
  | _ => true

def step (p : Params) (provider : InferenceProvider) (d : Deployment) (label : Label) :
    Option (Deployment × List Event) :=
  if d.admits provider label then
    (d.engine.step p label).map (fun next =>
      ({ engine := next.1
         calls := d.calls + callsMade next.2 }, next.2))
  else none

end Deployment

/-- All runs of one engine with this provider. -/
def deployment (p : Params) (provider : InferenceProvider) : Machine Deployment Label Event :=
  { initial :=
      { engine := Engine.new p
        calls := 0 }
    step := Deployment.step p provider }

namespace Deployment

open Engine EngineItems EngineOutcomes EngineOrigins

variable {p : Params} {provider : InferenceProvider} {events emitted : List Event}
  {d d' : Deployment} {label : Label} {jobId : JobId} {seq : Nat}

theorem deployment_step :
    (deployment p provider).step d label = some (d', emitted) ↔
      d.admits provider label = true ∧
        (engineMachine p).step d.engine label = some (d'.engine, emitted) ∧
        d'.calls = d.calls + callsMade emitted := by
  change Deployment.step p provider d label = _ ↔ _ ∧ Engine.step p d.engine label = _ ∧ _
  unfold Deployment.step
  cases allowed : d.admits provider label with
  | false => simp
  | true =>
      cases stepped : d.engine.step p label with
      | none => simp
      | some next =>
          obtain ⟨engine, shown⟩ := next
          obtain ⟨engine', calls'⟩ := d'
          simp only [if_true, Option.map_some, Option.some.injEq, Prod.mk.injEq, mk.injEq,
            true_and]
          constructor
          · rintro ⟨⟨rfl, rfl⟩, rfl⟩
            exact ⟨⟨rfl, rfl⟩, rfl⟩
          · rintro ⟨⟨rfl, rfl⟩, rfl⟩
            exact ⟨⟨rfl, rfl⟩, rfl⟩

/-- The deployment is an engine, as far as the engine can tell. -/
theorem engine_of_run {ok : Deployment → Label → Deployment → Prop}
    {ok' : Engine → Label → Engine → Prop} {first : Deployment}
    (run : Machine.Run (deployment p provider) ok first events d)
    (weaker : ∀ {d d' label emitted}, ok d label d' → d.admits provider label = true →
      (engineMachine p).step d.engine label = some (d'.engine, emitted) →
        ok' d.engine label d'.engine) :
    Machine.Run (engineMachine p) ok' first.engine events d.engine := by
  induction run with
  | refl => exact .refl
  | tail _ admissible stepped ih =>
      obtain ⟨admitted, moved, _⟩ := deployment_step.mp stepped
      exact .tail ih (weaker admissible admitted moved) moved

/-- The rule for invariants, with the run of the engine at hand. -/
theorem deployment_invariant {ok : Deployment → Label → Deployment → Prop}
    (run : (deployment p provider).Reaches ok events d)
    (holds : List Event → Deployment → Prop) (start : holds [] (deployment p provider).initial)
    (next : ∀ {events emitted : List Event} {d d' : Deployment} {label : Label},
      holds events d → (engineMachine p).Reaches Machine.anyStep events d.engine →
        d.admits provider label = true → d'.calls = d.calls + callsMade emitted →
          Step p d.engine label d'.engine emitted → holds (events ++ emitted) d') :
    holds events d := by
  have both := run.invariant
    (fun events d => holds events d ∧ (engineMachine p).Reaches Machine.anyStep events d.engine)
    ⟨start, .refl⟩
    (fun {events emitted d d' label} before _ stepped => by
      obtain ⟨admitted, moved, calls⟩ := deployment_step.mp stepped
      exact ⟨next before.1 before.2 admitted calls (step_cases moved),
        before.2.snoc label trivial moved⟩)
  exact both.1

/-! ### Refused calls -/

/-- The call has just been made: the provider has not answered and does not sleep. -/
def undecided : Loc → Bool
  | .calling _ false => true
  | _ => false

def isThrottle : Event → Bool
  | .replied _ _ (.rateLimited _) => true
  | _ => false

/-- The 429s that the provider has answered. -/
def throttles (events : List Event) : Nat := events.countP isThrottle

/-- So many of the first calls are refused. -/
def refusals (provider : InferenceProvider) (calls : Nat) : Nat :=
  Nat.count (fun n => provider.rateLimits (n + 1) = true) calls

/-- A call that has just been made is decided in the segment that made it. -/
theorem decided_work {e g : Engine} {task : TaskId} {w : Worker} {action : Action} {loc : Loc}
    {number : Nat} (work : WorkStep p e task w action g loc emitted)
    (admitted : provider.admits number w action = true) :
    callsMade emitted = 0 ∧ throttles emitted = 0 ∧ undecided loc = undecided w.loc ∨
      callsMade emitted = 1 ∧ throttles emitted = 0 ∧ undecided w.loc = false ∧
        w.loc.running = true ∧ undecided loc = true ∨
      callsMade emitted = 0 ∧ undecided w.loc = true ∧ undecided loc = false ∧
        throttles emitted = if provider.rateLimits number then 1 else 0 := by
  have answered : ∀ {f : InFlight} {before : Bool} (reply : Reply),
      w.loc = .calling f before → undecided loc = false →
        provider.answers number w reply = true →
        callsMade [.replied f.jobId f.item.seq reply] = 0 ∧
            throttles [.replied f.jobId f.item.seq reply] = 0 ∧ undecided loc = undecided w.loc ∨
          callsMade [.replied f.jobId f.item.seq reply] = 1 ∧
            throttles [.replied f.jobId f.item.seq reply] = 0 ∧ undecided w.loc = false ∧
            w.loc.running = true ∧ undecided loc = true ∨
          callsMade [.replied f.jobId f.item.seq reply] = 0 ∧ undecided w.loc = true ∧
            undecided loc = false ∧ throttles [.replied f.jobId f.item.seq reply] =
              if provider.rateLimits number then 1 else 0 := by
    intro f before reply at_ after speaks
    unfold InferenceProvider.answers at speaks
    rw [at_] at speaks ⊢
    rw [after]
    cases before with
    | true =>
        refine Or.inl ⟨rfl, ?_, rfl⟩
        simp only at speaks
        split at speaks
        · rw [of_decide_eq_true speaks]
          rfl
        · rw [of_decide_eq_true speaks]
          rfl
    | false =>
        refine Or.inr (Or.inr ⟨rfl, rfl, rfl, ?_⟩)
        simp only at speaks
        cases refused : provider.rateLimits number with
        | true =>
            rw [refused, if_pos rfl] at speaks
            cases reply with
            | rateLimited seconds => rfl
            | _ => cases speaks
        | false =>
            rw [refused, if_neg Bool.false_ne_true, Bool.and_eq_true, decide_eq_true_eq] at speaks
            rw [speaks.2]
            rfl
  cases work with
  | called f at_ bucket grant =>
      rw [at_]
      exact Or.inr (Or.inl ⟨rfl, rfl, rfl, rfl, rfl⟩)
  | suspended f at_ =>
      have awake : provider.rateLimits number = false := by
        have both := Bool.and_eq_true_iff.mp admitted
        simpa using both.2
      rw [at_, awake]
      exact Or.inr (Or.inr ⟨rfl, rfl, rfl, rfl⟩)
  | retried f before at_ alone reply jitter seconds settled => exact answered reply at_ rfl admitted
  | recorded f before at_ alone reply jitter result cost credited exhausted settled =>
      exact answered reply at_ rfl admitted
  | lost f before at_ alone reply jitter credited settled => exact answered reply at_ rfl admitted
  | callCancelled f before at_ alone reply jitter settled => exact answered reply at_ rfl admitted
  | left again at_ =>
      rw [at_]
      cases again with
      | true => exact Or.inl ⟨rfl, rfl, rfl⟩
      | false => exact Or.inl ⟨rfl, rfl, rfl⟩
  | sleepCancelled f seconds at_ requested quiet =>
      rcases at_ with at_ | at_
      · rw [at_]
        exact Or.inl ⟨rfl, rfl, rfl⟩
      · rw [at_]
        exact Or.inl ⟨rfl, rfl, rfl⟩
  | _ =>
      refine Or.inl ⟨rfl, rfl, ?_⟩
      simp [*, undecided]

theorem no_other_undecided {e : Engine} (loop : e.EventLoop) {task : TaskId} {w : Worker}
    (found : e.workers.get? task = some w) (inside : w.loc.running = true)
    (decided : undecided w.loc = false) : e.count undecided = 0 := by
  apply Dict.count_eq_zero
  intro other w' found'
  by_cases same : other = task
  · subst same
    rw [found] at found'
    cases found'
    exact decided
  · have idle := others_idle loop found inside found' same
    cases at_ : w'.loc with
    | calling f suspended =>
        cases suspended with
        | true => rfl
        | false =>
            rw [at_] at idle
            cases idle
    | _ => rfl

/-- All refused calls have been answered, except one that has just been made. -/
def Refused (provider : InferenceProvider) (events : List Event) (d : Deployment) : Prop :=
  d.calls = callsMade events ∧
    throttles events + (if provider.rateLimits d.calls then d.engine.count undecided else 0) =
      refusals provider d.calls

theorem refused_next (refused : Refused provider events d) (loop : d.engine.EventLoop)
    (admitted : d.admits provider label = true) (calls : d'.calls = d.calls + callsMade emitted)
    (step : Step p d.engine label d'.engine emitted) :
    Refused provider (events ++ emitted) d' := by
  obtain ⟨counted, before⟩ := refused
  have made : callsMade (events ++ emitted) = callsMade events + callsMade emitted :=
    List.countP_append
  have answered : throttles (events ++ emitted) = throttles events + throttles emitted :=
    List.countP_append
  refine ⟨by rw [calls, made, counted], ?_⟩
  have quiet : callsMade emitted = 0 → throttles emitted = 0 →
      d'.engine.count undecided = d.engine.count undecided →
        throttles (events ++ emitted) +
            (if provider.rateLimits d'.calls then d'.engine.count undecided else 0) =
          refusals provider d'.calls := by
    intro noCall noThrottle same
    rw [calls, answered, noCall, noThrottle, same]
    exact before
  generalize after : d'.engine = e' at step quiet ⊢
  cases step with
  | submitted label prompts priority key newId requested quiet' named fresh =>
      refine quiet rfl rfl ?_
      rcases submit_cases p prompts priority key newId d.engine with ⟨⟨_, _, same⟩, _⟩ | admitted
      · rw [same]
        rfl
      · rw [admitted.2.2.2.2]
        exact total_register (fun loc => if undecided loc then 1 else 0) rfl rfl p
          prompts priority key newId d.engine loop.numbered
  | cancelled cancelledId job quiet' found unfinished => exact quiet rfl rfl rfl
  | worked task action w g flag loc emitted found lowered work =>
      have moved := count_moveTo undecided task flag loc work.workers.1 found
      have allowed : provider.admits d.calls w action = true := by
        change (d.engine.workers.get? task).all (provider.admits d.calls · action) = true at admitted
        rw [found] at admitted
        exact admitted
      rcases decided_work work allowed with ⟨noCall, noThrottle, same⟩ |
          ⟨oneCall, noThrottle, open_, inside, asked⟩ | ⟨noCall, open_, closed, decision⟩
      · refine quiet noCall noThrottle ?_
        rw [same] at moved
        omega
      · have alone := no_other_undecided loop found inside open_
        rw [alone, open_, asked] at moved
        rw [alone] at before
        have one : (g.moveTo task
            { w with cancelRequested := flag } loc).count undecided = 1 := by simpa using moved
        have next : refusals provider (d.calls + 1) = refusals provider d.calls +
            if provider.rateLimits (d.calls + 1) then 1 else 0 := Nat.count_succ _ _
        rw [calls, answered, oneCall, noThrottle, one, next]
        simpa using before
      · rw [open_, closed] at moved
        have some_ : 1 ≤ d.engine.count undecided := Dict.count_pos _ _ found open_
        have least : d.engine.count undecided ≤ 1 := by
          refine le_trans ?_ loop.alone
          refine Dict.count_mono _ (fun _ w _ asked => ?_)
          cases at_ : w.loc with
          | calling f suspended =>
              rw [at_] at asked
              cases suspended with
              | true => cases asked
              | false => rfl
          | _ =>
              rw [at_] at asked
              cases asked
        rw [calls, answered, noCall, decision, Nat.add_zero]
        cases refused : provider.rateLimits d.calls with
        | true =>
            rw [refused] at before
            simp only [if_true, Bool.false_eq_true, if_false] at before moved ⊢
            omega
        | false =>
            rw [refused] at before
            exact before
  | graceExpired quiet' phase =>
      refine quiet rfl rfl ?_
      unfold requestCancels count
      rw [Dict.count_mapValues]
  | shutdownReturned ended phase =>
      refine quiet rfl rfl ?_
      unfold count
      rw [(interruptJobs_frame d.engine).2.2.1]
  | _ => exact quiet rfl rfl rfl

/-- The provider has refused the calls that it had to refuse. -/
theorem reachable_refused {ok : Deployment → Label → Deployment → Prop}
    (run : (deployment p provider).Reaches ok events d) : Refused provider events d := by
  refine deployment_invariant run (Refused provider) ?_ ?_
  · refine ⟨rfl, ?_⟩
    have none : refusals provider 0 = 0 := Nat.count_zero _
    change throttles [] + (if provider.rateLimits 0 then 0 else 0) = refusals provider 0
    rw [none, ite_self]
    rfl
  · intro _ _ _ _ _ refused engineRun admitted calls step
    exact refused_next refused (reachable_eventLoop engineRun) admitted calls step

end Deployment

end BatchInference
