/-
How `shutdown` comes to its end.

After the grace period every task is cancelled. A cancelled task is resumed once, with
`CancelledError`, releases its permit if it has one and ends. So the workers are on their
way out by a bounded number of segments, none of them can be held up, and the coroutine of
`shutdown` returns. A provider that answers a cancelled call otherwise would keep its worker.
-/

import BatchInference.EngineProgress
import BatchInference.EngineShutdown

set_option autoImplicit false

namespace BatchInference
namespace EngineWinddown

open Engine EngineFate EngineProgress EngineItems

/-! ### Workers on their way out -/

/-- After the grace period a call ends with `CancelledError`. -/
def CallsEnd (e : Engine) (label : Label) : Prop :=
  e.shutdownPhase = .cancelling →
    ∀ task reply jitter, label = .work task (.reply reply jitter) → reply = .cancelled

/-- The task has ended, is about to, or will be resumed with `CancelledError`. -/
def Leaving (w : Worker) : Prop :=
  w.loc = .done ∨ w.loc = .releasing false ∨
    w.cancelRequested = true ∧ w.loc.running = false

/-- The segments that a worker on its way out still runs. -/
def rest : Loc → Nat
  | .done => 0
  | .releasing false => 1
  | _ => 2

/-- The segments that all workers still run. -/
def restLeft (e : Engine) : Nat := e.workers.total (fun _ w => rest w.loc)

/-- Everything that workers run. -/
def worked (_ : Engine) : Label → List (TaskId × Action)
  | .work task action => [(task, action)]
  | _ => []

/-- A worker that continues after a suspension has not been cancelled. -/
theorem uncancelled_of_resume {p : Params} {e e' : Engine} {task : TaskId} {action : Action}
    {w : Worker} {emitted : List Event}
    (stepped : (engineMachine p).step e (.work task action) = some (e', emitted))
    (found : e.workers.get? task = some w)
    (resumes : action = .start ∨ action = .wake ∨ action = .tokenWake ∨ action = .backoffWake) :
    w.cancelRequested = false := by
  have worked := stepped
  change Engine.step p e (.work task action) = some (e', emitted) at worked
  simp only [Engine.step, found] at worked
  have resumed : e.mayResume w = true → w.cancelRequested = false := by
    intro may
    unfold mayResume at may
    simpa using (Bool.and_eq_true_iff.mp may).2
  rcases resumes with rfl | rfl | rfl | rfl
  · cases at_ : w.loc with
    | created =>
        simp only [workStep, at_] at worked
        split at worked
        · rename_i may
          exact resumed may
        · cases worked
    | _ => simp [workStep, at_] at worked
  · cases at_ : w.loc with
    | waiting =>
        simp only [workStep, at_] at worked
        split at worked
        · rename_i may
          exact resumed (Bool.and_eq_true_iff.mp may).1
        · cases worked
    | _ => simp [workStep, at_] at worked
  · exact EngineCancel.uncancelled_of_wake stepped found (Or.inl rfl)
  · exact EngineCancel.uncancelled_of_wake stepped found (Or.inr rfl)

/-- A worker on its way out is suspended with a cancellation, or about to end. -/
theorem Leaving.suspended {p : Params} {e g : Engine} {task : TaskId} {w : Worker}
    {action : Action} {loc : Loc} {emitted : List Event} (leaving : Leaving w)
    (work : WorkStep p e task w action g loc emitted) (elsewhere : w.loc ≠ .releasing false) :
    w.cancelRequested = true ∧ w.loc.running = false := by
  rcases leaving with done | releasing | suspended
  · exact absurd done (workStep_not_done work)
  · exact absurd releasing elsewhere
  · exact suspended

/-- A worker on its way out takes one of its last two segments. -/
theorem leaving_segment {p : Params} {e e' g : Engine} {task : TaskId} {w : Worker}
    {action : Action} {loc : Loc} {emitted : List Event}
    (stepped : (engineMachine p).step e (.work task action) = some (e', emitted))
    (found : e.workers.get? task = some w) (leaving : Leaving w)
    (ends : ∀ reply jitter, action = .reply reply jitter → reply = .cancelled)
    (work : WorkStep p e task w action g loc emitted) :
    (loc = .done ∨ loc = .releasing false) ∧ rest loc + 1 ≤ rest w.loc := by
  have suspended := leaving.suspended work
  have cancelled : (action = .start ∨ action = .wake ∨ action = .tokenWake ∨
      action = .backoffWake) → w.cancelRequested ≠ true := by
    intro resumes requested
    rw [uncancelled_of_resume stepped found resumes] at requested
    cases requested
  have inside : w.loc.running = true → w.loc = .releasing false := by
    intro running
    by_contra elsewhere
    rw [(suspended elsewhere).2] at running
    cases running
  cases work with
  | started at_ quiet =>
      exact absurd (suspended (by rw [at_]; exact Loc.noConfusion)).1 (cancelled (Or.inl rfl))
  | woken at_ quiet marked =>
      exact absurd (suspended (by rw [at_]; exact Loc.noConfusion)).1
        (cancelled (Or.inr (Or.inl rfl)))
  | tokenWoken f seconds at_ quiet =>
      exact absurd (suspended (by rw [at_]; exact Loc.noConfusion)).1
        (cancelled (Or.inr (Or.inr (Or.inl rfl))))
  | backoffEnded f seconds at_ quiet =>
      exact absurd (suspended (by rw [at_]; exact Loc.noConfusion)).1
        (cancelled (Or.inr (Or.inr (Or.inr rfl))))
  | retried f before at_ alone reply jitter seconds settled =>
      rw [ends reply jitter rfl] at settled
      cases settled
  | recorded f before at_ alone reply jitter result cost credited exhausted settled =>
      rw [ends reply jitter rfl] at settled
      cases settled
  | lost f before at_ alone reply jitter credited settled =>
      rw [ends reply jitter rfl] at settled
      cases settled
  | callCancelled f before at_ alone reply jitter settled =>
      rw [at_]
      exact ⟨Or.inr rfl, le_refl _⟩
  | left again at_ =>
      cases again with
      | true => cases at_.symm.trans (inside (by rw [at_]; rfl))
      | false =>
          rw [at_]
          exact ⟨Or.inl rfl, le_refl _⟩
  | killed at_ requested quiet =>
      rw [at_]
      exact ⟨Or.inl rfl, by simp only [rest]; omega⟩
  | gaveUp at_ requested quiet =>
      rw [at_]
      exact ⟨Or.inl rfl, by simp only [rest]; omega⟩
  | sleepCancelled f seconds at_ requested quiet =>
      rcases at_ with at_ | at_
      · rw [at_]
        exact ⟨Or.inr rfl, le_refl _⟩
      · rw [at_]
        exact ⟨Or.inr rfl, le_refl _⟩
  | granted at_ free => cases at_.symm.trans (inside (by rw [at_]; rfl))
  | slept at_ full => cases at_.symm.trans (inside (by rw [at_]; rfl))
  | drained at_ scheduler popped => cases at_.symm.trans (inside (by rw [at_]; rfl))
  | skipped at_ scheduler jobId item popped gone => cases at_.symm.trans (inside (by rw [at_]; rfl))
  | taken at_ scheduler jobId item job popped found alive => cases at_.symm.trans (inside (by rw [at_]; rfl))
  | called f at_ bucket grant => cases at_.symm.trans (inside (by rw [at_]; rfl))
  | throttled f at_ bucket seconds refused => cases at_.symm.trans (inside (by rw [at_]; rfl))
  | suspended f at_ => cases at_.symm.trans (inside (by rw [at_]; rfl))

/-! ### The state of the engine meanwhile -/

/-- The grace period is over. -/
def Ended (e : Engine) : Prop := e.shutdownPhase = .cancelling ∨ e.shutdownPhase = .finished

/-- After the grace period every worker is on its way out. -/
def Winding (e : Engine) : Prop :=
  Ended e → ∀ task w, e.workers.get? task = some w → Leaving w

theorem Ended.stopped {e : Engine} (ended : Ended e) : e.shutdownPhase ≠ .notStarted := by
  rcases ended with phase | phase
  · rw [phase]
    exact ShutdownPhase.noConfusion
  · rw [phase]
    exact ShutdownPhase.noConfusion

/-- After the grace period, outside worker code nothing happens to the workers: no request
starts one. -/
theorem Ended.lasts {p : Params} {e e' : Engine} {label : Label} {emitted : List Event}
    (ended : Ended e) (stopping : Stopping e) (outside : ∀ task action, label ≠ .work task action)
    (step : Step p e label e' emitted) : Ended e' ∧ e'.workers = e.workers := by
  cases step with
  | tick loopTime wallTime later => exact ⟨ended, rfl⟩
  | unchanged label serves => exact ⟨ended, rfl⟩
  | submitted label prompts priority key newId requested quiet named fresh =>
      rcases submit_cases p prompts priority key newId e with ⟨⟨_, _, same⟩, _⟩ | ⟨accepting, _⟩
      · rw [same]
        exact ⟨ended, rfl⟩
      · rw [stopping.refusing ended.stopped] at accepting
        cases accepting
  | cancelled jobId job quiet found unfinished => exact ⟨ended, rfl⟩
  | worked task action w g flag loc emitted found lowered work =>
      exact absurd rfl (outside task action)
  | shutdownStarted quiet phase => exact absurd phase ended.stopped
  | graceExpired quiet phase =>
      rcases ended with other | other
      · cases phase.symm.trans other
      · cases phase.symm.trans other
  | shutdownReturned finished phase => exact ⟨Or.inr rfl, (interruptJobs_frame e).2.2.1⟩

/-- When the grace period ends, every worker is suspended and gets its cancellation. -/
theorem leaving_of_ended {p : Params} {e e' : Engine} {label : Label} {emitted : List Event}
    (outside : ∀ task action, label ≠ .work task action) (step : Step p e label e' emitted)
    (ended : Ended e') : Ended e ∨ ∀ task w, e'.workers.get? task = some w → Leaving w := by
  cases step with
  | submitted label prompts priority key newId requested quiet named fresh =>
      rcases submit_cases p prompts priority key newId e with ⟨⟨_, _, same⟩, _⟩ |
        ⟨_, _, _, _, admitted⟩
      · rw [same] at ended
        exact Or.inl ended
      · unfold Ended at ended ⊢
        rw [admitted, (register_phase p prompts priority key newId e).2] at ended
        exact Or.inl ended
  | worked task action w g flag loc emitted found lowered work =>
      exact absurd rfl (outside task action)
  | shutdownStarted quiet phase =>
      rcases ended with impossible | impossible
      · cases impossible
      · cases impossible
  | graceExpired quiet phase =>
      right
      intro task w found
      simp only [requestCancels, Dict.get?_mapValues, Option.map_eq_some_iff] at found
      obtain ⟨before, read, rfl⟩ := found
      cases isDone : before.loc.isDone with
      | true => exact Or.inl (Loc.eq_done isDone)
      | false => exact Or.inr (Or.inr ⟨by simp, e.atAwait_iff.mp quiet task before read⟩)
  | shutdownReturned finished phase =>
      right
      intro task w found
      rw [(interruptJobs_frame e).2.2.1] at found
      exact Or.inl (Loc.eq_done (finished w ((e.workers.mem_values_iff w).mpr ⟨task, found⟩)))
  | _ => exact Or.inl ended

/-- What a segment does after the grace period. -/
theorem winding_segment {p : Params} {e e' : Engine} {task : TaskId} {action : Action}
    {emitted : List Event} (winding : Winding e) (ended : Ended e)
    (ends : CallsEnd e (.work task action)) (stopping : Stopping e)
    (stepped : (engineMachine p).step e (.work task action) = some (e', emitted)) :
    (∀ other w, e'.workers.get? other = some w → Leaving w) ∧ restLeft e' + 1 ≤ restLeft e := by
  obtain ⟨w, g, flag, loc, found, rfl, _, work⟩ := work_cases stepped
  have cancelling : e.shutdownPhase = .cancelling := by
    rcases ended with cancelling | finished
    · exact cancelling
    · exact absurd (stopping.workers finished task w found) (workStep_not_done work)
  have cancelled : ∀ reply jitter, action = .reply reply jitter → reply = .cancelled := by
    intro reply jitter same
    exact ends cancelling task reply jitter (by rw [same])
  obtain ⟨exits, fewer⟩ := leaving_segment stepped found (winding ended task w found) cancelled work
  constructor
  · intro other w' found'
    rw [get?_moveTo] at found'
    by_cases same : other = task
    · rw [if_pos same, Option.some.injEq] at found'
      subst found'
      rcases exits with done | releasing
      · exact Or.inl done
      · exact Or.inr (Or.inl releasing)
    · rw [if_neg same, work.workers.1] at found'
      exact winding ended other w' found'
  · have moved := total_moveTo rest flag loc work.workers.1 found
    unfold restLeft
    omega

/-- Worker code leaves the phase alone. -/
theorem ended_of_segment {p : Params} {e e' : Engine} {task : TaskId} {action : Action}
    {emitted : List Event}
    (stepped : (engineMachine p).step e (.work task action) = some (e', emitted)) :
    Ended e' ↔ Ended e := by
  obtain ⟨w, g, flag, loc, found, rfl, _, work⟩ := work_cases stepped
  unfold Ended
  simp only [moveTo_frame, work.phase.2]

theorem Winding.next {p : Params} {e e' : Engine} {label : Label} {emitted : List Event}
    (winding : Winding e) (stopping : Stopping e) (ends : CallsEnd e label)
    (stepped : (engineMachine p).step e label = some (e', emitted)) : Winding e' := by
  intro ended
  cases label with
  | work task action =>
      have before := (ended_of_segment stepped).mp ended
      exact (winding_segment winding before ends stopping stepped).1
  | _ =>
      have step := step_cases stepped
      rcases leaving_of_ended (fun _ _ => Label.noConfusion) step ended with before | leaving
      · rw [(before.lasts stopping (fun _ _ => Label.noConfusion) step).2]
        exact winding before
      · exact leaving

theorem reachable_winding {p : Params} {events : List Event} {e : Engine}
    (run : (engineMachine p).Reaches (fun e label _ => CallsEnd e label) events e) :
    Winding e := by
  refine (Machine.Run.invariant run (fun _ e => Winding e ∧ Stopping e) ⟨?_, ?_⟩ ?_).1
  · intro ended
    exact absurd rfl ended.stopped
  · exact @reachable_stopping p Machine.anyStep [] _ .refl
  · intro _ _ _ _ _ facts ends stepped
    exact ⟨facts.1.next facts.2 ends stepped, facts.2.next (step_cases stepped)⟩

/-- After the grace period every step keeps what is left of the workers or uses it up. -/
theorem restLeft_step {p : Params} {e e' : Engine} {label : Label} {emitted : List Event}
    (winding : Winding e) (stopping : Stopping e) (ended : Ended e) (ends : CallsEnd e label)
    (stepped : (engineMachine p).step e label = some (e', emitted)) :
    Ended e' ∧ restLeft e' + (worked e label).length ≤ restLeft e := by
  cases label with
  | work task action =>
      exact ⟨(ended_of_segment stepped).mpr ended,
        (winding_segment winding ended ends stopping stepped).2⟩
  | _ =>
      obtain ⟨later, same⟩ := ended.lasts stopping (fun _ _ => Label.noConfusion)
        (step_cases stepped)
      refine ⟨later, ?_⟩
      unfold restLeft
      rw [same]
      exact le_refl _

theorem restLeft_le (e : Engine) : restLeft e ≤ 2 * e.live := by
  refine Dict.total_le_mul_count (fun _ w => rest w.loc) 2 (fun w => !w.loc.isDone) e.workers ?_
  intro task w _
  cases w.loc with
  | done => exact le_refl _
  | releasing again =>
      cases again with
      | true => exact le_refl _
      | false => exact Nat.le_succ _
  | _ => exact le_refl _

/-! ### Nobody is held up -/

/-- A segment of a worker is a step of the machine. -/
theorem step_of_segment {p : Params} {e e' : Engine} {task : TaskId} {w : Worker}
    {action : Action} {emitted : List Event} (found : e.workers.get? task = some w)
    (ran : e.workStep p task w action = some (e', emitted)) :
    (engineMachine p).step e (.work task action) = some (e', emitted) := by
  change Engine.step p e (.work task action) = some (e', emitted)
  simpa only [Engine.step, found] using ran

/-- A cancelled task that is suspended is resumed with `CancelledError`. -/
theorem cancellation_delivered {p : Params} {e : Engine} {task : TaskId} {w : Worker}
    (quiet : e.atAwait = true) (found : e.workers.get? task = some w)
    (requested : w.cancelRequested = true) (idle : w.loc.running = false)
    (alive : w.loc.isDone = false) :
    ∃ action e' emitted, (∀ reply jitter, action = .reply reply jitter → reply = .cancelled) ∧
      (engineMachine p).step e (.work task action) = some (e', emitted) := by
  have guard : (e.atAwait && w.cancelRequested) = true := by
    rw [quiet, requested]
    rfl
  have interrupted : (e.interruptStep task w).isSome = true →
      ∃ action e' emitted, (∀ reply jitter, action = .reply reply jitter → reply = .cancelled) ∧
        (engineMachine p).step e (.work task action) = some (e', emitted) := by
    intro delivers
    obtain ⟨g, delivered⟩ := Option.isSome_iff_exists.mp delivers
    refine ⟨.interrupt, g, [], fun _ _ => Action.noConfusion, step_of_segment found ?_⟩
    simp only [workStep, guard, if_true, delivered, Option.map_some]
  cases at_ : w.loc with
  | created => exact interrupted (by simp only [interruptStep, at_, Option.isSome_some])
  | waiting => exact interrupted (by simp only [interruptStep, at_, Option.isSome_some])
  | tokenSleep f seconds => exact interrupted (by simp only [interruptStep, at_, Option.isSome_some])
  | backoff f seconds => exact interrupted (by simp only [interruptStep, at_, Option.isSome_some])
  | calling f suspended =>
      have answered : ∃ e' emitted,
          e.workStep p task w (.reply .cancelled 0) = some (e', emitted) := by
        simp [workStep, at_, quiet]
      obtain ⟨e', emitted, ran⟩ := answered
      refine ⟨.reply .cancelled 0, e', emitted, ?_, step_of_segment found ran⟩
      intro reply jitter same
      cases same
      rfl
  | acquiring => simp [at_, Loc.running] at idle
  | popping => simp [at_, Loc.running] at idle
  | gating f => simp [at_, Loc.running] at idle
  | releasing again => simp [at_, Loc.running] at idle
  | done => simp [at_, Loc.isDone] at alive

/-- As long as a worker has not ended, some worker has a segment to run. -/
theorem leaving_goes_on {p : Params} {e : Engine}
    (leaving : ∀ task w, e.workers.get? task = some w → Leaving w)
    (alive : ∃ task w, e.workers.get? task = some w ∧ w.loc.isDone = false) :
    ∃ task action e' emitted, CallsEnd e (.work task action) ∧
      (engineMachine p).step e (.work task action) = some (e', emitted) := by
  by_cases exits : ∃ task w, e.workers.get? task = some w ∧ w.loc = .releasing false
  · obtain ⟨task, w, found, at_⟩ := exits
    have leaves : e.workStep p task w .leave = some (e.release.moveTo task w .done, []) := by
      simp [workStep, at_]
    refine ⟨task, .leave, _, _, ?_, step_of_segment found leaves⟩
    intro _ _ _ _ impossible
    cases impossible
  · have suspended : ∀ task w, e.workers.get? task = some w → w.loc.isDone = false →
        w.cancelRequested = true ∧ w.loc.running = false := by
      intro task w found unfinished
      rcases leaving task w found with done | releasing | suspended
      · rw [done] at unfinished
        cases unfinished
      · exact absurd ⟨task, w, found, releasing⟩ exits
      · exact suspended
    have quiet : e.atAwait = true := by
      rw [atAwait_iff]
      intro task w found
      cases isDone : w.loc.isDone with
      | true => rw [Loc.eq_done isDone]; rfl
      | false => exact (suspended task w found isDone).2
    obtain ⟨task, w, found, unfinished⟩ := alive
    obtain ⟨requested, idle⟩ := suspended task w found unfinished
    obtain ⟨action, e', emitted, ends, stepped⟩ :=
      cancellation_delivered (p := p) quiet found requested idle unfinished
    refine ⟨task, action, e', emitted, ?_, stepped⟩
    intro _ other reply jitter same
    cases same
    exact ends reply jitter rfl

/-! ### Shutdown returns -/

/-- A call is running when the grace period ends. -/
def outOfTime : List Label :=
  [.submit [{ id := none, prompt := "hello" }] .normal none "a", .work 0 .start,
    .work 0 .enter, .work 0 .take, .work 0 .gate, .work 0 .suspend, .shutdown, .graceExpired]

def callsEnd (_ : Engine) : Label → Engine → Bool
  | .work _ (.reply reply _), _ => reply == .cancelled
  | _, _ => true

theorem callsEnd_sound (e : Engine) (label : Label) (e' : Engine)
    (checked : callsEnd e label e' = true) : CallsEnd e label := by
  rintro _ task reply jitter rfl
  simpa [callsEnd] using checked

end EngineWinddown
end BatchInference
