/-
What shutdown leaves behind.

`shutdown` stops the intake, waits for the workers, cancels those that are still
alive after the grace window and closes the jobs that are still open. Where a
worker stands when its cancellation arrives decides what it has to give back; the
permits and the counters come out the same at every place.
-/

import BatchInference.EngineCompletion

set_option autoImplicit false

namespace BatchInference
namespace EngineShutdown

open Engine EngineItems EngineFate EngineCompletion EnginePermits

/-- What `shutdown` leaves when it returns. -/
structure CleanExit (p : Params) (events : List Event) (e : Engine) : Prop where
  workers : ∀ task w, e.workers.get? task = some w → w.loc = .done
  permits : e.limiter.inUse = 0
  active : e.active = ∅
  terminal : ∀ jobId job, e.store.get jobId = some job →
    job.state = .completed ∨ job.state = .cancelled
  complete : ∀ jobId job, e.store.get jobId = some job → 1 ≤ job.total →
    job.completed = job.total → (∀ items, Event.cancelled jobId items ∉ events) →
      job.state = .completed
  counted : ∀ jobId job, e.store.get jobId = some job → Counted job
  refusing : ∀ prompts priority key newId,
    e.submitWithIdempotency p prompts priority key newId =
      (e, .overloaded p.settings.overloadRetryAfterSeconds "Service is shutting down")

theorem cleanExit_of_finished {p : Params} {ok : Engine → Label → Engine → Prop}
    {events : List Event} {e : Engine} (run : (engineMachine p).Reaches ok events e)
    (returned : e.shutdownPhase = .finished) : CleanExit p events e := by
  have stopping := reachable_stopping run
  have roster := reachable_roster run
  have terminal : ∀ jobId job, e.store.get jobId = some job →
      job.state = .completed ∨ job.state = .cancelled := by
    intro jobId job found
    have known : e.stateOf jobId = some job.state :=
      Option.map_eq_some_iff.mpr ⟨job, found, rfl⟩
    rcases roster.states jobId job.state known with running | ended
    · have closed := stopping.jobs returned jobId job.state known
      rw [running] at closed
      cases closed
    · exact ended
  constructor
  · exact stopping.workers returned
  · have held := (reachable_permits run).held
    have none : e.count Loc.holdsPermit = 0 := by
      apply Dict.count_eq_zero
      intro task w found
      rw [stopping.workers returned task w found]
      rfl
    rw [none] at held
    exact held
  · apply Finset.eq_empty_of_forall_notMem
    intro jobId member
    have running := (roster.active jobId).mp member
    have closed := stopping.jobs returned jobId .running running
    cases closed
  · exact terminal
  · intro jobId job found nonempty complete uncancelled
    rcases terminal jobId job found with completed | cancelled
    · exact completed
    · rcases ((reachable_fates run).known jobId job found).cancelled cancelled with ⟨items, member⟩ | ⟨_, short⟩
      · exact absurd member (uncancelled items)
      · omega
  · intro jobId job found
    obtain ⟨_, _, account⟩ := (reachable_ledger False
      (fun _ _ _ _ impossible => impossible.elim) run).known jobId job found
    exact account.counted
  · intro prompts priority key newId
    have closed := stopping.refusing (by rw [returned]; exact ShutdownPhase.noConfusion)
    unfold submitWithIdempotency
    rw [closed]
    rfl

/-- One prompt is answered, the other is in a call when the grace window ends. -/
def cutShort : List Label :=
  [.work 0 .leave, .work 0 .enter, .work 0 .take, .work 0 .gate, .work 0 .suspend,
    .shutdown, .graceExpired, .work 0 (.reply .cancelled 0), .work 0 .leave, .shutdownReturned]

def interruptedOnce (outcome : List Event × Engine) : Bool :=
  outcome.2.shutdownPhase == .finished &&
    (outcome.2.store.get "a").any (fun job => job.state == .cancelled && job.completed == 1)

end EngineShutdown
end BatchInference
