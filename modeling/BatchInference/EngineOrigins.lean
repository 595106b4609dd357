/-
Where results come from.

A worker that is answered makes of the reply what `settle` says, and nothing else
records results. So every result is the settlement of the last reply to its item,
and the number of its attempt is the number of the replies.
-/

import BatchInference.EngineOutcomes

set_option autoImplicit false

namespace BatchInference
namespace EngineOrigins

open Engine EngineItems EngineOutcomes

variable {p : Params} {events emitted : List Event} {e e' : Engine} {label : Label}
  {jobId : JobId}

/-! ### Steps with a reply -/

/-- The store after a reply to the call for `f` was settled. -/
def storeAfter (f : InFlight) (e : Engine) : Settlement → InMemoryJobStore
  | .retry _ => e.store.update f.jobId Job.retried
  | .record result cost credited exhausted => (e.record f result cost credited exhausted).store
  | .lost _ => e.store
  | .cancelled => e.store

/-- A reply to a job is heard by the worker that has called for one of its items. -/
structure Heard (p : Params) (e : Engine) (label : Label) (e' : Engine) (emitted : List Event)
    (task : TaskId) (w : Worker) (f : InFlight) (reply : Reply) (jitter : ℚ) : Prop where
  isReply : label = .work task (.reply reply jitter)
  found : e.workers.get? task = some w
  calling : ∃ suspended, w.loc = .calling f suspended
  shown : emitted = [.replied f.jobId f.item.seq reply]
  store : e'.store = storeAfter f e (settle p.settings f.item f.attempt jitter reply)

theorem Heard.asking {task : TaskId} {w : Worker} {f : InFlight} {reply : Reply} {jitter : ℚ}
    (heard : Heard p e label e' emitted task w f reply jitter) : w.loc.asking = some f := by
  obtain ⟨suspended, at_⟩ := heard.calling
  rw [at_]
  rfl

theorem heard_of_step (step : Step p e label e' emitted)
    (answered : ¬Unanswered jobId emitted) :
    ∃ task w f reply jitter, f.jobId = jobId ∧
      Heard p e label e' emitted task w f reply jitter := by
  have mine : ∀ {f : InFlight} {reply : Reply},
      ¬Unanswered jobId [Event.replied f.jobId f.item.seq reply] → f.jobId = jobId := by
    intro f reply spoken
    by_contra other
    apply spoken
    intro seq reply' member
    rw [List.mem_singleton] at member
    injection member with same
    exact other same.symm
  cases step with
  | worked task action w g flag loc emitted found lowered work =>
      cases work with
      | retried f before at_ alone reply jitter seconds settled =>
          refine ⟨task, w, f, reply, jitter, mine answered, rfl, found, ⟨before, at_⟩, rfl, ?_⟩
          rw [settled]
          rfl
      | recorded f before at_ alone reply jitter result cost credited exhausted settled =>
          refine ⟨task, w, f, reply, jitter, mine answered, rfl, found, ⟨before, at_⟩, rfl, ?_⟩
          rw [settled]
          rfl
      | lost f before at_ alone reply jitter credited settled =>
          refine ⟨task, w, f, reply, jitter, mine answered, rfl, found, ⟨before, at_⟩, rfl, ?_⟩
          rw [settled]
          rfl
      | callCancelled f before at_ alone reply jitter settled =>
          refine ⟨task, w, f, reply, jitter, mine answered, rfl, found, ⟨before, at_⟩, rfl, ?_⟩
          rw [settled]
          rfl
      | _ => exact (answered (fun _ _ member => by simp at member)).elim
  | _ => exact (answered (fun _ _ member => by simp at member)).elim

/-! ### Origins -/

/-- The result is what the last reply to its item was settled as. -/
def Origin (s : Settings) (jobId : JobId) (events : List Event) (seq : Nat)
    (result : InferenceResult) : Prop :=
  ∃ earlier reply jitter cost credited exhausted,
    repliesOf jobId seq events = earlier ++ [reply] ∧
      settle s { seq := seq, id := result.id, prompt := result.prompt } (earlier.length + 1)
        jitter reply = .record result cost credited exhausted

/-- Every result of the store has an origin. -/
def Originated (s : Settings) (events : List Event) (e : Engine) : Prop :=
  ∀ jobId job, e.store.get jobId = some job →
    ∀ seq result, job.results.get? seq = some result → Origin s jobId events seq result

theorem Origin.later {s : Settings} {seq : Nat} {result : InferenceResult}
    (origin : Origin s jobId events seq result) (silent : repliesOf jobId seq emitted = []) :
    Origin s jobId (events ++ emitted) seq result := by
  unfold Origin at origin ⊢
  rw [repliesOf_append, silent, List.append_nil]
  exact origin

/-- An item that is asked for has been answered once for each earlier attempt. -/
theorem answers_of_asking (followed : Followed p.settings events e) {task : TaskId} {w : Worker}
    {f : InFlight} (found : e.workers.get? task = some w) (asks : w.loc.asking = some f)
    {job : Job} (present : e.store.get f.jobId = some job) :
    (repliesOf f.jobId f.item.seq events).length + 1 = f.attempt := by
  rcases followed.known f.jobId job present with ⟨prompts, _, tracked⟩
  rcases tracked.asking task w f found asks rfl with ⟨retries, attempt, asking⟩
  rw [attempt, Verdict.length_of_asking asking]

theorem unrecorded_of_asking (ledger : Ledger False events e) {task : TaskId} {w : Worker}
    {f : InFlight} (found : e.workers.get? task = some w) (asks : w.loc.asking = some f)
    {job : Job} (present : e.store.get f.jobId = some job) :
    job.results.get? f.item.seq = none := by
  rcases ledger.known f.jobId job present with ⟨prompts, lost, account⟩
  exact account.unrecorded (mem_held_of_asking found asks rfl)

theorem job_of_heard {task : TaskId} {w : Worker} {f : InFlight} {reply : Reply} {jitter : ℚ}
    (heard : Heard p e label e' emitted task w f reply jitter) {job job' : Job}
    (present : e.store.get f.jobId = some job) (present' : e'.store.get f.jobId = some job') :
    match settle p.settings f.item f.attempt jitter reply with
    | .retry _ => job' = job.retried
    | .record result cost _ _ => job' = job.advance f.item.seq result cost e.wallTime
    | _ => job' = job := by
  have store := heard.store
  have read : e.store.jobs.get? f.jobId = some job := present
  have read' : e'.store.jobs.get? f.jobId = some job' := present'
  rw [store] at read'
  cases settled : settle p.settings f.item f.attempt jitter reply with
  | retry seconds =>
      rw [settled, storeAfter, InMemoryJobStore.get?_update, if_pos rfl, read, Option.map_some,
        Option.some.injEq] at read'
      exact read'.symm
  | record result cost credited exhausted =>
      rw [settled, storeAfter, (record_jobs f result cost credited exhausted e).2, if_pos rfl,
        read, Option.map_some, Option.some.injEq] at read'
      exact read'.symm
  | lost credited =>
      rw [settled, storeAfter, read, Option.some.injEq] at read'
      exact read'.symm
  | cancelled =>
      rw [settled, storeAfter, read, Option.some.injEq] at read'
      exact read'.symm

/-- The results of a job after a reply to it: at most the one to the item is new. -/
theorem results_of_heard {task : TaskId} {w : Worker} {f : InFlight} {reply : Reply} {jitter : ℚ}
    (heard : Heard p e label e' emitted task w f reply jitter) {job job' : Job}
    (present : e.store.get f.jobId = some job) (present' : e'.store.get f.jobId = some job') :
    match settle p.settings f.item f.attempt jitter reply with
    | .record result _ _ _ => job'.results = job.results.set f.item.seq result
    | _ => job'.results = job.results := by
  have after := job_of_heard heard present present'
  cases settled : settle p.settings f.item f.attempt jitter reply with
  | record result cost credited exhausted =>
      simp only [settled] at after
      rw [after]
      exact (advance_fields f.item.seq result cost e.wallTime job).2.2.2.2.1
  | retry seconds =>
      simp only [settled] at after
      rw [after]
      rfl
  | _ =>
      simp only [settled] at after
      rw [after]

theorem unheard_of_recorded (ledger : Ledger False events e) (step : Step p e label e' emitted)
    {job : Job} (found : e.store.get jobId = some job) {seq : Nat} {result : InferenceResult}
    (read : job.results.get? seq = some result) : repliesOf jobId seq emitted = [] := by
  by_cases silent : Unanswered jobId emitted
  · exact repliesOf_unanswered silent seq
  · obtain ⟨task, w, f, reply, jitter, rfl, heard⟩ := heard_of_step step silent
    have absent := unrecorded_of_asking ledger heard.found heard.asking found
    have other : f.item.seq ≠ seq := by
      intro same
      rw [same, read] at absent
      cases absent
    rw [heard.shown]
    simp [repliesOf, replyTo, other]

theorem Originated.next (originated : Originated p.settings events e)
    (ledger : Ledger False events e) (followed : Followed p.settings events e)
    (step : Step p e label e' emitted) : Originated p.settings (events ++ emitted) e' := by
  intro jobId job' found' seq result read
  rcases step.job found' with ⟨job, found, change⟩ | ⟨_, prompts, priority, key, _, rfl⟩
  · have older : job.results.get? seq = some result →
        Origin p.settings jobId (events ++ emitted) seq result := fun old =>
      (originated jobId job found seq result old).later
        (unheard_of_recorded ledger step found old)
    by_cases silent : Unanswered jobId emitted
    · rw [(sameTally_of_unanswered change silent).results] at read
      exact older read
    · obtain ⟨task, w, f, reply, jitter, rfl, heard⟩ := heard_of_step step silent
      have results := results_of_heard heard found found'
      cases settled : settle p.settings f.item f.attempt jitter reply with
      | record recorded cost credited exhausted =>
          simp only [settled] at results
          rw [results, Dict.get?_set] at read
          by_cases same : seq = f.item.seq
          · rw [if_pos same, Option.some.injEq] at read
            subst read
            rcases settle_record settled with ⟨sameId, samePrompt⟩
            refine ⟨repliesOf f.jobId seq events, reply, jitter, cost, credited, exhausted, ?_, ?_⟩
            · rw [repliesOf_append, heard.shown, same]
              simp [repliesOf, replyTo]
            · rw [sameId, samePrompt, same, answers_of_asking followed heard.found heard.asking
                found]
              exact settled
          · rw [if_neg same] at read
            exact older read
      | _ =>
          simp only [settled] at results
          rw [results] at read
          exact older read
  · cases read

theorem reachable_originated {ok : Engine → Label → Engine → Prop}
    (run : (engineMachine p).Reaches ok events e) : Originated p.settings events e := by
  refine followed_invariant run (Originated p.settings) ?_ ?_
  · intro _ _ impossible
    cases impossible
  · intro _ _ _ _ _ originated ledger followed _ _ step
    exact originated.next ledger followed step

end EngineOrigins
end BatchInference
