/-
What a self-test knows at each of its stages, beside other clients.

As long as its submissions are admitted and its jobs go through, the locals of the
coroutine and the state of its own two jobs determine each other, whatever the engine
does for others while the test sleeps.
-/

import BatchInference.SelfTest
import BatchInference.EngineIdempotency
import BatchInference.EngineAdmission
import BatchInference.EngineCompletion
import BatchInference.EnginePermits

set_option autoImplicit false

namespace BatchInference
namespace SelfTest

open Engine EngineItems EngineCompletion EnginePermits

variable {p : Params} {n : Int} {opened e e' : Engine} {events emitted : List Event}
  {jobId newId : JobId}

/-! ### What is promised to the test -/

/-- Both submissions bring a new job, the first one within the limit. -/
structure Admitted (s s' : Engine × Stage) : Prop where
  primary : ∀ l jobId, s.2 = .begun l → s'.2 = .acknowledged l jobId →
    s.1.store.get jobId = none
  fairness : ∀ l roundtrip pair, s.2 = .pairing l roundtrip → s'.2 = .paired pair →
    s.1.store.get pair.fairId = none
  inTime : ∀ l, s'.2 = .duplicating l → l.ackMs < 500

/-- The job has ended when its deadline is over, and then all its prompts have succeeded. -/
def InTime (jobId : JobId) (deadline : ℚ) (e : Engine) : Prop :=
  ∀ job, e.store.get jobId = some job →
    (deadline < e.loopTime → isOpen job.state = false) ∧
      (isOpen job.state = false → job.state = .completed ∧ job.succeeded = job.total)

/-- The job that is polled is in time. -/
def Punctual (s : Engine × Stage) : Prop :=
  match s.2 with
  | .watching l deadline _ _ => InTime l.jobId deadline s.1
  | .waiting l deadline _ => InTime l.fairId deadline s.1
  | _ => True

/-- Nothing that the test itself has asked for goes wrong. -/
def Untroubled (s : Engine × Stage) (_ : TestLabel) (s' : Engine × Stage) : Prop :=
  Admitted s s' ∧ Punctual s'

/-! ### Single jobs -/

/-- The job is in the store, with this number of prompts. -/
def Owns (e : Engine) (jobId : JobId) (total : Nat) : Prop :=
  ∃ job, e.store.get jobId = some job ∧ job.total = total

def Unfinished (e : Engine) (jobId : JobId) : Prop :=
  ∃ job, e.store.get jobId = some job ∧ isOpen job.state = true

/-- The job is completed, and all its prompts have succeeded. -/
def Fulfilled (e : Engine) (jobId : JobId) : Prop :=
  ∃ job, e.store.get jobId = some job ∧ job.state = .completed ∧ job.total ≤ job.succeeded

theorem grows_of_step {label : Label} {job job' : Job}
    (change : JobStep e label emitted jobId job job') :
    job'.total = job.total ∧ job.succeeded ≤ job'.succeeded := by
  cases change with
  | advanced seq result cost silent answered =>
      obtain ⟨total, _, succeeded, _⟩ := advance_fields seq result cost e.wallTime job
      exact ⟨total, succeeded ▸ Nat.le_add_right _ _⟩
  | _ => exact ⟨rfl, le_refl _⟩

theorem Owns.next {label : Label} {total : Nat} (owns : Owns e jobId total)
    (step : Step p e label e' emitted) : Owns e' jobId total := by
  obtain ⟨job, found, counted⟩ := owns
  obtain ⟨job', found', change⟩ := step.job_stays found
  exact ⟨job', found', (grows_of_step change).1.trans counted⟩

theorem Fulfilled.next {label : Label} (fulfilled : Fulfilled e jobId)
    (step : Step p e label e' emitted) : Fulfilled e' jobId := by
  obtain ⟨job, found, completed, all⟩ := fulfilled
  obtain ⟨job', found', change⟩ := step.job_stays found
  obtain ⟨total, succeeded⟩ := grows_of_step change
  have closed : isOpen job.state = false := by
    rw [completed]
    rfl
  refine ⟨job', found', ?_, ?_⟩
  · rw [(lasting_of_step change).state closed, completed]
  · omega

/-- A fulfilled job has as many results as prompts, all of them successes. -/
theorem Fulfilled.counters {total : Nat} (fulfilled : Fulfilled e jobId)
    (owns : Owns e jobId total) (run : (engineMachine p).Reaches Machine.anyStep events e) :
    ∃ job, e.store.get jobId = some job ∧ job.state = .completed ∧ job.total = total ∧
      job.completed = total ∧ job.succeeded = total ∧ job.failed = 0 := by
  obtain ⟨job, found, completed, all⟩ := fulfilled
  obtain ⟨other, known, counted⟩ := owns
  rw [found, Option.some.injEq] at known
  subst known
  obtain ⟨_, _, account⟩ := (reachable_ledger False
    (fun _ _ _ _ impossible => impossible.elim) run).known jobId job found
  have atMost := account.completed_le
  have sum := account.counted.completed
  exact ⟨job, found, completed, counted, by omega, by omega, by omega⟩

/-! ### Submissions -/

/-- A job that was not in the store before has just been registered. -/
theorem registered_of_new {prompts : List PromptItem} {priority : Priority} {key : Option String}
    {reused : Bool} (stored : e.Stored)
    (answered : (e.submitWithIdempotency p prompts priority key newId).2 = .job jobId reused)
    (new : e.store.get jobId = none) :
    e.accepting = true ∧ jobId = newId ∧
      (e.submitWithIdempotency p prompts priority key newId).1 =
        e.register p prompts priority key newId := by
  rcases submit_cases p prompts priority key newId e with ⟨_, notNew⟩ |
    ⟨accepting, _, _, _, admitted⟩
  · have accepting : e.accepting = true := by
      by_contra closed
      rw [Bool.not_eq_true] at closed
      unfold submitWithIdempotency at answered
      simp only [closed, Bool.not_false, if_true] at answered
      cases answered
    -- Without a match among the keys the job would be new, and a match is in the store.
    cases matched : e.existingJob key with
    | none =>
        rcases EngineIdempotency.submit_unknown accepting matched with
          ⟨_, _, refused, _⟩ | admitted
        · rw [refused] at answered
          cases answered
        · exact absurd (congrArg Prod.snd admitted) (notNew newId)
    | some existing =>
        cases key with
        | none => cases matched
        | some key =>
            rw [EngineIdempotency.submit_known accepting matched] at answered
            split at answered
            · injection answered with same
              have present := EngineIdempotency.stored_of_existingJob stored matched
              rw [same, new] at present
              cases present
            · cases answered
  · rw [admitted] at answered ⊢
    injection answered with same
    exact ⟨accepting, same.symm, rfl⟩

/-- What a submission of the coroutine does. -/
theorem submitting_cases {prompts : List PromptItem} {priority : Priority} {key : String}
    {next : JobId → Bool → Stage} {s' : Engine × Stage}
    (submitted : submitting p prompts priority key newId e next = some (s', emitted)) :
    newId ≠ "" ∧ e.store.get newId = none ∧
      s'.1 = (e.submitWithIdempotency p prompts priority (some key) newId).1 ∧
      emitted = [.submitted prompts priority (some key)
        (e.submitWithIdempotency p prompts priority (some key) newId).2] ∧
      ((∃ jobId reused, (e.submitWithIdempotency p prompts priority (some key) newId).2 =
          .job jobId reused ∧ s'.2 = next jobId reused) ∨
        ∃ result, s'.2 = .refused result) := by
  unfold submitting at submitted
  split at submitted
  · rename_i guard
    rw [Bool.and_eq_true, Bool.not_eq_true', Bool.not_eq_true'] at guard
    simp only [Option.some.injEq, Prod.mk.injEq] at submitted
    obtain ⟨rfl, rfl⟩ := submitted
    refine ⟨?_, ?_, rfl, rfl, ?_⟩
    · rw [← String.isEmpty_eq_false_iff]
      exact guard.1
    · have absent := guard.2
      unfold Dict.contains at absent
      rw [Option.isSome_eq_false_iff, Option.isNone_iff_eq_none] at absent
      exact absent
    · simp only
      split
      · rename_i jobId reused answered
        exact Or.inl ⟨jobId, reused, answered, rfl⟩
      · exact Or.inr ⟨_, rfl⟩
  · cases submitted

/-! ### Pieces and steps -/

/-- A piece leaves the engine alone, or it is one submission. -/
theorem engine_of_piece {uuid : String} {stage : Stage} {s' : Engine × Stage}
    (quiet : e.atAwait = true) (resumed : resume p n uuid e stage = some (s', emitted)) :
    s'.1 = e ∧ emitted = [] ∨
      ∃ label, (engineMachine p).step e label = some (s'.1, emitted) := by
  have submission : ∀ {prompts priority key next},
      submitting p prompts priority key uuid e next = some (s', emitted) →
        ∃ label, (engineMachine p).step e label = some (s'.1, emitted) := by
    intro prompts priority key next submitted
    obtain ⟨named, fresh, same, shown, _⟩ := submitting_cases submitted
    refine ⟨.submit prompts priority (some key) uuid, ?_⟩
    rw [same, shown]
    exact EngineAdmission.step_of_requests (.submit _ _ _ _) quiet named fresh
  have alone : ∀ {stage'}, some ((e, stage'), ([] : List Event)) = some (s', emitted) →
      s'.1 = e ∧ emitted = [] := by
    intro stage' same
    cases same
    exact ⟨rfl, rfl⟩
  have readOnly : ∀ {Read : Type} {read : Option Read} {stage' : Read → Stage},
      read.map (fun found => ((e, stage' found), ([] : List Event))) = some (s', emitted) →
        s'.1 = e ∧ emitted = [] := by
    intro Read read stage' same
    obtain ⟨found, _, same⟩ := Option.map_eq_some_iff.mp same
    cases same
    exact ⟨rfl, rfl⟩
  cases stage with
  | created => exact Or.inl (alone resumed)
  | begun l => exact Or.inr (submission resumed)
  | acknowledged l jobId => exact Or.inl (alone resumed)
  | duplicating l => exact Or.inr (submission resumed)
  | pairing l roundtrip => exact Or.inr (submission resumed)
  | paired l => exact Or.inl (alone resumed)
  | watching l deadline peak turn =>
      cases turn with
      | looking => exact Or.inl (readOnly resumed)
      | testing => exact Or.inl (alone resumed)
      | sleeping until_ => exact Or.inl (readOnly resumed)
      | left => exact Or.inl (alone resumed)
  | measured l => exact Or.inl (alone resumed)
  | waiting l deadline turn =>
      cases turn with
      | looking =>
          simp only [resume] at resumed
          split at resumed
          · exact Or.inl (alone resumed)
          · exact Or.inl (alone resumed)
      | testing => exact Or.inl (alone resumed)
      | sleeping until_ => exact Or.inl (readOnly resumed)
      | left => exact Or.inl (alone resumed)
  | evaluating l fairJob => exact Or.inl (readOnly resumed)
  | returned report => cases resumed
  | refused result => cases resumed
  | zeroDivision => cases resumed

/-- What one step of the two can be. -/
theorem test_step {s s' : Engine × Stage} {label : TestLabel}
    (stepped : (selfTestMachine p n opened).step s label = some (s', emitted)) :
    (∃ engineLabel, (s.2.holdsLoop = true → isTick engineLabel = true) ∧
        (engineMachine p).step s.1 engineLabel = some (s'.1, emitted) ∧ s'.2 = s.2) ∨
      ∃ uuid, s.1.atAwait = true ∧ resume p n uuid s.1 s.2 = some (s', emitted) := by
  cases label with
  | engine label =>
      simp only [selfTestMachine] at stepped
      split at stepped
      · cases stepped
      · rename_i free
        obtain ⟨next, moved, same⟩ := Option.map_eq_some_iff.mp stepped
        cases same
        refine Or.inl ⟨label, ?_, moved, rfl⟩
        intro holds
        rw [holds, Bool.true_and, Bool.not_eq_true, Bool.not_eq_false'] at free
        exact free
  | resume uuid =>
      simp only [selfTestMachine] at stepped
      split at stepped
      · rename_i quiet
        exact Or.inr ⟨uuid, quiet, stepped⟩
      · cases stepped

/-- A run of the two is a run of the engine with one more client. -/
theorem engine_run {ok : Engine × Stage → TestLabel → Engine × Stage → Prop}
    {s s' : Engine × Stage} (run : (selfTestMachine p n opened).Run ok s events s') :
    (engineMachine p).Run Machine.anyStep s.1 events s'.1 := by
  induction run with
  | refl => exact .refl
  | tail _ _ stepped ih =>
      rcases test_step stepped with ⟨label, _, moved, _⟩ | ⟨uuid, quiet, resumed⟩
      · exact ih.snoc label trivial moved
      · rcases engine_of_piece quiet resumed with ⟨same, rfl⟩ | ⟨label, moved⟩
        · rw [same, List.append_nil]
          exact ih
        · exact ih.snoc label trivial moved

/-! ### What the test knows at each stage -/

/-- The first locals. -/
structure Begins (n : Int) (e : Engine) (l : Begun) : Prop where
  size : l.n = clamp n
  started : l.t0 ≤ e.loopTime

/-- The primary job is running under its key. -/
structure Registers (p : Params) (e : Engine) (l : Begun) (jobId : JobId) : Prop where
  accepting : e.accepting = true
  owns : Owns e jobId l.n
  unfinished : Unfinished e jobId
  keyed : ∃ job, e.existingJob (some (primaryKey l.runId)) = some job ∧ job.id = jobId ∧
    job.requestFingerprint = some (p.fingerprint (primaryPrompts l.n) .low)

/-- Both jobs are the test's own, and the first two checks hold. -/
structure Pairs (n : Int) (e : Engine) (l : Paired) : Prop where
  size : l.n = clamp n
  acked : l.ackMs < 500
  roundtrip : l.roundtrip = true
  primary : Owns e l.jobId l.n
  fairness : Owns e l.fairId (max 5 (l.n / 5))

/-- The first loop has been left with the job fulfilled, after at least one sleep. -/
structure Measures (p : Params) (n : Int) (e : Engine) (l : Measured) : Prop where
  pairs : Pairs n e l.toPaired
  peak : l.peakInflight ≤ max 0 p.settings.globalMaxConcurrency
  elapsed : 0 < l.elapsed
  fulfilled : Fulfilled e l.jobId

/-- On the primary job: the first turn finds it unfinished, so the loop sleeps once. -/
def Watches (e : Engine) (l : Paired) : Turn → Prop
  | .looking => l.t0 ≤ e.loopTime ∧ (Unfinished e l.jobId ∨ l.t0 + 1 / 10 ≤ e.loopTime)
  | .testing => l.t0 ≤ e.loopTime ∧ Unfinished e l.jobId
  | .sleeping until_ => l.t0 + 1 / 10 ≤ until_
  | .left => l.t0 + 1 / 10 ≤ e.loopTime ∧ Fulfilled e l.jobId

def Waits (e : Engine) (l : Measured) : Turn → Prop
  | .testing => Unfinished e l.fairId
  | .left => Fulfilled e l.fairId
  | _ => True

/-- What holds as long as nothing of the test itself goes wrong. -/
def Facts (p : Params) (n : Int) (e : Engine) : Stage → Prop
  | .begun l => Begins n e l
  | .acknowledged l jobId => Begins n e l ∧ Registers p e l jobId
  | .duplicating l => Begins n e l.toBegun ∧ Registers p e l.toBegun l.jobId ∧ l.ackMs < 500
  | .pairing l roundtrip =>
      Begins n e l.toBegun ∧ Owns e l.jobId l.n ∧ Unfinished e l.jobId ∧ l.ackMs < 500 ∧
        roundtrip = true
  | .paired l => Pairs n e l ∧ l.t0 ≤ e.loopTime ∧ Unfinished e l.jobId
  | .watching l _ peak turn =>
      Pairs n e l ∧ peak ≤ max 0 p.settings.globalMaxConcurrency ∧ Watches e l turn
  | .measured l => Measures p n e l
  | .waiting l _ turn => Measures p n e l ∧ Waits e l turn
  | .evaluating l fairJob =>
      Measures p n e l ∧ fairJob = some l.fairId ∧ Fulfilled e l.fairId ∧ e.atAwait = true
  | _ => True

theorem Pairs.next {label : Label} {l : Paired} (pairs : Pairs n e l)
    (step : Step p e label e' emitted) : Pairs n e' l :=
  { pairs with
    primary := pairs.primary.next step
    fairness := pairs.fairness.next step }

theorem Measures.next {label : Label} {l : Measured} (measures : Measures p n e l)
    (step : Step p e label e' emitted) : Measures p n e' l :=
  { measures with
    pairs := measures.pairs.next step
    fulfilled := measures.fulfilled.next step }

/-- Time passes while the test keeps the event loop. -/
theorem facts_tick {stage : Stage} (facts : Facts p n e stage) {loopTime : ℚ} (wallTime : ℚ)
    (later : e.loopTime ≤ loopTime) :
    Facts p n
      { e with
        loopTime := loopTime
        wallTime := wallTime } stage := by
  have began : ∀ {l : Begun}, Begins n e l → Begins n
      { e with
        loopTime := loopTime
        wallTime := wallTime } l :=
    fun begins => ⟨begins.size, begins.started.trans later⟩
  have registered : ∀ {l : Begun} {jobId : JobId}, Registers p e l jobId → Registers p
      { e with
        loopTime := loopTime
        wallTime := wallTime } l jobId :=
    fun registers => ⟨registers.accepting, registers.owns, registers.unfinished, registers.keyed⟩
  have paired : ∀ {l : Paired}, Pairs n e l → Pairs n
      { e with
        loopTime := loopTime
        wallTime := wallTime } l :=
    fun pairs => ⟨pairs.size, pairs.acked, pairs.roundtrip, pairs.primary, pairs.fairness⟩
  have measured : ∀ {l : Measured}, Measures p n e l → Measures p n
      { e with
        loopTime := loopTime
        wallTime := wallTime } l :=
    fun measures => ⟨paired measures.pairs, measures.peak, measures.elapsed, measures.fulfilled⟩
  cases stage with
  | begun l => exact began facts
  | acknowledged l jobId => exact ⟨began facts.1, registered facts.2⟩
  | duplicating l => exact ⟨began facts.1, registered facts.2.1, facts.2.2⟩
  | pairing l roundtrip => exact ⟨began facts.1, facts.2⟩
  | paired l => exact ⟨paired facts.1, facts.2.1.trans later, facts.2.2⟩
  | watching l deadline peak turn =>
      obtain ⟨pairs, bounded, watches⟩ := facts
      refine ⟨paired pairs, bounded, ?_⟩
      cases turn with
      | looking =>
          refine ⟨watches.1.trans later, ?_⟩
          rcases watches.2 with unfinished | slept
          · exact Or.inl unfinished
          · exact Or.inr (slept.trans later)
      | testing => exact ⟨watches.1.trans later, watches.2⟩
      | sleeping until_ => exact watches
      | left => exact ⟨watches.1.trans later, watches.2⟩
  | measured l => exact measured facts
  | waiting l deadline turn =>
      refine ⟨measured facts.1, ?_⟩
      cases turn with
      | looking => trivial
      | testing => exact facts.2
      | sleeping until_ => trivial
      | left => exact facts.2
  | evaluating l fairJob => exact ⟨measured facts.1, facts.2⟩
  | _ => trivial

/-- While the test sleeps, the engine does whatever its other clients make it do. -/
theorem facts_engine {stage : Stage} {label : Label} (facts : Facts p n e stage)
    (step : Step p e label e' emitted) (asleep : stage.holdsLoop = true → isTick label = true) :
    Facts p n e' stage := by
  cases holds : stage.holdsLoop with
  | true =>
      have ticks := asleep holds
      cases step with
      | tick loopTime wallTime later => exact facts_tick facts wallTime later
      | unchanged label serves => exact facts
      | submitted label prompts priority key newId requested quiet named fresh =>
          cases requested with
          | submit => cases ticks
          | replay jobId priority newId job found failures => cases ticks
      | _ => cases ticks
  | false =>
      cases stage with
      | watching l deadline peak turn =>
          cases turn with
          | sleeping until_ => exact ⟨facts.1.next step, facts.2⟩
          | _ => cases holds
      | waiting l deadline turn =>
          cases turn with
          | sleeping until_ => exact ⟨facts.1.next step, trivial⟩
          | _ => cases holds
      | created => trivial
      | returned report => trivial
      | refused result => trivial
      | zeroDivision => trivial
      | _ => cases holds

/-! ### What one piece makes of it -/

variable {uuid : String} {s' : Engine × Stage}

theorem owns_register {prompts : List PromptItem} {priority : Priority} {key : Option String} :
    Owns (e.register p prompts priority key newId) newId prompts.length ∧
      Unfinished (e.register p prompts priority key newId) newId := by
  have found : (e.register p prompts priority key newId).store.get newId =
      some (e.admittedJob p prompts priority key newId) :=
    (register_jobs p prompts priority key newId e newId).trans (if_pos rfl)
  exact ⟨⟨_, found, rfl⟩, ⟨_, found, rfl⟩⟩

theorem get_register {prompts : List PromptItem} {priority : Priority} {key : Option String}
    {job : Job} (found : e.store.get jobId = some job) (fresh : e.store.get newId = none) :
    (e.register p prompts priority key newId).store.get jobId = some job := by
  have other : jobId ≠ newId := by
    rintro rfl
    rw [found] at fresh
    cases fresh
  exact (register_jobs p prompts priority key newId e jobId).trans ((if_neg other).trans found)

theorem length_makePrompts (tag : String) (count : Nat) : (makePrompts tag count).length = count := by
  unfold makePrompts
  rw [List.length_map, List.length_range]

theorem primaryKey_ne (runId : String) : primaryKey runId ≠ "" := by
  intro empty
  have characters := congrArg String.toList empty
  rw [primaryKey, String.toList_append] at characters
  exact absurd (List.append_eq_nil_iff.mp characters).1 (by decide)

theorem facts_begun {l : Begun} (begins : Begins n e l) (stored : e.Stored)
    (resumed : resume p n uuid e (.begun l) = some (s', emitted))
    (admitted : Admitted (e, .begun l) s') : Facts p n s'.1 s'.2 := by
  obtain ⟨named, fresh, same, _, answer⟩ := submitting_cases resumed
  rcases answer with ⟨jobId, reused, answered, at_⟩ | ⟨result, at_⟩
  · obtain ⟨accepting, rfl, registered⟩ :=
      registered_of_new stored answered (admitted.primary l jobId rfl at_)
    rw [at_, same, registered]
    obtain ⟨owns, unfinished⟩ := @owns_register p e jobId (primaryPrompts l.n) .low
      (some (primaryKey l.runId))
    refine ⟨⟨begins.size, ?_⟩, ⟨?_, ?_, unfinished, ?_⟩⟩
    · simp only [register_frame]
      exact begins.started
    · simp only [register_frame]
      exact accepting
    · rw [primaryPrompts, length_makePrompts] at owns
      exact owns
    · exact ⟨_, EngineIdempotency.existingJob_register (primaryKey_ne l.runId) named, rfl, rfl⟩
  · rw [at_]
    trivial

theorem facts_duplicating {l : Acked} (facts : Facts p n e (.duplicating l))
    (resumed : resume p n uuid e (.duplicating l) = some (s', emitted)) :
    Facts p n s'.1 s'.2 := by
  obtain ⟨begins, registers, acked⟩ := facts
  obtain ⟨job, keyed, mine, hashed⟩ := registers.keyed
  obtain ⟨_, _, same, _, answer⟩ := submitting_cases resumed
  rw [EngineIdempotency.submit_known registers.accepting keyed, if_pos hashed] at same answer
  rcases answer with ⟨jobId, reused, answered, at_⟩ | ⟨result, at_⟩
  · injection answered with sameJob sameReuse
    subst sameJob sameReuse
    rw [at_, same]
    refine ⟨⟨begins.size, begins.started⟩, registers.owns, registers.unfinished, acked, ?_⟩
    rw [mine, Bool.true_and, beq_self_eq_true]
  · rw [at_]
    trivial

theorem facts_pairing {l : Acked} {roundtrip : Bool} (facts : Facts p n e (.pairing l roundtrip))
    (stored : e.Stored) (resumed : resume p n uuid e (.pairing l roundtrip) = some (s', emitted))
    (admitted : Admitted (e, .pairing l roundtrip) s') : Facts p n s'.1 s'.2 := by
  obtain ⟨begins, ⟨job, found, total⟩, ⟨other, known, unfinished⟩, acked, matched⟩ := facts
  obtain ⟨_, fresh, same, _, answer⟩ := submitting_cases resumed
  rcases answer with ⟨fairId, reused, answered, at_⟩ | ⟨result, at_⟩
  · obtain ⟨_, rfl, registered⟩ :=
      registered_of_new stored answered (admitted.fairness l roundtrip _ rfl at_)
    rw [at_, same, registered]
    have owns := (@owns_register p e fairId (fairnessPrompts l.n) .normal
      (some (fairnessKey l.runId))).1
    rw [fairnessPrompts, length_makePrompts] at owns
    refine ⟨⟨begins.size, acked, matched, ⟨job, get_register found fresh, total⟩, owns⟩, ?_,
      ⟨other, get_register known fresh, unfinished⟩⟩
    simp only [register_frame]
    exact begins.started
  · rw [at_]
    trivial

/-- A job in time is fulfilled once it has ended. -/
theorem InTime.fulfilled {deadline : ℚ} (inTime : InTime jobId deadline e) {job : Job}
    (found : e.store.get jobId = some job) (ended : isOpen job.state = false) :
    Fulfilled e jobId := by
  obtain ⟨completed, all⟩ := (inTime job found).2 ended
  exact ⟨job, found, completed, all.ge⟩

/-- A job in time that is unfinished keeps the loop from giving up. -/
theorem InTime.early {deadline : ℚ} (inTime : InTime jobId deadline e)
    (unfinished : Unfinished e jobId) : ¬deadline < e.loopTime := by
  obtain ⟨job, found, still⟩ := unfinished
  intro late
  rw [(inTime job found).1 late] at still
  cases still

theorem facts_watching {l : Paired} {deadline : ℚ} {peak : Int} {turn : Turn}
    (facts : Facts p n e (.watching l deadline peak turn))
    (used : e.limiter.inUse ≤ max 0 p.settings.globalMaxConcurrency)
    (resumed : resume p n uuid e (.watching l deadline peak turn) = some (s', emitted))
    (before : InTime l.jobId deadline e) : Facts p n s'.1 s'.2 := by
  obtain ⟨pairs, bounded, watches⟩ := facts
  cases turn with
  | looking =>
      obtain ⟨job, found, same⟩ := Option.map_eq_some_iff.mp resumed
      cases same
      refine ⟨pairs, max_le bounded used, ?_⟩
      unfold Turn.seen
      split
      · rename_i unfinished
        exact ⟨watches.1, ⟨job, found, unfinished⟩⟩
      · rename_i ended
        rw [Bool.not_eq_true] at ended
        refine ⟨?_, before.fulfilled found ended⟩
        rcases watches.2 with ⟨other, known, unfinished⟩ | slept
        · rw [found, Option.some.injEq] at known
          rw [← known, ended] at unfinished
          cases unfinished
        · exact slept
  | testing =>
      obtain ⟨started, unfinished⟩ := watches
      cases resumed
      rw [if_neg (before.early unfinished)]
      refine ⟨pairs, bounded, ?_⟩
      change l.t0 + 1 / 10 ≤ e.loopTime + 1 / 10
      linarith
  | sleeping until_ =>
      obtain ⟨turn, woken, same⟩ := Option.map_eq_some_iff.mp resumed
      cases same
      simp only [Turn.next] at woken
      split at woken
      · rename_i reached
        cases woken
        have slept : l.t0 + 1 / 10 ≤ e.loopTime := le_trans watches reached
        exact ⟨pairs, bounded, by linarith, Or.inr slept⟩
      · cases woken
  | left =>
      cases resumed
      have elapsed : 0 < e.loopTime - l.t0 := by
        have slept := watches.1
        linarith
      exact ⟨⟨pairs.size, pairs.acked, pairs.roundtrip, pairs.primary, pairs.fairness⟩, bounded,
        elapsed, watches.2⟩

theorem facts_waiting {l : Measured} {deadline : ℚ} {turn : Turn}
    (facts : Facts p n e (.waiting l deadline turn)) (quiet : e.atAwait = true)
    (resumed : resume p n uuid e (.waiting l deadline turn) = some (s', emitted))
    (before : InTime l.fairId deadline e) : Facts p n s'.1 s'.2 := by
  obtain ⟨measures, waits⟩ := facts
  cases turn with
  | looking =>
      obtain ⟨job, found, _⟩ := measures.pairs.fairness
      simp only [resume, found] at resumed
      cases resumed
      refine ⟨measures, ?_⟩
      unfold Turn.seen
      split
      · rename_i unfinished
        exact ⟨job, found, unfinished⟩
      · rename_i ended
        rw [Bool.not_eq_true] at ended
        exact before.fulfilled found ended
  | testing =>
      cases resumed
      rw [if_neg (before.early waits)]
      exact ⟨measures, trivial⟩
  | sleeping until_ =>
      obtain ⟨turn, woken, same⟩ := Option.map_eq_some_iff.mp resumed
      cases same
      simp only [Turn.next] at woken
      split at woken
      · cases woken
        exact ⟨measures, trivial⟩
      · cases woken
  | left =>
      cases resumed
      exact ⟨measures, rfl, waits, quiet⟩

theorem facts_piece {stage : Stage} (facts : Facts p n e stage) (stored : e.Stored)
    (used : e.limiter.inUse ≤ max 0 p.settings.globalMaxConcurrency) (quiet : e.atAwait = true)
    (resumed : resume p n uuid e stage = some (s', emitted)) (punctual : Punctual (e, stage))
    (admitted : Admitted (e, stage) s') : Facts p n s'.1 s'.2 := by
  cases stage with
  | created =>
      cases resumed
      exact ⟨rfl, le_refl _⟩
  | begun l => exact facts_begun facts stored resumed admitted
  | acknowledged l jobId =>
      cases resumed
      exact ⟨facts.1, facts.2, admitted.inTime _ rfl⟩
  | duplicating l => exact facts_duplicating facts resumed
  | pairing l roundtrip => exact facts_pairing facts stored resumed admitted
  | paired l =>
      cases resumed
      exact ⟨facts.1, le_max_left _ _, facts.2.1, Or.inl facts.2.2⟩
  | watching l deadline peak turn => exact facts_watching facts used resumed punctual
  | measured l =>
      cases resumed
      exact ⟨facts, trivial⟩
  | waiting l deadline turn => exact facts_waiting facts quiet resumed punctual
  | evaluating l fairJob =>
      obtain ⟨job, _, same⟩ := Option.map_eq_some_iff.mp resumed
      cases same
      unfold evaluate
      simp only
      split
      · trivial
      · trivial
  | returned report => cases resumed
  | refused result => cases resumed
  | zeroDivision => cases resumed

/-- The facts hold in every run in which nothing of the test itself goes wrong. -/
theorem reachable_facts (factor_nonneg : 0 ≤ p.settings.adaptiveDecreaseFactor)
    (factor_le : p.settings.adaptiveDecreaseFactor ≤ 1)
    (run : (engineMachine p).Reaches Machine.anyStep events opened) {shown : List Event}
    {s : Engine × Stage} (testing : (selfTestMachine p n opened).Reaches Untroubled shown s) :
    Facts p n s.1 s.2 := by
  have engine : ∀ {shown : List Event} {s : Engine × Stage},
      (selfTestMachine p n opened).Reaches Untroubled shown s →
        s.1.Stored ∧ s.1.limiter.inUse ≤ max 0 p.settings.globalMaxConcurrency := by
    intro shown s testing
    have whole := run.trans (engine_run testing)
    exact ⟨reachable_stored whole, (reachable_capped
      (fun e label _ _ => throttleLowers_of_factor factor_nonneg factor_le e label) whole).used⟩
  have both : Facts p n s.1 s.2 ∧ Punctual s := by
    refine Machine.Run.invariant (testing.along _ engine)
      (fun _ s => Facts p n s.1 s.2 ∧ Punctual s) ⟨trivial, trivial⟩ ?_
    rintro _ _ s s' label ⟨facts, punctual⟩ ⟨⟨admitted, punctual'⟩, stored, used⟩ stepped
    refine ⟨?_, punctual'⟩
    rcases test_step stepped with ⟨engineLabel, asleep, moved, same⟩ | ⟨uuid, quiet, resumed⟩
    · rw [same]
      exact facts_engine facts (step_cases moved) asleep
    · exact facts_piece facts stored used quiet resumed punctual admitted
  exact both.1

end SelfTest
end BatchInference
