/-
What comes out of the engine with one of the repository's providers behind it.

A prompt comes back in its own completion or was refused as often as it may be asked for.
So every dead letter has cost the provider a whole budget of 429s, and a provider that
refuses one call in so many leaves few dead letters behind, in whatever order the workers
run.
-/

import BatchInference.EngineProgress
import BatchInference.Providers
import Mathlib.Data.Nat.Factorization.Basic

set_option autoImplicit false

namespace BatchInference

open EngineCalls EngineProgress

namespace Deployment

open Engine EngineItems EngineOutcomes EngineOrigins EngineAttempts

variable {p : Params} {provider : InferenceProvider} {events emitted : List Event}
  {d d' : Deployment} {label : Label} {jobId : JobId} {seq : Nat}

/-! ### What the provider says -/

/-- The replies to a prompt. -/
inductive Speaks (provider : InferenceProvider) (prompt : String) : Reply → Prop
  | refused (seconds : ℚ) : Speaks provider prompt (.rateLimited seconds)
  | completed : Speaks provider prompt (.returned (provider.completion prompt))
  | cancelled : Speaks provider prompt .cancelled

theorem speaks_of_answers {number : Nat} {w : Worker} {f : InFlight} {before : Bool}
    {reply : Reply} (at_ : w.loc = .calling f before)
    (answers : provider.answers number w reply = true) : Speaks provider f.item.prompt reply := by
  unfold InferenceProvider.answers at answers
  rw [at_] at answers
  cases before with
  | true =>
      simp only at answers
      split at answers
      · rw [of_decide_eq_true answers]
        exact .cancelled
      · rw [of_decide_eq_true answers]
        exact .completed
  | false =>
      simp only at answers
      split at answers
      · cases reply with
        | rateLimited seconds => exact .refused seconds
        | _ => cases answers
      · rw [Bool.and_eq_true, decide_eq_true_eq] at answers
        rw [answers.2]
        exact .completed

/-- Whatever was answered for an item was said to the prompt that was submitted. -/
def Echoes (provider : InferenceProvider) (events : List Event) : Prop :=
  ∀ jobId seq reply, reply ∈ repliesOf jobId seq events →
    ∃ prompts prompt, submissionOf jobId events = some prompts ∧ prompts[seq]? = some prompt ∧
      Speaks provider prompt.prompt reply

theorem prompt_of_item {prompts : List PromptItem} {i : Nat} {item : WorkItem}
    (listed : (workItems prompts)[i]? = some item) :
    ∃ prompt, prompts[i]? = some prompt ∧ prompt.prompt = item.prompt := by
  unfold workItems at listed
  rw [List.getElem?_mapIdx, Option.map_eq_some_iff] at listed
  obtain ⟨prompt, read, same⟩ := listed
  exact ⟨prompt, read, congrArg WorkItem.prompt same⟩

theorem echoes_next (echoes : Echoes provider events) (ledger : Ledger False events d.engine)
    (admitted : d.admits provider label = true) (step : Step p d.engine label d'.engine emitted) :
    Echoes provider (events ++ emitted) := by
  intro jobId seq reply said
  rw [repliesOf_append, List.mem_append] at said
  rcases said with old | new
  · obtain ⟨prompts, prompt, submitted, read, speaks⟩ := echoes jobId seq reply old
    exact ⟨prompts, prompt, submissionOf_append submitted emitted, read, speaks⟩
  · have spoken : ¬Unanswered jobId emitted := by
      intro silent
      rw [repliesOf_unanswered silent] at new
      cases new
    obtain ⟨task, w, f, heard, jitter, rfl, facts⟩ := heard_of_step step spoken
    obtain ⟨before, at_⟩ := facts.calling
    rw [facts.shown] at new
    have same : f.item.seq = seq ∧ reply = heard := by
      by_cases mine : f.item.seq = seq
      · simpa [repliesOf, replyTo, mine] using new
      · simp [repliesOf, replyTo, mine] at new
    obtain ⟨rfl, rfl⟩ := same
    have allowed : provider.answers d.calls w reply = true := by
      rw [facts.isReply] at admitted
      change (d.engine.workers.get? task).all
        (provider.admits d.calls · (.reply reply jitter)) = true at admitted
      rw [facts.found] at admitted
      exact admitted
    have isHeld := mem_held_of_asking facts.found facts.asking rfl
    obtain ⟨job, present⟩ := ledger.job_of_held isHeld
    obtain ⟨prompts, lost, account⟩ := ledger.known f.jobId job present
    have member : f.item ∈ workItems prompts := by
      rw [← Multiset.mem_coe, ← account.items]
      simp only [Multiset.mem_add]
      tauto
    obtain ⟨prompt, read, text⟩ := prompt_of_item (workItems_getElem? prompts member)
    refine ⟨prompts, prompt, submissionOf_append account.submitted emitted, read, ?_⟩
    rw [text]
    exact speaks_of_answers at_ allowed

theorem reachable_echoes {ok : Deployment → Label → Deployment → Prop}
    (run : (deployment p provider).Reaches ok events d) : Echoes provider events := by
  refine deployment_invariant run (fun events _ => Echoes provider events) ?_ ?_
  · intro _ _ _ said
    cases said
  · intro _ _ _ _ _ echoes engineRun admitted _ step
    exact echoes_next echoes (reachable_followed engineRun).1 admitted step

/-! ### What becomes of a prompt -/

/-- The result for a prompt: its own completion, or a failure after the last 429. -/
inductive Outcome (s : Settings) (provider : InferenceProvider) (prompt : String) (attempt : Nat)
    (result : InferenceResult) : Reply → Prop
  | completed (success : result.success = true)
      (output : result.output = some (provider.completion prompt)) :
      Outcome s provider prompt attempt result (.returned (provider.completion prompt))
  | refused (seconds : ℚ) (failed : result.success = false) (output : result.output = none)
      (spent : ¬Retries s attempt) :
      Outcome s provider prompt attempt result (.rateLimited seconds)

theorem outcome_of_settle {s : Settings} (tokens : s.charsPerToken ≠ 0) {prompt : String}
    {item : WorkItem} {attempt : Nat} {jitter cost : ℚ} {reply : Reply}
    {result : InferenceResult} {credited exhausted : Bool}
    (speaks : Speaks provider prompt reply)
    (settled : settle s item attempt jitter reply = .record result cost credited exhausted) :
    Outcome s provider prompt attempt result reply := by
  cases speaks with
  | completed =>
      rcases complete_cases s item attempt (provider.completion prompt).length
        (provider.completion prompt) with ⟨free, _⟩ | ⟨_, inTokens, outTokens, same⟩
      · exact absurd free tokens
      · have recorded : complete s item attempt (provider.completion prompt).length
            (provider.completion prompt) = .record result cost credited exhausted := settled
        rw [same] at recorded
        cases recorded
        exact .completed rfl rfl
  | refused seconds =>
      have ways := settles s item attempt jitter (.rateLimited seconds)
      rw [settled] at ways
      cases ways with
      | succeeded reply result answers id prompt success attempts price => cases answers
      | failed reply error credited unanswered printable uncancelled overflow =>
          obtain ⟨_, late⟩ := overflow seconds rfl
          exact .refused seconds rfl rfl (fun left => by
            obtain ⟨_, early⟩ := left
            omega)
      | exhausted retryAfter spent =>
          exact .refused seconds rfl rfl (fun left => absurd left.1 (not_le.mpr spent))
  | cancelled => cases settled

theorem outcome_of_result (tokens : p.settings.charsPerToken ≠ 0)
    (echoes : Echoes provider events) {ok : Engine → Label → Engine → Prop} {e : Engine}
    (run : (engineMachine p).Reaches ok events e) {job : Job}
    (present : e.store.get jobId = some job) {result : InferenceResult}
    (read : job.results.get? seq = some result) :
    ∃ prompts prompt earlier reply, submissionOf jobId events = some prompts ∧
      prompts[seq]? = some prompt ∧ result.prompt = prompt.prompt ∧
      repliesOf jobId seq events = earlier ++ [reply] ∧
      Outcome p.settings provider prompt.prompt (earlier.length + 1) result reply := by
  obtain ⟨earlier, reply, jitter, cost, credited, exhausted, replies, settled⟩ :=
    reachable_originated run jobId job present seq result read
  obtain ⟨prompts, prompt, submitted, listed, speaks⟩ :=
    echoes jobId seq reply (by simp [replies])
  obtain ⟨prompts', lost, account⟩ := (reachable_followed run).1.known jobId job present
  rw [account.submitted, Option.some.injEq] at submitted
  subst submitted
  obtain ⟨prompt', listed', text⟩ := prompt_of_item (account.answered read)
  rw [listed, Option.some.injEq] at listed'
  subst listed'
  exact ⟨_, prompt, earlier, reply, account.submitted, listed, text.symm, replies,
    outcome_of_settle tokens speaks settled⟩

/-! ### One item -/

def isRateLimited : Reply → Bool
  | .rateLimited _ => true
  | _ => false

/-- The 429s to one item. -/
def throttlesOf (jobId : JobId) (seq : Nat) (events : List Event) : Nat :=
  (repliesOf jobId seq events).countP isRateLimited

/-- All calls for an item but the last were refused. -/
theorem callsOf_le (after : OneAfterAnother p.settings events jobId seq) :
    callsOf jobId seq events ≤ throttlesOf jobId seq events + 1 := by
  let refused := (repliesOf jobId seq events).take (callsOf jobId seq events - 1)
  have length : refused.length = callsOf jobId seq events - 1 := by
    have single := after.single
    rw [List.length_take]
    omega
  have all : refused.countP isRateLimited = refused.length := by
    rw [List.countP_eq_length]
    intro reply member
    obtain ⟨i, inside, rfl⟩ := List.mem_iff_getElem.mp member
    have read : (repliesOf jobId seq events)[i]? = some refused[i] := by
      rw [List.getElem_take]
      exact List.getElem?_eq_getElem _
    obtain ⟨⟨seconds, same⟩, _⟩ := after.throttled i _ read (by omega)
    rw [same]
    rfl
  have part : refused.countP isRateLimited ≤ throttlesOf jobId seq events :=
    (List.take_sublist _ _).countP_le
  omega

/-- A dead letter took the whole budget of calls, and all of them were refused. -/
theorem dead_letter_spent (tokens : p.settings.charsPerToken ≠ 0)
    (echoes : Echoes provider events) {ok : Engine → Label → Engine → Prop} {e : Engine}
    (run : (engineMachine p).Reaches ok events e) {job : Job}
    (present : e.store.get jobId = some job) {result : InferenceResult}
    (read : job.results.get? seq = some result) (failed : result.success = false) :
    callsOf jobId seq events = callBudget p.settings ∧
      throttlesOf jobId seq events = callBudget p.settings := by
  have after := oneAfterAnother run jobId seq
  have answered := calls_of_recorded (reachable_callsAnswered run) (reachable_followed run).1
    present read
  obtain ⟨prompts, prompt, earlier, reply, _, _, _, replies, outcome⟩ :=
    outcome_of_result tokens echoes run present read
  cases outcome with
  | completed success output =>
      rw [failed] at success
      cases success
  | refused seconds _ output spent =>
      rw [replies, List.length_append, List.length_singleton] at answered
      have refusedBefore : ∀ reply ∈ earlier, isRateLimited reply = true := by
        intro reply member
        obtain ⟨i, inside, rfl⟩ := List.mem_iff_getElem.mp member
        have listed : (repliesOf jobId seq events)[i]? = some earlier[i] := by
          rw [replies, List.getElem?_append_left inside]
          exact List.getElem?_eq_getElem inside
        obtain ⟨⟨seconds, same⟩, _⟩ := after.throttled i _ listed (by omega)
        rw [same]
        rfl
      have all : throttlesOf jobId seq events = earlier.length + 1 := by
        unfold throttlesOf
        rw [replies, List.countP_append, List.countP_eq_length.mpr refusedBefore]
        rfl
      have least : callBudget p.settings ≤ earlier.length + 1 := by
        by_contra early
        apply spent
        unfold callBudget at early
        constructor
        · push_cast
          omega
        · omega
      have within := after.within
      omega

/-! ### All items -/

def throttledItem : Event → Option (JobId × Nat)
  | .replied jobId seq (.rateLimited _) => some (jobId, seq)
  | _ => none

theorem throttles_eq (events : List Event) :
    throttles events = (events.filterMap throttledItem).length := by
  rw [List.length_filterMap_eq_countP]
  apply List.countP_congr
  intro event _
  unfold isThrottle throttledItem
  split <;> simp_all

theorem throttlesOf_eq (jobId : JobId) (seq : Nat) (events : List Event) :
    throttlesOf jobId seq events = (events.filterMap throttledItem).count (jobId, seq) := by
  unfold throttlesOf repliesOf List.count
  rw [List.countP_filterMap, List.countP_filterMap]
  apply List.countP_congr
  intro event _
  cases event with
  | replied answered number reply =>
      cases reply <;> by_cases mine : answered = jobId ∧ number = seq <;>
        simp [replyTo, throttledItem, isRateLimited, mine]
  | _ => simp [replyTo, throttledItem]

/-- The prompts that failed, of all jobs of the store. -/
def promptsFailed (e : Engine) : Nat := e.store.jobs.total (fun _ job => job.failed)

/-- The items of all dead letters. -/
def failedItems (e : Engine) : List (JobId × Nat) :=
  e.store.jobs.entries.flatMap (fun entry =>
    (entry.2.results.entries.filter (fun filed => !filed.2.success)).map
      (fun filed => (entry.1, filed.1)))

theorem mem_failedItems {e : Engine} (member : (jobId, seq) ∈ failedItems e) :
    ∃ job result, e.store.get jobId = some job ∧ job.results.get? seq = some result ∧
      result.success = false := by
  unfold failedItems at member
  rw [List.mem_flatMap] at member
  obtain ⟨⟨stored, job⟩, listed, filed⟩ := member
  rw [List.mem_map] at filed
  obtain ⟨⟨number, result⟩, inside, same⟩ := filed
  obtain ⟨rfl, rfl⟩ := Prod.mk.inj same
  obtain ⟨inside, failed⟩ := List.mem_filter.mp inside
  exact ⟨job, result, (e.store.jobs.mem_entries_iff _ _).mp listed,
    (job.results.mem_entries_iff _ _).mp inside, by simpa using failed⟩

theorem failedItems_distinct (e : Engine) : (failedItems e).Nodup := by
  unfold failedItems
  rw [List.nodup_flatMap]
  constructor
  · rintro ⟨stored, job⟩ _
    have keys : ((job.results.entries.filter (fun filed => !filed.2.success)).map Prod.fst).Nodup :=
      (List.filter_sublist.map Prod.fst).nodup job.results.distinct
    refine (List.nodup_map_iff_inj_on ?_).mpr ?_
    · exact List.Nodup.of_map _ keys
    · rintro filed member filed' member' same
      exact List.inj_on_of_nodup_map keys member member' (Prod.mk.inj same).2
  · have different := e.store.jobs.distinct
    rw [List.Nodup, List.pairwise_map] at different
    refine different.imp ?_
    rintro ⟨stored, job⟩ ⟨other, job'⟩ apart item member member'
    obtain ⟨filed, _, rfl⟩ := List.mem_map.mp member
    obtain ⟨filed', _, same⟩ := List.mem_map.mp member'
    exact apart (Prod.mk.inj same).1.symm

theorem length_failedItems {ok : Engine → Label → Engine → Prop} {e : Engine}
    (run : (engineMachine p).Reaches ok events e) : (failedItems e).length = promptsFailed e := by
  unfold failedItems promptsFailed Dict.total
  rw [List.length_flatMap]
  congr 1
  apply List.map_congr_left
  rintro ⟨stored, job⟩ listed
  obtain ⟨prompts, lost, account⟩ := (reachable_followed run).1.known stored job
    ((e.store.jobs.mem_entries_iff _ _).mp listed)
  have counted := account.counted
  have all := List.length_eq_countP_add_countP (fun filed : Nat × InferenceResult =>
    filed.2.success) (l := job.results.entries)
  have succeeded : job.succeeded =
      job.results.entries.countP (fun filed => filed.2.success) := by
    rw [counted.succeeded, Dict.count_eq_countP]
    exact List.countP_map
  have size : job.completed = job.results.entries.length := counted.results
  have completed := counted.completed
  rw [List.length_map, ← List.countP_eq_length_filter]
  have failed : job.results.entries.countP (fun filed => !filed.2.success) =
      job.results.entries.countP (fun filed => decide ¬filed.2.success = true) := by
    congr 1
    funext filed
    cases filed.2.success <;> rfl
  change job.results.entries.countP (fun filed => !filed.2.success) = job.failed
  rw [failed]
  omega

/-- A number for each event of some kind is a sum over the items. -/
theorem length_eq_sum {e : Engine} {items : List (JobId × Nat)}
    (known : ∀ item ∈ items, item ∈ allItems e) :
    items.length = ∑ item ∈ allItems e, items.count item := by
  have sum := Multiset.sum_count_eq_card (s := allItems e) (m := (items : Multiset (JobId × Nat)))
    (fun item member => known item (Multiset.mem_coe.mp member))
  rw [Multiset.coe_card] at sum
  rw [← sum]
  apply Finset.sum_congr rfl
  intro item _
  convert Multiset.coe_count item items

theorem callsMade_eq_sum {ok : Engine → Label → Engine → Prop} {e : Engine}
    (run : (engineMachine p).Reaches ok events e) :
    callsMade events = ∑ item ∈ allItems e, callsOf item.1 item.2 events := by
  rw [callsMade_eq, length_eq_sum (e := e)]
  · exact Finset.sum_congr rfl (fun item _ => (callsOf_eq item.1 item.2 events).symm)
  · rintro ⟨jobId, seq⟩ member
    rw [← List.count_pos_iff, ← callsOf_eq] at member
    obtain ⟨job, present, inside⟩ := known_of_called run member
    exact mem_allItems present inside

theorem throttles_eq_sum {ok : Engine → Label → Engine → Prop} {e : Engine}
    (run : (engineMachine p).Reaches ok events e) :
    throttles events = ∑ item ∈ allItems e, throttlesOf item.1 item.2 events := by
  rw [throttles_eq, length_eq_sum (e := e)]
  · exact Finset.sum_congr rfl (fun item _ => (throttlesOf_eq item.1 item.2 events).symm)
  · rintro ⟨jobId, seq⟩ member
    rw [← List.count_pos_iff, ← throttlesOf_eq] at member
    have replied : repliesOf jobId seq events ≠ [] := by
      intro none
      unfold throttlesOf at member
      rw [none] at member
      exact Nat.lt_irrefl 0 member
    obtain ⟨job, present, inside⟩ := (reachable_asked run jobId seq).known replied
    exact mem_allItems present inside

theorem failedItems_known {ok : Engine → Label → Engine → Prop} {e : Engine}
    (run : (engineMachine p).Reaches ok events e) : (failedItems e).toFinset ⊆ allItems e := by
  rintro ⟨jobId, seq⟩ member
  obtain ⟨job, result, present, read, _⟩ := mem_failedItems (List.mem_toFinset.mp member)
  obtain ⟨prompts, lost, account⟩ := (reachable_followed run).1.known jobId job present
  have inside := (List.getElem?_eq_some_iff.mp (account.answered read)).1
  rw [length_workItems, ← account.total] at inside
  exact mem_allItems present inside

theorem card_failedItems {ok : Engine → Label → Engine → Prop} {e : Engine}
    (run : (engineMachine p).Reaches ok events e) :
    (failedItems e).toFinset.card = promptsFailed e := by
  rw [List.toFinset_card_of_nodup (failedItems_distinct e), length_failedItems run]

/-- Dead letters are paid for with 429s, a whole budget each. -/
theorem failed_mul_le {ok : Deployment → Label → Deployment → Prop}
    (tokens : p.settings.charsPerToken ≠ 0) (run : (deployment p provider).Reaches ok events d) :
    promptsFailed d.engine * callBudget p.settings ≤ throttles events := by
  have engineRun : (engineMachine p).Reaches Machine.anyStep events d.engine :=
    engine_of_run run (fun _ _ _ => trivial)
  rw [← card_failedItems engineRun, throttles_eq_sum engineRun]
  calc (failedItems d.engine).toFinset.card * callBudget p.settings
      = ∑ item ∈ (failedItems d.engine).toFinset, callBudget p.settings := by
        rw [Finset.sum_const, smul_eq_mul]
    _ ≤ ∑ item ∈ (failedItems d.engine).toFinset, throttlesOf item.1 item.2 events := by
        apply Finset.sum_le_sum
        rintro ⟨jobId, seq⟩ member
        obtain ⟨job, result, present, read, failed⟩ :=
          mem_failedItems (List.mem_toFinset.mp member)
        exact (dead_letter_spent tokens (reachable_echoes run) engineRun present read failed).2.ge
    _ ≤ ∑ item ∈ allItems d.engine, throttlesOf item.1 item.2 events :=
        Finset.sum_le_sum_of_subset (failedItems_known engineRun)

/-- Of the calls for a prompt at most one is not refused, and none if it failed. -/
theorem calls_add_failed_le {ok : Deployment → Label → Deployment → Prop}
    (tokens : p.settings.charsPerToken ≠ 0) (run : (deployment p provider).Reaches ok events d) :
    callsMade events + promptsFailed d.engine ≤ throttles events + promptsHeld d.engine := by
  have engineRun : (engineMachine p).Reaches Machine.anyStep events d.engine :=
    engine_of_run run (fun _ _ _ => trivial)
  have each : ∀ item ∈ allItems d.engine, callsOf item.1 item.2 events +
      (if item ∈ (failedItems d.engine).toFinset then 1 else 0) ≤
        throttlesOf item.1 item.2 events + 1 := by
    rintro ⟨jobId, seq⟩ _
    by_cases dead : (jobId, seq) ∈ (failedItems d.engine).toFinset
    · obtain ⟨job, result, present, read, failed⟩ := mem_failedItems (List.mem_toFinset.mp dead)
      have spent := dead_letter_spent tokens (reachable_echoes run) engineRun present read failed
      rw [if_pos dead, spent.1, spent.2]
    · rw [if_neg dead]
      exact callsOf_le (oneAfterAnother engineRun jobId seq)
  have failed : ∑ item ∈ allItems d.engine,
      (if item ∈ (failedItems d.engine).toFinset then 1 else 0) = promptsFailed d.engine := by
    rw [Finset.sum_boole, Finset.filter_mem_eq_inter,
      Finset.inter_eq_right.mpr (failedItems_known engineRun), card_failedItems engineRun]
    rfl
  have sum := Finset.sum_le_sum each
  rw [Finset.sum_add_distrib, Finset.sum_add_distrib, failed, ← callsMade_eq_sum engineRun,
    ← throttles_eq_sum engineRun, Finset.sum_const, smul_eq_mul, mul_one] at sum
  have items := card_allItems_le d.engine
  omega

theorem throttles_le {ok : Deployment → Label → Deployment → Prop}
    (run : (deployment p provider).Reaches ok events d) :
    throttles events ≤ refusals provider d.calls :=
  (reachable_refused run).2 ▸ Nat.le_add_right _ _

/-- Between two segments every refused call has been answered. -/
theorem throttles_of_atAwait {ok : Deployment → Label → Deployment → Prop}
    (run : (deployment p provider).Reaches ok events d) (quiet : d.engine.atAwait = true) :
    throttles events = refusals provider (callsMade events) := by
  obtain ⟨calls, refused⟩ := reachable_refused run
  have decided : d.engine.count undecided = 0 := by
    apply count_of_atAwait quiet
    intro loc asked
    cases loc with
    | calling f suspended =>
        cases suspended with
        | true => cases asked
        | false => rfl
    | _ => cases asked
  rw [decided, ite_self, Nat.add_zero] at refused
  rw [refused, calls]

/-! ### One call in so many is refused -/

theorem refusals_mock {every : Int} (enabled : every ≠ 0) (calls : Nat) :
    refusals (mockProvider every) calls = calls / every.natAbs := by
  unfold refusals
  rw [Nat.count_eq_card_filter_range, ← Nat.card_multiples]
  congr 1
  apply Finset.filter_congr
  intro n _
  have divides : ((n + 1 : Nat) : Int) % every = 0 ↔ every.natAbs ∣ n + 1 := by
    rw [← Int.dvd_iff_emod_eq_zero, Int.dvd_natCast]
  unfold mockProvider
  rw [decide_eq_true_eq, divides]
  exact ⟨fun both => both.2, fun multiple => ⟨enabled, multiple⟩⟩

/-- One worker, and no second call for a prompt. -/
def singleTry : Params :=
  { settings := { workerPoolSize := 1, maxRetries := 0 }
    fingerprint := fun _ _ => "" }

/-- Two prompts, of which the second is refused by a provider that refuses every second call. -/
def secondRefused : List Label :=
  [.submit [{ id := none, prompt := "hello" }, { id := none, prompt := "again" }] .normal none "a",
    .work 0 .start, .work 0 .enter, .work 0 .take, .work 0 .gate, .work 0 .suspend,
    .work 0 (.reply (.returned "completion::hello") 0), .work 0 .leave, .work 0 .enter,
    .work 0 .take, .work 0 .gate, .work 0 (.reply (.rateLimited (1 / 10)) 0), .work 0 .leave,
    .work 0 .enter, .work 0 .take, .work 0 .leave]

def oneOfTwoFailed (outcome : List Event × Deployment) : Bool :=
  decide (promptsFailed outcome.2.engine = 1) && decide (promptsHeld outcome.2.engine = 2) &&
    decide (callsMade outcome.1 = 2) && outcome.2.engine.atAwait

theorem refusals_flaky (failTimes : Int) (calls : Nat) :
    refusals (flakyProvider failTimes) calls = min calls failTimes.toNat := by
  unfold refusals
  induction calls with
  | zero => simp
  | succ calls ih =>
      rw [Nat.count_succ, ih]
      unfold flakyProvider
      simp only [decide_eq_true_eq]
      split <;> omega

/-- Two prompts, of which the first is refused by a provider that refuses its first call. -/
def firstRefused : List Label :=
  [.submit [{ id := none, prompt := "hello" }, { id := none, prompt := "again" }] .normal none "a",
    .work 0 .start, .work 0 .enter, .work 0 .take, .work 0 .gate,
    .work 0 (.reply (.rateLimited (1 / 100)) 0), .work 0 .leave, .work 0 .enter, .work 0 .take,
    .work 0 .gate, .work 0 (.reply (.returned "completion::again") 0), .work 0 .leave,
    .work 0 .enter, .work 0 .take, .work 0 .leave]

/-- No worker has a segment to run that the provider's code allows. -/
def Halted (p : Params) (provider : InferenceProvider) (d : Deployment) : Prop :=
  ∀ task action, (deployment p provider).step d (.work task action) = none

theorem not_halted {task : TaskId} {action : Action} {w : Worker} {e' : Engine}
    (found : d.engine.workers.get? task = some w)
    (admitted : provider.admits d.calls w action = true)
    (stepped : (engineMachine p).step d.engine (.work task action) = some (e', emitted)) :
    ¬Halted p provider d := by
  intro halted
  have allowed : d.admits provider (.work task action) = true := by
    change (d.engine.workers.get? task).all (provider.admits d.calls · action) = true
    rw [found]
    exact admitted
  have moved : (deployment p provider).step d (.work task action) =
      some (⟨e', d.calls + callsMade emitted⟩, emitted) :=
    deployment_step.mpr ⟨allowed, stepped, rfl⟩
  rw [halted task action] at moved
  cases moved

/-- A call whose turn it is can go on in some way. -/
theorem call_goes_on {task : TaskId} {w : Worker} {f : InFlight} {before : Bool}
    (found : d.engine.workers.get? task = some w) (at_ : w.loc = .calling f before)
    (turn : before = true → d.engine.atAwait = true) : ¬Halted p provider d := by
  have replies : ∀ reply, provider.answers d.calls w reply = true → ¬Halted p provider d := by
    intro reply speaks
    have free : (!before || d.engine.atAwait) = true := by
      cases before with
      | true => exact turn rfl
      | false => rfl
    have stepped : (engineMachine p).step d.engine (.work task (.reply reply 0)) =
        some (d.engine.replyStep p task w f reply 0, [.replied f.jobId f.item.seq reply]) := by
      change Engine.step p d.engine (.work task (.reply reply 0)) = _
      simp only [Engine.step, found, workStep, at_, free, if_true]
    exact @not_halted p provider _ d task (.reply reply 0) w _ found speaks stepped
  cases before with
  | true =>
      apply replies (if w.cancelRequested then .cancelled
        else .returned (provider.completion f.item.prompt))
      unfold InferenceProvider.answers
      rw [at_]
      cases w.cancelRequested <;> simp
  | false =>
      cases refused : provider.rateLimits d.calls with
      | true =>
          obtain ⟨seconds, hinted⟩ := provider.hinted
          apply replies (.rateLimited seconds)
          unfold InferenceProvider.answers
          rw [at_]
          simp only [refused, if_true, hinted]
      | false =>
          cases sleeps : provider.sleeps with
          | true =>
              have stepped : (engineMachine p).step d.engine (.work task .suspend) =
                  some (d.engine.moveTo task w (.calling f true), []) := by
                change Engine.step p d.engine (.work task .suspend) = _
                simp only [Engine.step, found, workStep, at_]
              have awaits : provider.admits d.calls w .suspend = true := by
                unfold InferenceProvider.admits
                rw [sleeps, refused]
                rfl
              exact not_halted found awaits stepped
          | false =>
              apply replies (.returned (provider.completion f.item.prompt))
              unfold InferenceProvider.answers
              rw [at_]
              simp [refused, sleeps]

/-- The provider holds nobody up. -/
theorem stuck_of_halted (halted : Halted p provider d) : Stuck p d.engine := by
  intro task action
  by_contra moves
  obtain ⟨⟨e', emitted⟩, stepped⟩ := Option.ne_none_iff_exists'.mp moves
  obtain ⟨w, g, flag, loc, found, _, _, work⟩ := work_cases stepped
  cases work with
  | suspended f at_ => exact call_goes_on found at_ Bool.false_ne_true.elim halted
  | retried f before at_ alone reply jitter seconds settled =>
      exact call_goes_on found at_ alone halted
  | recorded f before at_ alone reply jitter result cost credited exhausted settled =>
      exact call_goes_on found at_ alone halted
  | lost f before at_ alone reply jitter credited settled =>
      exact call_goes_on found at_ alone halted
  | callCancelled f before at_ alone reply jitter settled =>
      exact call_goes_on found at_ alone halted
  | _ => exact not_halted found rfl stepped halted

/-! ### Prompts come back -/

/-- Nobody is cancelled before shutdown, and the provider returns texts only. -/
theorem wellBehaved_of_admitted (serving : d.engine.Serving)
    (admitted : d.admits provider label = true)
    (stepped : (engineMachine p).step d.engine label = some (d'.engine, emitted)) :
    WellBehaved label := by
  cases label with
  | work task action =>
      cases action with
      | reply reply jitter =>
          obtain ⟨w, _, _, _, found, _, _, work⟩ := work_cases stepped
          change (d.engine.workers.get? task).all
            (provider.admits d.calls · (.reply reply jitter)) = true at admitted
          rw [found] at admitted
          have answers : provider.answers d.calls w reply = true := admitted
          unfold InferenceProvider.answers at answers
          rw [serving.uncancelled task w found] at answers
          split at answers
          · rw [if_neg Bool.false_ne_true, decide_eq_true_eq] at answers
            rw [answers]
            trivial
          · split at answers
            · cases reply with
              | rateLimited seconds => trivial
              | _ => cases answers
            · rw [Bool.and_eq_true, decide_eq_true_eq] at answers
              rw [answers.2]
              trivial
          · cases answers
      | _ => trivial
  | _ => trivial

/-- Before shutdown the deployment is a well-behaved engine. -/
theorem engine_beforeShutdown
    (run : (deployment p provider).Reaches (Machine.onLabels BeforeShutdown) events d) :
    (engineMachine p).Reaches
      (Machine.onLabels (fun label => BeforeShutdown label ∧ WellBehaved label)) events d.engine := by
  have serving : ∀ {events : List Event} {d : Deployment},
      (deployment p provider).Reaches (Machine.onLabels BeforeShutdown) events d →
        d.engine.Serving := by
    intro events d run
    have engineRun : (engineMachine p).Reaches (Machine.onLabels BeforeShutdown) events d.engine :=
      engine_of_run run (fun before _ _ => before)
    exact (serving_invariant (fun _ _ _ before => before) engineRun (fun _ _ => True) trivial
      (fun _ _ _ _ _ _ => trivial)).2
  exact engine_of_run (run.along (fun d => d.engine.Serving) serving)
    (fun facts admitted stepped => ⟨facts.1, wellBehaved_of_admitted facts.2 admitted stepped⟩)

/-- The result for a prompt: its own completion, for which the last of the calls was not
refused, or a failure after a whole budget of refused calls. -/
structure Delivered (s : Settings) (provider : InferenceProvider) (events : List Event)
    (jobId : JobId) (seq : Nat) (prompt : String) (result : InferenceResult) : Prop where
  asked : result.prompt = prompt
  completed : result.success = true → result.output = some (provider.completion prompt) ∧
    callsOf jobId seq events = throttlesOf jobId seq events + 1
  failed : result.success = false → callsOf jobId seq events = callBudget s ∧
    throttlesOf jobId seq events = callBudget s

theorem delivered (tokens : p.settings.charsPerToken ≠ 0) (echoes : Echoes provider events)
    {ok : Engine → Label → Engine → Prop} {e : Engine}
    (run : (engineMachine p).Reaches ok events e) {job : Job}
    (present : e.store.get jobId = some job) {result : InferenceResult}
    (read : job.results.get? seq = some result) :
    ∃ prompts prompt, submissionOf jobId events = some prompts ∧ prompts[seq]? = some prompt ∧
      Delivered p.settings provider events jobId seq prompt.prompt result := by
  obtain ⟨prompts, prompt, earlier, reply, submitted, listed, text, replies, outcome⟩ :=
    outcome_of_result tokens echoes run present read
  refine ⟨prompts, prompt, submitted, listed, text, fun success => ?_,
    dead_letter_spent tokens echoes run present read⟩
  have answered := calls_of_recorded (reachable_callsAnswered run) (reachable_followed run).1
    present read
  have most := callsOf_le (oneAfterAnother run jobId seq)
  cases outcome with
  | completed _ output =>
      refine ⟨output, le_antisymm most ?_⟩
      have refused : throttlesOf jobId seq events ≤ earlier.length := by
        unfold throttlesOf
        rw [replies, List.countP_append]
        exact List.countP_le_length
      rw [answered, replies, List.length_append, List.length_singleton]
      omega
  | refused seconds failed output spent =>
      rw [failed] at success
      cases success

def lastOfTwo (outcome : List Event × Deployment) : Bool :=
  (outcome.2.engine.store.get "a").any (fun job =>
    job.state == .completed && (job.results.get? 1).any (fun result => !result.success))

end Deployment

end BatchInference
