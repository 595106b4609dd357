/-
The calls that the provider sees.

For one item the calls come one after another: the next one is made only after a 429
within the retry limit. So no item is ever asked for twice at a time, an item whose
answer was final is not asked for again, and the number of calls is bounded by the
retry limit, for each item and for the whole service.
-/

import BatchInference.EngineAttempts
import BatchInference.EngineGrowth
import Mathlib.Algebra.Order.BigOperators.Group.Finset

set_option autoImplicit false

namespace BatchInference

namespace Verdict

variable {s : Settings} {item : WorkItem}

/-- An item that is still asked for was throttled every time. -/
theorem throttled_of_asking {replies : List Reply} {retries : Nat}
    (asking : ofReplies s item replies = .asking retries) {i : Nat} {reply : Reply}
    (read : replies[i]? = some reply) :
    (∃ retryAfter, reply = .rateLimited retryAfter) ∧ Retries s (i + 1) := by
  induction replies using List.reverseRecOn generalizing retries with
  | nil => cases read
  | append_singleton replies last ih =>
      rw [ofReplies_append] at asking
      cases before : ofReplies s item replies with
      | settled earlier result =>
          rw [before] at asking
          cases asking
      | asking earlier =>
          rw [before, hear] at asking
          have inside := (List.getElem?_eq_some_iff.mp read).1
          rw [List.length_append, List.length_singleton] at inside
          by_cases isLast : i = replies.length
          · subst isLast
            rw [List.getElem?_append_right (le_refl _), Nat.sub_self] at read
            cases read
            rw [length_of_asking before]
            cases settled : settle s item (earlier + 1) 0 reply with
            | retry seconds => exact retry_of_settle settled
            | _ =>
                rw [settled] at asking
                cases asking
          · rw [List.getElem?_append_left (by omega)] at read
            exact ih before read

end Verdict

namespace EngineCalls

open Engine EngineItems EngineOutcomes EngineOrigins EngineAttempts EngineGrowth

variable {p : Params} {events emitted : List Event} {e e' : Engine} {label : Label}
  {jobId : JobId} {seq : Nat}

/-! ### One item -/

/-- The reply to an attempt was a 429, and the attempt was not the last one. -/
def Throttled (s : Settings) (attempt : Nat) (reply : Reply) : Prop :=
  (∃ retryAfter, reply = .rateLimited retryAfter) ∧ Retries s attempt

/-- The item is one of its job's, and all replies to it but the last were 429s. -/
structure Asked (s : Settings) (events : List Event) (e : Engine) (jobId : JobId) (seq : Nat) :
    Prop where
  throttled : ∀ i reply, (repliesOf jobId seq events)[i]? = some reply →
    i + 1 < (repliesOf jobId seq events).length → Throttled s (i + 1) reply
  known : repliesOf jobId seq events ≠ [] → ∃ job, e.store.get jobId = some job ∧ seq < job.total

/-- What holds of an item that a worker asks for. -/
theorem facts_of_asking (ledger : Ledger False events e) (followed : Followed p.settings events e)
    {task : TaskId} {w : Worker} {f : InFlight} (found : e.workers.get? task = some w)
    (asks : w.loc.asking = some f) :
    (∃ job, e.store.get f.jobId = some job ∧ f.item.seq < job.total) ∧
      ∀ i reply, (repliesOf f.jobId f.item.seq events)[i]? = some reply →
        Throttled p.settings (i + 1) reply := by
  have isHeld := mem_held_of_asking found asks rfl
  obtain ⟨job, present⟩ := ledger.job_of_held isHeld
  obtain ⟨prompts, _, tracked⟩ := followed.known f.jobId job present
  obtain ⟨prompts', lost, account⟩ := ledger.known f.jobId job present
  obtain ⟨retries, _, asking⟩ := tracked.asking task w f found asks rfl
  have member : f.item ∈ workItems prompts' := by
    rw [← Multiset.mem_coe, ← account.items]
    simp only [Multiset.mem_add]
    tauto
  have inside := (List.getElem?_eq_some_iff.mp (workItems_getElem? prompts' member)).1
  rw [length_workItems, ← account.total] at inside
  exact ⟨⟨job, present, inside⟩, fun _ _ read => Verdict.throttled_of_asking asking read⟩

theorem asked_next (asked : ∀ jobId seq, Asked p.settings events e jobId seq)
    (ledger : Ledger False events e) (followed : Followed p.settings events e)
    (step : Step p e label e' emitted) :
    ∀ jobId seq, Asked p.settings (events ++ emitted) e' jobId seq := by
  intro jobId seq
  have before := asked jobId seq
  have quiet : repliesOf jobId seq emitted = [] →
      Asked p.settings (events ++ emitted) e' jobId seq := by
    intro silent
    constructor
    · rw [repliesOf_append, silent, List.append_nil]
      exact before.throttled
    · rw [repliesOf_append, silent, List.append_nil]
      intro replied
      obtain ⟨job, present, inside⟩ := before.known replied
      obtain ⟨job', present', grows⟩ := grows_of_step ledger step present
      exact ⟨job', present', grows.total ▸ inside⟩
  by_cases silent : Unanswered jobId emitted
  · exact quiet (repliesOf_unanswered silent seq)
  · obtain ⟨task, w, f, reply, jitter, rfl, heard⟩ := heard_of_step step silent
    by_cases same : f.item.seq = seq
    · subst same
      obtain ⟨⟨job, present, inside⟩, throttled⟩ :=
        facts_of_asking ledger followed heard.found heard.asking
      constructor
      · rw [repliesOf_append, heard.shown]
        intro i earlier read more
        have one : (repliesOf f.jobId f.item.seq [.replied f.jobId f.item.seq reply]).length = 1 := by
          simp [repliesOf, replyTo]
        rw [List.length_append, one] at more
        rw [List.getElem?_append_left (by omega)] at read
        exact throttled i earlier read
      · intro _
        obtain ⟨job', present', grows⟩ := grows_of_step ledger step present
        exact ⟨job', present', grows.total ▸ inside⟩
    · apply quiet
      rw [heard.shown]
      simp [repliesOf, replyTo, same]

theorem reachable_asked {ok : Engine → Label → Engine → Prop}
    (run : (engineMachine p).Reaches ok events e) (jobId : JobId) (seq : Nat) :
    Asked p.settings events e jobId seq := by
  refine followed_invariant run
    (fun events e => ∀ jobId seq, Asked p.settings events e jobId seq) ?_ ?_ jobId seq
  · intro jobId seq
    constructor
    · intro i reply read
      cases read
    · intro replied
      exact absurd rfl replied
  · intro _ _ _ _ _ asked ledger followed _ _ step
    exact asked_next asked ledger followed step

/-! ### Calls in flight -/

theorem held_distinct (ledger : Ledger False events e) (jobId : JobId) :
    ((held jobId e).map WorkItem.seq).Nodup := by
  cases present : e.store.get jobId with
  | none =>
      rw [(ledger.unknown jobId present).2.1]
      exact Multiset.nodup_zero
  | some job =>
      obtain ⟨prompts, lost, account⟩ := ledger.known jobId job present
      refine Multiset.nodup_of_le (Multiset.map_le_map ?_) account.distinct
      exact (Multiset.le_add_left _ _).trans (Multiset.le_add_right _ _)

theorem inCall_le_held (jobId : JobId) (seq : Nat) (loc : Loc) :
    (if inCallFor jobId seq loc then 1 else 0) ≤
      ((heldBy jobId loc.flight).map WorkItem.seq).count seq := by
  cases loc with
  | calling f suspended =>
      by_cases mine : f.jobId = jobId
      · by_cases same : f.item.seq = seq
        · simp [inCallFor, Loc.flight, heldBy, mine, same]
        · simp [inCallFor, same]
      · simp [inCallFor, mine]
  | _ => exact Nat.zero_le _

/-- An item is in a call of one worker at most. -/
theorem inCall_le_one (ledger : Ledger False events e) (jobId : JobId) (seq : Nat) :
    e.count (inCallFor jobId seq) ≤ 1 := by
  refine le_trans ?_ (Multiset.nodup_iff_count_le_one.mp (held_distinct ledger jobId) seq)
  have sum : ((held jobId e).map WorkItem.seq).count seq =
      e.workers.total (fun _ w => ((heldBy jobId w.loc.flight).map WorkItem.seq).count seq) :=
    Dict.map_total
      ((Multiset.countAddMonoidHom seq).comp (Multiset.mapAddMonoidHom WorkItem.seq)) _ _
  rw [sum]
  unfold Engine.count Dict.count
  exact Dict.total_mono _ (fun _ w _ => inCall_le_held jobId seq w.loc)

theorem caller_of_inCall (calls : 0 < e.count (inCallFor jobId seq)) :
    ∃ task w f, e.workers.get? task = some w ∧ w.loc.asking = some f ∧ f.jobId = jobId ∧
      f.item.seq = seq := by
  obtain ⟨task, w, found, busy⟩ := Dict.exists_of_count_pos _ _ calls
  cases at_ : w.loc with
  | calling f suspended =>
      rw [at_, inCallFor, decide_eq_true_eq] at busy
      exact ⟨task, w, f, found, by rw [at_]; rfl, busy.1, busy.2⟩
  | _ =>
      rw [at_] at busy
      cases busy

/-- A call is made for a prompt of a known job, and after 429s only. -/
theorem facts_of_inCall (ledger : Ledger False events e) (followed : Followed p.settings events e)
    (calls : 0 < e.count (inCallFor jobId seq)) :
    (∃ job, e.store.get jobId = some job ∧ seq < job.total) ∧
      ∀ i reply, (repliesOf jobId seq events)[i]? = some reply →
        Throttled p.settings (i + 1) reply := by
  obtain ⟨task, w, f, found, asks, rfl, rfl⟩ := caller_of_inCall calls
  exact facts_of_asking ledger followed found asks

/-! ### The budget -/

/-- The most calls that one item gets. -/
def callBudget (s : Settings) : Nat := min s.maxRetries.toNat 1024 + 1

/-- After a reply to the last call of the budget there is no other. -/
theorem lt_callBudget {s : Settings} {attempt : Nat} {reply : Reply}
    (throttled : Throttled s attempt reply) : attempt < callBudget s := by
  obtain ⟨_, within, least⟩ := throttled
  unfold callBudget
  omega

/-- The calls for one item come one after another, each after a 429 within the retry limit. -/
structure OneAfterAnother (s : Settings) (events : List Event) (jobId : JobId) (seq : Nat) :
    Prop where
  answered : (repliesOf jobId seq events).length ≤ callsOf jobId seq events
  single : callsOf jobId seq events ≤ (repliesOf jobId seq events).length + 1
  throttled : ∀ i reply, (repliesOf jobId seq events)[i]? = some reply →
    i + 1 < callsOf jobId seq events → Throttled s (i + 1) reply
  within : callsOf jobId seq events ≤ callBudget s

theorem oneAfterAnother {ok : Engine → Label → Engine → Prop}
    (run : (engineMachine p).Reaches ok events e) (jobId : JobId) (seq : Nat) :
    OneAfterAnother p.settings events jobId seq := by
  obtain ⟨ledger, followed⟩ := reachable_followed run
  have balance := reachable_callsAnswered run jobId seq
  have single := inCall_le_one ledger jobId seq
  have asked := reachable_asked run jobId seq
  have throttled : ∀ i reply, (repliesOf jobId seq events)[i]? = some reply →
      i + 1 < callsOf jobId seq events → Throttled p.settings (i + 1) reply := by
    intro i reply read more
    by_cases idle : e.count (inCallFor jobId seq) = 0
    · exact asked.throttled i reply read (by omega)
    · exact (facts_of_inCall ledger followed (Nat.pos_of_ne_zero idle)).2 i reply read
  refine ⟨by omega, by omega, throttled, ?_⟩
  -- the reply before the last call was a 429
  by_cases many : 2 ≤ callsOf jobId seq events
  · have inside : callsOf jobId seq events - 2 < (repliesOf jobId seq events).length := by omega
    have before := throttled _ _ (List.getElem?_eq_getElem inside) (by omega)
    have room := lt_callBudget before
    omega
  · unfold callBudget
    omega

/-! ### All calls together -/

def isCall : Event → Bool
  | .called _ _ _ => true
  | _ => false

/-- The calls of the provider. -/
def callsMade (events : List Event) : Nat := events.countP isCall

/-- The item that an event is a call for. -/
def calledItem : Event → Option (JobId × Nat)
  | .called jobId seq _ => some (jobId, seq)
  | _ => none

theorem callsMade_eq (events : List Event) :
    callsMade events = (events.filterMap calledItem).length := by
  rw [List.length_filterMap_eq_countP]
  apply List.countP_congr
  intro event _
  cases event <;> simp [isCall, calledItem]

theorem callsOf_eq (jobId : JobId) (seq : Nat) (events : List Event) :
    callsOf jobId seq events = (events.filterMap calledItem).count (jobId, seq) := by
  unfold callsOf List.count
  rw [List.countP_filterMap]
  apply List.countP_congr
  intro event _
  cases event <;> simp [isCallFor, calledItem]

/-- The prompts of all jobs of the store. -/
def promptsHeld (e : Engine) : Nat := e.store.jobs.total (fun _ job => job.total)

theorem known_of_called {ok : Engine → Label → Engine → Prop}
    (run : (engineMachine p).Reaches ok events e) (called : 0 < callsOf jobId seq events) :
    ∃ job, e.store.get jobId = some job ∧ seq < job.total := by
  obtain ⟨ledger, followed⟩ := reachable_followed run
  have balance := reachable_callsAnswered run jobId seq
  by_cases idle : e.count (inCallFor jobId seq) = 0
  · apply (reachable_asked run jobId seq).known
    intro none
    rw [none, List.length_nil, idle] at balance
    omega
  · exact (facts_of_inCall ledger followed (Nat.pos_of_ne_zero idle)).1

/-- The items of all jobs of the store. -/
def allItems (e : Engine) : Finset (JobId × Nat) :=
  (e.store.jobs.entries.flatMap
    (fun entry => (List.range entry.2.total).map (fun seq => (entry.1, seq)))).toFinset

theorem mem_allItems {job : Job} (present : e.store.get jobId = some job) (inside : seq < job.total) :
    (jobId, seq) ∈ allItems e := by
  unfold allItems
  rw [List.mem_toFinset, List.mem_flatMap]
  refine ⟨(jobId, job), (e.store.jobs.mem_entries_iff jobId job).mpr present, ?_⟩
  exact List.mem_map.mpr ⟨seq, List.mem_range.mpr inside, rfl⟩

theorem card_allItems_le (e : Engine) : (allItems e).card ≤ promptsHeld e := by
  refine le_trans (List.toFinset_card_le _) ?_
  rw [List.length_flatMap]
  apply le_of_eq
  unfold promptsHeld Dict.total
  simp

/-- For one item the provider is called again only after a 429 within the retry limit, and
while nobody else is in a call for it; so the calls of a whole run are bounded by the prompts
that were admitted. -/
theorem calls_one_after_another (p : Params) {ok : Engine → Label → Engine → Prop}
    {events : List Event} {e : Engine} (run : (engineMachine p).Reaches ok events e) :
    (∀ jobId seq, OneAfterAnother p.settings events jobId seq) ∧
      callsMade events ≤ callBudget p.settings * promptsHeld e := by
  refine ⟨oneAfterAnother run, ?_⟩
  let calls := events.filterMap calledItem
  have each : ∀ item ∈ calls.toFinset, calls.count item ≤ callBudget p.settings := by
    rintro ⟨jobId, seq⟩ _
    rw [← callsOf_eq]
    exact (oneAfterAnother run jobId seq).within
  have known : calls.toFinset ⊆ allItems e := by
    rintro ⟨jobId, seq⟩ member
    rw [List.mem_toFinset, ← List.count_pos_iff, ← callsOf_eq] at member
    obtain ⟨job, present, inside⟩ := known_of_called run member
    exact mem_allItems present inside
  calc callsMade events = calls.length := callsMade_eq events
    _ = ∑ item ∈ calls.toFinset, calls.count item := by
        convert (List.sum_toFinset_count_eq_length calls).symm
    _ ≤ calls.toFinset.card * callBudget p.settings := Finset.sum_le_card_nsmul _ _ _ each
    _ ≤ promptsHeld e * callBudget p.settings :=
        Nat.mul_le_mul_right _ ((Finset.card_le_card known).trans (card_allItems_le e))
    _ = callBudget p.settings * promptsHeld e := Nat.mul_comm _ _

/-- A prompt that is throttled once is asked for twice, of six times at most. -/
theorem calls_one_after_another_throttled :
    ∃ events e, (engineMachine singleWorker).Reaches Machine.anyStep events e ∧
      callsMade events = 2 ∧ repliesOf "a" 0 events = [.rateLimited 0] ∧
      Throttled singleWorker.settings 1 (.rateLimited 0) ∧
      callsMade events ≤ callBudget singleWorker.settings * promptsHeld e ∧
      callBudget singleWorker.settings * promptsHeld e = 6 := by
  obtain ⟨events, e, run, tested⟩ := Machine.exists_anyRun_of_exec
    (engineMachine singleWorker) (engineMachine singleWorker).initial
    (asked ++ [.work 0 (.reply (.rateLimited 0) 0), .work 0 .backoffWake, .work 0 .gate])
    (fun outcome => decide (callsMade outcome.1 = 2) && decide (callsOf "a" 0 outcome.1 = 2) &&
      decide (repliesOf "a" 0 outcome.1 = [.rateLimited 0]) &&
      decide (callBudget singleWorker.settings * promptsHeld outcome.2 = 6)) (by decide +kernel)
  simp only [Bool.and_eq_true, decide_eq_true_eq] at tested
  obtain ⟨⟨⟨made, twice⟩, replies⟩, budget⟩ := tested
  obtain ⟨each, bounded⟩ := calls_one_after_another singleWorker run
  have throttled := (each "a" 0).throttled 0 (.rateLimited 0) (by rw [replies]; rfl)
    (by rw [twice]; exact Nat.lt_succ_self 1)
  exact ⟨events, e, run, made, replies, throttled, bounded, budget⟩

end EngineCalls
end BatchInference
