/-
The rate of provider calls.

The token bucket is a regulator in the sense of `Lib.Regulator`: every call
takes one token at the reading of the clock at which its worker got through the
bucket. Workers that wait recompute everything when they wake up, so nothing
but the bucket itself matters.
-/

import BatchInference.EngineSteps
import BatchInference.Lib.Regulator

set_option autoImplicit false

namespace BatchInference
namespace EngineRate

open Engine Regulator

/-- The clock reading of a provider call, for the events that are calls. -/
def callTime : Event → Option ℚ
  | .called _ _ time => some time
  | _ => none

def callTimes (events : List Event) : List ℚ := events.filterMap callTime

/-- What `provider_burst or provider_max_rps` gives. -/
def bucketCapacity (s : Settings) : ℚ :=
  if s.providerBurst = 0 then s.providerMaxRps else s.providerBurst

/-- The bucket of the engine regulates the calls made so far. -/
structure BucketRegulates (s : Settings) (b : TokenBucket) (now : ℚ) (calls : List ℚ) :
    Prop where
  rate : b.rate = s.providerMaxRps
  capacity : b.capacity = bucketCapacity s
  read : ∀ last, b.last = some last → last ≤ now
  regulated : Regulated s.providerMaxRps (bucketCapacity s) b.tokens b.last calls

variable {s : Settings} {b : TokenBucket} {now : ℚ} {calls : List ℚ}

theorem BucketRegulates.later (h : BucketRegulates s b now calls) {later : ℚ}
    (ordered : now ≤ later) : BucketRegulates s b later calls where
  rate := h.rate
  capacity := h.capacity
  read := fun last found => (h.read last found).trans ordered
  regulated := h.regulated

private theorem no_calls (h : BucketRegulates s b now calls) (unread : b.last = none) :
    calls = [] := by
  apply List.eq_nil_iff_forall_not_mem.mpr
  intro time member
  rcases h.regulated.past time member with ⟨read, found, _⟩
  rw [unread] at found
  cases found

private theorem refill_regulates (h : BucketRegulates s b now calls) :
    BucketRegulates s (b.refill now) now calls ∧ (b.refill now).last = some now := by
  cases found : b.last with
  | none =>
      have none := no_calls h found
      subst none
      have regulated := h.regulated
      rw [found] at regulated
      have same : b.refill now = { b with last := some now } := by
        unfold TokenBucket.refill
        rw [found]
      rw [same]
      refine ⟨?_, rfl⟩
      exact
        { rate := h.rate
          capacity := h.capacity
          read := fun last read => (Option.some.inj read).ge
          regulated := regulated.firstReading now }
  | some last =>
      have regulated := h.regulated
      rw [found] at regulated
      have filled := regulated.refill (h.read last found)
      have same : b.refill now =
          { b with
            last := some now
            tokens := min b.capacity (b.tokens + (now - last) * b.rate) } := by
        unfold TokenBucket.refill
        rw [found]
      rw [← h.capacity, ← h.rate] at filled
      rw [same]
      refine ⟨?_, rfl⟩
      exact
        { rate := h.rate
          capacity := h.capacity
          read := fun last read => (Option.some.inj read).ge
          regulated := by
            rw [← h.capacity, ← h.rate]
            exact filled }

/-- One iteration of `TokenBucket.acquire`: a grant counts as a call now. -/
theorem acquireOnce_regulates (positive : 0 < s.providerMaxRps)
    (h : BucketRegulates s b now calls) :
    BucketRegulates s (b.acquireOnce 1 now).1 now
      (calls ++ if (b.acquireOnce 1 now).2.isNone then [now] else []) := by
  have limited : ¬b.rate ≤ 0 := by
    rw [h.rate]
    exact not_le.mpr positive
  rcases refill_regulates h with ⟨filled, reading⟩
  unfold TokenBucket.acquireOnce
  rw [if_neg limited]
  by_cases enough : 1 ≤ (b.refill now).tokens
  · have regulated := filled.regulated
    rw [reading] at regulated
    have granted := regulated.grant enough
    rw [← reading] at granted
    simp only [if_pos enough, Option.isNone_none, if_true]
    exact
      { rate := filled.rate
        capacity := filled.capacity
        read := filled.read
        regulated := granted }
  · simp only [if_neg enough, Option.isNone_some, Bool.false_eq_true, if_false, List.append_nil]
    exact filled

/-- A step either leaves the bucket alone and calls nobody, or it is one
iteration of `acquire`, with a call exactly when the token was granted. -/
theorem bucket_step {p : Params} {e e' : Engine} {label : Label}
    {emitted : List Event} (step : Step p e label e' emitted) :
    (e'.rateLimiter = e.rateLimiter ∧ e.loopTime ≤ e'.loopTime ∧ callTimes emitted = []) ∨
      (e'.rateLimiter = (e.rateLimiter.acquireOnce 1 e.loopTime).1 ∧
        e'.loopTime = e.loopTime ∧
        callTimes emitted =
          if (e.rateLimiter.acquireOnce 1 e.loopTime).2.isNone then [e.loopTime] else []) := by
  cases step with
  | tick loopTime wallTime later => exact Or.inl ⟨rfl, later, rfl⟩
  | unchanged label serves => exact Or.inl ⟨rfl, le_refl _, rfl⟩
  | submitted label prompts priority key newId requested quiet named fresh =>
      refine Or.inl ⟨?_, ?_, rfl⟩
      · rcases submit_cases p prompts priority key newId e with ⟨⟨_, _, same⟩, _⟩ | admitted
        · rw [same]
        · rw [admitted.2.2.2.2]
          simp [register]
      · rcases submit_cases p prompts priority key newId e with ⟨⟨_, _, same⟩, _⟩ | admitted
        · rw [same]
        · rw [admitted.2.2.2.2]
          simp [register]
  | cancelled jobId job quiet found unfinished => exact Or.inl ⟨rfl, le_refl _, rfl⟩
  | worked task action w g flag loc emitted found lowered work =>
      cases work with
      | called f at_ bucket grant =>
          right
          rw [grant]
          exact ⟨rfl, rfl, rfl⟩
      | throttled f at_ bucket seconds refused =>
          right
          rw [refused]
          exact ⟨rfl, rfl, rfl⟩
      | recorded f before at_ alone reply jitter result cost credited exhausted settled =>
          left
          simp [callTimes, callTime]
      | _ => exact Or.inl ⟨rfl, le_refl _, rfl⟩
  | shutdownStarted quiet phase => exact Or.inl ⟨rfl, le_refl _, rfl⟩
  | graceExpired quiet phase => exact Or.inl ⟨rfl, le_refl _, rfl⟩
  | shutdownReturned ended phase => exact Or.inl (by simp [callTimes])

/-- Along every run the bucket regulates the calls. -/
theorem bucket_regulates {p : Params} (positive : 0 < p.settings.providerMaxRps)
    (burst : 0 ≤ p.settings.providerBurst) {events : List Event} {e : Engine}
    (run : (engineMachine p).Reaches Machine.anyStep events e) :
    BucketRegulates p.settings e.rateLimiter e.loopTime (callTimes events) := by
  refine Machine.Run.invariant run
    (fun events e => BucketRegulates p.settings e.rateLimiter e.loopTime (callTimes events))
    ?_ ?_
  · have capacity_nonneg : 0 ≤ bucketCapacity p.settings := by
      unfold bucketCapacity
      split
      · exact positive.le
      · exact burst
    exact
      { rate := rfl
        capacity := rfl
        read := fun _ impossible => by cases impossible
        regulated := Regulated.start positive.le capacity_nonneg }
  · intro events emitted e e' label holds _ stepped
    have appended : callTimes (events ++ emitted) = callTimes events ++ callTimes emitted :=
      List.filterMap_append
    rw [appended]
    rcases bucket_step (step_cases stepped) with ⟨same, later, none⟩ | ⟨next, now, calls⟩
    · rw [same, none, List.append_nil]
      exact holds.later later
    · rw [next, now, calls]
      exact acquireOnce_regulates positive holds

/-- The number of provider calls started in any window is at most the capacity
of the bucket plus what the rate allows in that time. -/
theorem calls_in_window_le (p : Params) (positive : 0 < p.settings.providerMaxRps)
    (burst : 0 ≤ p.settings.providerBurst) {events : List Event} {e : Engine}
    (run : (engineMachine p).Reaches Machine.anyStep events e) (first span : ℚ)
    (forward : 0 ≤ span) :
    (within first (first + span) (callTimes events) : ℚ) ≤
      (if p.settings.providerBurst = 0 then p.settings.providerMaxRps
        else p.settings.providerBurst) + p.settings.providerMaxRps * span := by
  have window := (bucket_regulates positive burst run).regulated.window first (first + span)
    (by linarith)
  rw [add_sub_cancel_left] at window
  exact window

/-- Two calls a second, without a burst of its own. -/
def twoPerSecond : Params :=
  { settings := { providerMaxRps := 2 }
    fingerprint := fun _ _ => "" }

/-- One prompt is submitted and its call starts at time 0. -/
theorem calls_in_window_le_single :
    ∃ events e, (engineMachine twoPerSecond).Reaches Machine.anyStep events e ∧
      callTimes events = [0] ∧
      (within 0 (0 + 1) (callTimes events) : ℚ) ≤
        (if twoPerSecond.settings.providerBurst = 0 then twoPerSecond.settings.providerMaxRps
          else twoPerSecond.settings.providerBurst) + twoPerSecond.settings.providerMaxRps * 1 := by
  rcases Machine.exists_anyRun_of_exec (engineMachine twoPerSecond)
      (engineMachine twoPerSecond).initial
      [.submit [{ id := none, prompt := "hello" }] .normal none "a",
        .work 0 .start, .work 0 .enter, .work 0 .take, .work 0 .gate]
      (fun outcome => callTimes outcome.1 = [0]) (by decide +kernel) with
    ⟨events, e, run, called⟩
  exact ⟨events, e, run, of_decide_eq_true called,
    calls_in_window_le twoPerSecond (by decide +kernel) (by decide +kernel) run 0 1
      (by decide +kernel)⟩

end EngineRate
end BatchInference
