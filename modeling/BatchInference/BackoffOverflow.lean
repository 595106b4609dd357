/-
The power of two behind the cap of the backoff.

`compute_backoff` multiplies before it caps, so from attempt 1025 on it raises, and a
larger retry budget lets a throttled prompt get there. Then the loop ends in an
`OverflowError` instead of the 429, and the failure is not counted as exhausted.
-/

import BatchInference.EngineRoster
import BatchInference.RetryLoop

set_option autoImplicit false

namespace BatchInference
namespace BackoffOverflow

open Engine RetryLoop

variable {Failure : Type} {s : Settings} {prompt : String} {outcomes : Nat → Outcome Failure}
  {jitters : Nat → ℚ}

/-- Every call is answered by a 429. -/
def Persistent (outcomes : Nat → Outcome Failure) : Prop :=
  ∀ k, ∃ error retryAfter, outcomes k = .rateLimited error retryAfter

/-- The error of a 429 is what the loop raises. -/
def RaisesRateLimit (outcomes : Nat → Outcome Failure) (result : RetryResult Failure) : Prop :=
  ∃ k error retryAfter, outcomes k = .rateLimited error retryAfter ∧ result = .raised error

/-- Every attempt that is followed by a retry gets a delay within cap and jitter. -/
def BackoffBounded (s : Settings) : Prop :=
  ∀ (attempt : Nat) (jitter : ℚ), 1 ≤ attempt → (attempt : Int) ≤ s.maxRetries → 0 ≤ jitter →
    jitter ≤ s.backoffJitter → ∃ delay, computeBackoff s attempt jitter = .ok delay ∧
      delay ≤ s.backoffMaxSeconds + s.backoffJitter

/-- A prompt that is throttled for good ends in the 429. -/
def ThrottledEnds (s : Settings) : Prop :=
  ∀ (Failure : Type) (prompt : String) (outcomes : Nat → Outcome Failure) (jitters : Nat → ℚ),
    Persistent outcomes →
      RaisesRateLimit outcomes (inferWithRetry s (computeBackoff s) prompt outcomes jitters).2

/-- A 429 that ends in a result is counted as exhausted. -/
def ExhaustionCounted (s : Settings) : Prop :=
  ∀ (e : Engine) (f : InFlight) (jitter retryAfter : ℚ) (result : InferenceResult) (cost : ℚ)
    (credited exhausted : Bool),
    settle s f.item f.attempt jitter (.rateLimited retryAfter) =
        .record result cost credited exhausted →
      (e.record f result cost credited exhausted).metrics.retriesExhausted =
        e.metrics.retriesExhausted + 1

theorem retriesExhausted_record (f : InFlight) (result : InferenceResult) (cost : ℚ)
    (credited exhausted : Bool) (e : Engine) :
    (e.record f result cost credited exhausted).metrics.retriesExhausted =
      e.metrics.retriesExhausted + if exhausted then 1 else 0 := by
  rcases record_cases f result cost credited exhausted e with filed | ⟨_, ended⟩
  · rw [filed]
    rfl
  · rw [ended]
    rfl

theorem computeBackoff_overflow (s : Settings) {attempt : Nat} (late : 1025 ≤ attempt)
    (jitter : ℚ) :
    computeBackoff s attempt jitter = .error "int too large to convert to float" := by
  unfold computeBackoff
  rw [if_pos (by omega)]

/-! ### Within the range of a float -/

theorem backoffBounded_of_small (small : s.maxRetries ≤ 1024) : BackoffBounded s := by
  intro attempt jitter _ within _ drawn
  refine ⟨_, computeBackoff_eq_exact s (by omega) jitter, ?_⟩
  exact add_le_add (min_le_right _ _) drawn

theorem throttledEnds_of_small (small : s.maxRetries ≤ 1024) : ThrottledEnds s := by
  intro Failure prompt outcomes jitters persistent
  obtain ⟨error, retryAfter, last⟩ := persistent s.maxRetries.toNat
  refine ⟨s.maxRetries.toNat, error, retryAfter, last, ?_⟩
  have limit : ((s.maxRetries.toNat : Nat) : Int) = max 0 s.maxRetries := by omega
  unfold inferWithRetry
  rw [loop_computeBackoff small]
  have retried := @loop_retries _ s prompt outcomes jitters s.maxRetries.toNat
    (fun k _ => persistent k) (le_of_eq limit)
  unfold inferWithRetry at retried
  rw [retried, loop_last (Or.inr (by omega)), last]
  rfl

theorem exhaustionCounted_of_small (small : s.maxRetries ≤ 1024) : ExhaustionCounted s := by
  intro e f jitter retryAfter result cost credited exhausted settled
  have ways := settles s f.item f.attempt jitter (.rateLimited retryAfter)
  rw [settled] at ways
  rw [retriesExhausted_record]
  cases ways with
  | succeeded reply result answers id prompt success attempts price => exact answers.elim
  | failed reply error credited unanswered printable uncancelled overflow =>
      have both := overflow retryAfter rfl
      omega
  | exhausted retryAfter spent => rfl

/-! ### Beyond it -/

theorem not_backoffBounded (draw : 0 ≤ s.backoffJitter) (large : 1025 ≤ s.maxRetries) :
    ¬BackoffBounded s := by
  intro bounded
  obtain ⟨delay, computed, _⟩ := bounded 1025 0 (by omega) large (le_refl 0) draw
  rw [computeBackoff_overflow s (le_refl 1025)] at computed
  cases computed

/-- From any attempt before, a throttled prompt gets to attempt 1025. -/
theorem loop_overflow (large : 1025 ≤ s.maxRetries) (persistent : Persistent outcomes)
    (left : Nat) : ∀ attempt, attempt + left = 1024 →
      (loop s (computeBackoff s) prompt outcomes jitters attempt).2 =
        .backoffRaised "int too large to convert to float" := by
  induction left with
  | zero =>
      intro attempt last
      obtain ⟨error, retryAfter, throttled⟩ := persistent attempt
      have budget : ¬s.maxRetries < ((attempt + 1 : Nat) : Int) := by omega
      rw [loop]
      simp only [throttled, if_neg budget, computeBackoff_overflow s (by omega : 1025 ≤ attempt + 1)]
  | succ left ih =>
      intro attempt before
      obtain ⟨error, retryAfter, throttled⟩ := persistent attempt
      have budget : ¬s.maxRetries < ((attempt + 1 : Nat) : Int) := by omega
      rw [loop]
      simp only [throttled, if_neg budget,
        computeBackoff_eq_exact s (by omega : attempt + 1 ≤ 1024)]
      exact ih (attempt + 1) (by omega)

theorem inferWithRetry_overflow (large : 1025 ≤ s.maxRetries) (persistent : Persistent outcomes) :
    (inferWithRetry s (computeBackoff s) prompt outcomes jitters).2 =
      .backoffRaised "int too large to convert to float" :=
  loop_overflow large persistent 1024 0 rfl

theorem not_throttledEnds (large : 1025 ≤ s.maxRetries) : ¬ThrottledEnds s := by
  intro ends
  have persistent : Persistent (fun _ => Outcome.rateLimited "429 Too Many Requests" 0) :=
    fun _ => ⟨_, _, rfl⟩
  obtain ⟨_, error, _, _, raised⟩ := ends String "hello" _ (fun _ => 0) persistent
  rw [inferWithRetry_overflow large persistent] at raised
  cases raised

theorem not_exhaustionCounted (large : 1025 ≤ s.maxRetries) : ¬ExhaustionCounted s := by
  intro counted
  let item : WorkItem :=
    { seq := 0
      id := "prompt-1"
      prompt := "hello" }
  let f : InFlight :=
    { jobId := "a"
      item := item
      start := 0
      attempt := 1025 }
  have within : ¬s.maxRetries < ((1025 : Nat) : Int) := by omega
  have settled : settle s f.item f.attempt 0 (.rateLimited 0) =
      .record (failure item "int too large to convert to float") 0 false false := by
    simp only [settle, f, if_neg within, computeBackoff_overflow s (le_refl 1025)]
  have more := counted (Engine.new { settings := s, fingerprint := fun _ _ => "" }) f _ _ _ _ _ _
    settled
  rw [retriesExhausted_record] at more
  simp at more

end BackoffOverflow
end BatchInference
