/-
The retry loop of app/engine.py: `infer_with_retry` with all its effects.

The provider is an infinite sequence of outcomes, of which the loop consumes as
many as it makes calls. The backoff is a parameter of the loop: the floats of the
source overflow for an attempt beyond 1024, exact arithmetic does not.
-/

import BatchInference.Engine
import Mathlib.Data.ENat.Lattice

set_option autoImplicit false

namespace BatchInference

/-- How one call of the provider comes out. Exceptions are kept as objects, and
the 429 error carries the `retry_after` of the server. -/
inductive Outcome (Failure : Type) where
  | value (output : String)
  | rateLimited (error : Failure) (retryAfter : ℚ)
  | failed (error : Failure)

/-- How the coroutine ends. -/
inductive RetryResult (Failure : Type) where
  | returned (output : String) (attempts : Nat)
  | raised (error : Failure)
  /-- `compute_backoff` itself raised. -/
  | backoffRaised (message : String)

/-- What the loop does, in order. -/
inductive RetryEffect where
  | call (prompt : String)
  | onRetry (attempt : Nat) (delay : ℚ)
  | sleep (delay : ℚ)
deriving DecidableEq

/-- `compute_backoff` in exact arithmetic. -/
def exactBackoff (s : Settings) (attempt : Nat) (jitter : ℚ) : ℚ :=
  min (s.backoffBaseSeconds * 2 ^ (attempt - 1)) s.backoffMaxSeconds + jitter

/-- The floats of the source are exact enough up to attempt 1024. -/
theorem computeBackoff_eq_exact (s : Settings) {attempt : Nat} (early : attempt ≤ 1024)
    (jitter : ℚ) : computeBackoff s attempt jitter = .ok (exactBackoff s attempt jitter) := by
  unfold computeBackoff
  rw [if_neg (by omega)]
  rfl

namespace RetryLoop

variable {Failure : Type}

/-- The loop from its head, after `attempt` calls; `jitters` are the draws of the
random generator. -/
def loop (s : Settings) (backoff : Nat → ℚ → Except String ℚ) (prompt : String)
    (outcomes : Nat → Outcome Failure) (jitters : Nat → ℚ) (attempt : Nat) :
    List RetryEffect × RetryResult Failure :=
  match outcomes attempt with
  | .value output => ([.call prompt], .returned output (attempt + 1))
  | .failed error => ([.call prompt], .raised error)
  | .rateLimited error retryAfter =>
      if s.maxRetries < (attempt + 1 : Nat) then ([.call prompt], .raised error)
      else
        match backoff (attempt + 1) (jitters attempt) with
        | .error message => ([.call prompt], .backoffRaised message)
        | .ok seconds =>
            let delay := max seconds retryAfter
            let rest := loop s backoff prompt outcomes jitters (attempt + 1)
            (.call prompt :: .onRetry (attempt + 1) delay :: .sleep delay :: rest.1, rest.2)
termination_by (s.maxRetries - attempt).toNat

def inferWithRetry (s : Settings) (backoff : Nat → ℚ → Except String ℚ) (prompt : String)
    (outcomes : Nat → Outcome Failure) (jitters : Nat → ℚ) :
    List RetryEffect × RetryResult Failure :=
  loop s backoff prompt outcomes jitters 0

/-- The loop in exact arithmetic. -/
def exactly (s : Settings) (attempt : Nat) (jitter : ℚ) : Except String ℚ :=
  .ok (exactBackoff s attempt jitter)

/-! ### The policy -/

/-- Exactly the first `throttles` outcomes are 429s, before one that is not. -/
structure LeadingThrottles (outcomes : Nat → Outcome Failure) (throttles : ℕ∞) : Prop where
  throttled : ∀ k : Nat, (k : ℕ∞) < throttles →
    ∃ error retryAfter, outcomes k = .rateLimited error retryAfter
  settled : ∀ k : Nat, throttles = k →
    ∀ error retryAfter, outcomes k ≠ .rateLimited error retryAfter

/-- The server's hint. -/
def hint : Outcome Failure → ℚ
  | .rateLimited _ retryAfter => retryAfter
  | _ => 0

/-- The sleep after call `k`, counted from zero. -/
def delay (s : Settings) (outcomes : Nat → Outcome Failure) (jitters : Nat → ℚ) (k : Nat) : ℚ :=
  max (min (s.backoffBaseSeconds * 2 ^ k) s.backoffMaxSeconds + jitters k) (hint (outcomes k))

/-- A failed call with its notice and its sleep. -/
def retryRound (s : Settings) (prompt : String) (outcomes : Nat → Outcome Failure)
    (jitters : Nat → ℚ) (k : Nat) : List RetryEffect :=
  [.call prompt, .onRetry (k + 1) (delay s outcomes jitters k),
    .sleep (delay s outcomes jitters k)]

/-- What the loop makes of its last outcome. -/
def lastResult (calls : Nat) : Outcome Failure → RetryResult Failure
  | .value output => .returned output calls
  | .rateLimited error _ => .raised error
  | .failed error => .raised error

def sleepOf : RetryEffect → Option ℚ
  | .sleep delay => some delay
  | _ => none

def noticeOf : RetryEffect → Option (Nat × ℚ)
  | .onRetry attempt delay => some (attempt, delay)
  | _ => none

/-- A run of the loop that retries `retries` times and then ends. -/
structure FollowsPolicy (s : Settings) (prompt : String) (outcomes : Nat → Outcome Failure)
    (jitters : Nat → ℚ) (retries : Nat) (run : List RetryEffect × RetryResult Failure) : Prop where
  /-- Every retry is a call, its notice and its sleep, and the last call is
  followed by nothing. -/
  trace : run.1 =
    (List.range retries).flatMap (retryRound s prompt outcomes jitters) ++ [.call prompt]
  calls : run.1.count (.call prompt) = retries + 1
  sleeps : run.1.filterMap sleepOf = (List.range retries).map (delay s outcomes jitters)
  notices : run.1.filterMap noticeOf =
    (List.range retries).map (fun k => (k + 1, delay s outcomes jitters k))
  result : run.2 = lastResult (retries + 1) (outcomes retries)
  /-- No delay undercuts the server, and none is longer than the cap and the
  jitter allow unless the server asks for it. -/
  bounded : ∀ k < retries, hint (outcomes k) ≤ delay s outcomes jitters k ∧
    delay s outcomes jitters k ≤
      max (s.backoffMaxSeconds + s.backoffJitter) (hint (outcomes k))

variable {s : Settings} {prompt : String} {outcomes : Nat → Outcome Failure} {jitters : Nat → ℚ}

/-- One turn of the loop that retries. -/
theorem loop_retry {attempt : Nat} {error : Failure} {retryAfter : ℚ}
    (throttled : outcomes attempt = .rateLimited error retryAfter)
    (budget : (attempt : Int) < s.maxRetries) :
    loop s (exactly s) prompt outcomes jitters attempt =
      (retryRound s prompt outcomes jitters attempt ++
          (loop s (exactly s) prompt outcomes jitters (attempt + 1)).1,
        (loop s (exactly s) prompt outcomes jitters (attempt + 1)).2) := by
  have within : ¬s.maxRetries < ((attempt + 1 : Nat) : Int) := by
    push_cast
    omega
  rw [loop]
  simp only [throttled, if_neg within, exactly]
  simp only [retryRound, delay, hint, throttled, exactBackoff, Nat.add_sub_cancel,
    List.cons_append, List.nil_append]

theorem loop_last {backoff : Nat → ℚ → Except String ℚ} {attempt : Nat}
    (ends : (∀ error retryAfter, outcomes attempt ≠ .rateLimited error retryAfter) ∨
      s.maxRetries ≤ attempt) :
    loop s backoff prompt outcomes jitters attempt =
      ([.call prompt], lastResult (attempt + 1) (outcomes attempt)) := by
  rw [loop]
  cases heard : outcomes attempt with
  | value output => rfl
  | failed error => rfl
  | rateLimited error retryAfter =>
      have spent : s.maxRetries < ((attempt + 1 : Nat) : Int) := by
        rcases ends with noThrottle | noBudget
        · exact absurd heard (noThrottle error retryAfter)
        · push_cast
          omega
      simp only [if_pos spent]
      rfl

/-- Within a budget of 1024 the floats of the source change nothing. -/
theorem loop_computeBackoff (small : s.maxRetries ≤ 1024) (attempt : Nat) :
    loop s (computeBackoff s) prompt outcomes jitters attempt =
      loop s (exactly s) prompt outcomes jitters attempt := by
  fun_induction loop s (exactly s) prompt outcomes jitters attempt with
  | case1 attempt output heard =>
      rw [loop]
      simp only [heard]
  | case2 attempt error heard =>
      rw [loop]
      simp only [heard]
  | case3 attempt error retryAfter heard spent =>
      rw [loop]
      simp only [heard, if_pos spent]
  | case4 attempt error retryAfter heard left message overflow =>
      cases overflow
  | case5 attempt error retryAfter heard left seconds computed delay rest ih =>
      have early : attempt + 1 ≤ 1024 := by omega
      rw [loop]
      simp only [heard, if_neg left, computeBackoff_eq_exact s early]
      cases computed
      rw [ih]

/-- The engine settles a 429 within its budget as the loop does. -/
theorem settle_rateLimited (item : WorkItem) {attempt : Nat} (jitter retryAfter : ℚ)
    (budget : (attempt : Int) ≤ s.maxRetries) (early : attempt ≤ 1024) :
    settle s item attempt jitter (.rateLimited retryAfter) =
      .retry (max (exactBackoff s attempt jitter) retryAfter) := by
  have within : ¬s.maxRetries < (attempt : Int) := by omega
  simp only [settle, if_neg within, computeBackoff_eq_exact s early]

theorem loop_retries (retries : Nat)
    (throttled : ∀ k < retries, ∃ error retryAfter, outcomes k = .rateLimited error retryAfter)
    (budget : (retries : Int) ≤ max 0 s.maxRetries) :
    inferWithRetry s (exactly s) prompt outcomes jitters =
      ((List.range retries).flatMap (retryRound s prompt outcomes jitters) ++
          (loop s (exactly s) prompt outcomes jitters retries).1,
        (loop s (exactly s) prompt outcomes jitters retries).2) := by
  induction retries with
  | zero => rfl
  | succ retries ih =>
      obtain ⟨error, retryAfter, last⟩ := throttled retries (Nat.lt_succ_self retries)
      have left : (retries : Int) < s.maxRetries := by
        push_cast at budget
        omega
      rw [ih (fun k earlier => throttled k (Nat.lt_succ_of_lt earlier)) (by omega),
        loop_retry last left, List.range_succ, List.flatMap_append]
      simp only [List.flatMap_cons, List.flatMap_nil, List.append_nil, List.append_assoc]

theorem count_calls (retries : Nat) :
    ((List.range retries).flatMap (retryRound s prompt outcomes jitters)).count (.call prompt) = retries := by
  induction retries with
  | zero => rfl
  | succ retries ih =>
      rw [List.range_succ, List.flatMap_append, List.count_append, ih]
      simp [retryRound]

theorem filterMap_retryRounds {Shown : Type} (reading : RetryEffect → Option Shown)
    (shown : Nat → Shown)
    (once : ∀ k, (retryRound s prompt outcomes jitters k).filterMap reading = [shown k]) (retries : Nat) :
    ((List.range retries).flatMap (retryRound s prompt outcomes jitters)).filterMap reading =
      (List.range retries).map shown := by
  induction retries with
  | zero => rfl
  | succ retries ih =>
      rw [List.range_succ, List.flatMap_append, List.filterMap_append, ih, List.map_append]
      simp only [List.flatMap_cons, List.flatMap_nil, List.append_nil, once, List.map_cons,
        List.map_nil]

theorem delay_bounds (draws : ∀ k, 0 ≤ jitters k ∧ jitters k ≤ s.backoffJitter) (k : Nat) :
    hint (outcomes k) ≤ delay s outcomes jitters k ∧
      delay s outcomes jitters k ≤
        max (s.backoffMaxSeconds + s.backoffJitter) (hint (outcomes k)) := by
  have capped : min (s.backoffBaseSeconds * 2 ^ k) s.backoffMaxSeconds ≤ s.backoffMaxSeconds :=
    min_le_right _ _
  have drawn := (draws k).2
  constructor
  · exact le_max_right _ _
  · exact max_le_max (add_le_add capped drawn) (le_refl _)

/-- The number of retries is decided by the budget and the leading 429s alone. -/
theorem followsPolicy_of_retries (draws : ∀ k, 0 ≤ jitters k ∧ jitters k ≤ s.backoffJitter)
    {retries : Nat}
    (throttled : ∀ k < retries, ∃ error retryAfter, outcomes k = .rateLimited error retryAfter)
    (budget : (retries : Int) ≤ max 0 s.maxRetries)
    (ends : (∀ error retryAfter, outcomes retries ≠ .rateLimited error retryAfter) ∨
      s.maxRetries ≤ retries) :
    FollowsPolicy s prompt outcomes jitters retries
      (inferWithRetry s (exactly s) prompt outcomes jitters) := by
  rw [loop_retries retries throttled budget, loop_last ends]
  constructor
  · rfl
  · rw [List.count_append, count_calls]
    simp
  · rw [List.filterMap_append,
      filterMap_retryRounds sleepOf (delay s outcomes jitters) (fun _ => rfl)]
    simp [sleepOf]
  · rw [List.filterMap_append,
      filterMap_retryRounds noticeOf (fun k => (k + 1, delay s outcomes jitters k))
        (fun _ => rfl)]
    simp [noticeOf]
  · rfl
  · intro k _
    exact delay_bounds draws k

/-- `infer_with_retry` follows its policy on every sequence of outcomes: it
retries once for each leading 429 within the budget, and it ends with the outcome
of the call that follows. -/
theorem infer_with_retry_policy (s : Settings) (prompt : String)
    (outcomes : Nat → Outcome Failure) (jitters : Nat → ℚ)
    (draws : ∀ k, 0 ≤ jitters k ∧ jitters k ≤ s.backoffJitter) (throttles : ℕ∞)
    (leading : LeadingThrottles outcomes throttles) :
    ∃ retries : Nat, (retries : ℕ∞) = min throttles (s.maxRetries.toNat : ℕ∞) ∧
      ((∃ error retryAfter, outcomes retries = .rateLimited error retryAfter) ↔
        (s.maxRetries.toNat : ℕ∞) < throttles) ∧
      FollowsPolicy s prompt outcomes jitters retries
        (inferWithRetry s (exactly s) prompt outcomes jitters) := by
  have limit : ((s.maxRetries.toNat : Nat) : Int) = max 0 s.maxRetries := by omega
  by_cases beyond : (s.maxRetries.toNat : ℕ∞) < throttles
  · refine ⟨s.maxRetries.toNat, (min_eq_right (le_of_lt beyond)).symm, ?_, ?_⟩
    · exact ⟨fun _ => beyond, fun _ => leading.throttled _ beyond⟩
    · apply followsPolicy_of_retries draws
      · intro k earlier
        apply leading.throttled k
        exact lt_trans (Nat.cast_lt.mpr earlier) beyond
      · exact le_of_eq limit
      · right
        omega
  · have within : throttles ≤ (s.maxRetries.toNat : ℕ∞) := not_lt.mp beyond
    obtain ⟨retries, same⟩ := ENat.ne_top_iff_exists.mp (ne_top_of_le_ne_top
      (ENat.natCast_ne_top s.maxRetries.toNat) within)
    have noThrottle := leading.settled retries same.symm
    have few : retries ≤ s.maxRetries.toNat := by
      rw [← same, Nat.cast_le] at within
      exact within
    refine ⟨retries, ?_, ?_, ?_⟩
    · rw [same, min_eq_left within]
    · constructor
      · rintro ⟨error, retryAfter, heard⟩
        exact absurd heard (noThrottle error retryAfter)
      · intro more
        exact absurd more beyond
    · apply followsPolicy_of_retries draws
      · intro k earlier
        apply leading.throttled k
        rw [← same]
        exact Nat.cast_lt.mpr earlier
      · omega
      · exact Or.inl noThrottle

def twiceThrottled : Nat → Outcome Unit
  | 0 => .rateLimited () 0
  | 1 => .rateLimited () 5
  | _ => .value "ok::hello"

theorem infer_with_retry_policy_twice_throttled :
    inferWithRetry {} (exactly {}) "hello" twiceThrottled (fun _ => 0) =
      ([.call "hello", .onRetry 1 (1 / 5), .sleep (1 / 5), .call "hello", .onRetry 2 5, .sleep 5,
        .call "hello"], .returned "ok::hello" 3) := by
  have leading : LeadingThrottles twiceThrottled 2 := by
    constructor
    · intro k early
      have few : k < 2 := by exact_mod_cast early
      rcases (by omega : k = 0 ∨ k = 1) with rfl | rfl
      · exact ⟨(), 0, rfl⟩
      · exact ⟨(), 5, rfl⟩
    · intro k last error retryAfter heard
      have two : 2 = k := by exact_mod_cast last
      subst two
      cases heard
  obtain ⟨retries, few, _, policy⟩ := infer_with_retry_policy {} "hello" twiceThrottled
    (fun _ => 0) (fun _ => by norm_num) 2 leading
  have two : retries = 2 := by
    have least : min (2 : ℕ∞) ((5 : Int).toNat : ℕ∞) = 2 := by
      apply min_eq_left
      norm_num
    rw [least] at few
    exact_mod_cast few
  subst two
  apply Prod.ext
  · rw [policy.trace]
    simp [List.range_succ, retryRound, delay, hint, twiceThrottled]
    norm_num
  · exact policy.result

end RetryLoop

end BatchInference
