/-
The streak of the adaptive limiter, read off its history.

At the maximum the streak goes on growing without a rise, so the counter alone does not
say when the limit rises next. The successes since the last throttle or rise do.
-/

import BatchInference.LimiterRuns
import Mathlib.Data.List.DropRight

set_option autoImplicit false

namespace BatchInference
namespace AdaptiveConcurrencyLimiter

/-- Every operation, with the limiter as it was before. -/
def history : AdaptiveConcurrencyLimiter → List LimiterOp →
    List (AdaptiveConcurrencyLimiter × LimiterOp)
  | _, [] => []
  | l, op :: ops => (l, op) :: history (l.apply op) ops

/-- A throttle, or a success that raises the limit. -/
def restarts (entry : AdaptiveConcurrencyLimiter × LimiterOp) : Bool :=
  match entry.2 with
  | .recordThrottle => true
  | .recordSuccess => decide (entry.1.limit < entry.1.recordSuccess.limit)
  | _ => false

/-- The successes since the last throttle or rise, or since the construction. -/
def successesSince (l : AdaptiveConcurrencyLimiter) (ops : List LimiterOp) : Nat :=
  (((l.history ops).rtakeWhile (fun entry => !restarts entry)).map Prod.snd).count .recordSuccess

/-- A success raises the limit, by one, exactly when it has been earned since the last
throttle or rise. No streak from before a throttle counts after it. -/
structure Earned (top increaseAfter : Int) (l : AdaptiveConcurrencyLimiter)
    (ops : List LimiterOp) : Prop where
  rises : (l.after ops).recordSuccess.limit = (l.after ops).limit + 1 ↔
    (l.after ops).limit < top ∧ increaseAfter ≤ l.successesSince ops + 1
  stays : (l.after ops).recordSuccess.limit ≠ (l.after ops).limit + 1 →
    (l.after ops).recordSuccess.limit = (l.after ops).limit
  neverBanked : ∀ earlier later, ops = earlier ++ .recordThrottle :: later →
    (l.after ops).recordSuccess.limit = (l.after ops).limit + 1 →
      increaseAfter ≤ later.count .recordSuccess + 1

theorem history_concat (l : AdaptiveConcurrencyLimiter) (ops : List LimiterOp) (op : LimiterOp) :
    l.history (ops ++ [op]) = l.history ops ++ [(l.after ops, op)] := by
  induction ops generalizing l with
  | nil => rfl
  | cons first ops ih =>
      change (l, first) :: (l.apply first).history (ops ++ [op]) = _
      rw [ih (l.apply first)]
      rfl

/-- Permits taken and given back do not touch the streak. -/
theorem streak_apply (l : AdaptiveConcurrencyLimiter) (op : LimiterOp)
    (noThrottle : op ≠ .recordThrottle) (noSuccess : op ≠ .recordSuccess) :
    (l.apply op).successStreak = l.successStreak ∧ restarts (l, op) = false := by
  cases op with
  | acquireOnce task =>
      refine ⟨?_, rfl⟩
      simp only [apply, acquireOnce]
      split
      · rfl
      · rfl
  | leave task => exact ⟨rfl, rfl⟩
  | release => exact ⟨rfl, rfl⟩
  | recordThrottle => exact absurd rfl noThrottle
  | recordSuccess => exact absurd rfl noSuccess

/-- The counter of a fresh limiter is the number of successes since the last restart. -/
theorem successStreak_after {l : AdaptiveConcurrencyLimiter} (fresh : l.successStreak = 0)
    (ops : List LimiterOp) : (l.after ops).successStreak = l.successesSince ops := by
  induction ops using List.reverseRecOn with
  | nil => exact fresh
  | append_singleton ops op ih =>
      have last : (l.after (ops ++ [op])) = (l.after ops).apply op := after_append l ops [op]
      rw [last]
      unfold successesSince at ih ⊢
      rw [history_concat, List.rtakeWhile_concat]
      by_cases throttle : op = .recordThrottle
      · subst throttle
        rfl
      by_cases success : op = .recordSuccess
      · subst success
        change (l.after ops).recordSuccess.successStreak = _
        rcases (l.after ops).recordSuccess_cases with ⟨_, raised⟩ | ⟨_, counted⟩
        · have restart : restarts (l.after ops, .recordSuccess) = true := by
            rw [restarts, decide_eq_true_iff, raised]
            exact Int.lt_succ _
          rw [raised, restart]
          rfl
        · have goesOn : restarts (l.after ops, .recordSuccess) = false := by
            rw [restarts, decide_eq_false_iff_not, counted]
            exact lt_irrefl _
          rw [counted, goesOn]
          simp only [ih, Bool.not_false, if_true, List.map_append, List.map_cons, List.map_nil,
            List.count_append, List.count_singleton_self, Nat.cast_add, Nat.cast_one]
      · obtain ⟨kept, goesOn⟩ := (l.after ops).streak_apply op throttle success
        rw [kept, ih, goesOn]
        simp only [Bool.not_false, if_true, List.map_append, List.map_cons, List.map_nil,
          List.count_append, List.count_singleton, beq_iff_eq, if_neg success, add_zero]

theorem map_snd_history (l : AdaptiveConcurrencyLimiter) (ops : List LimiterOp) :
    (l.history ops).map Prod.snd = ops := by
  induction ops generalizing l with
  | nil => rfl
  | cons op ops ih =>
      change op :: ((l.apply op).history ops).map Prod.snd = op :: ops
      rw [ih (l.apply op)]

theorem successesSince_le (l : AdaptiveConcurrencyLimiter) (ops : List LimiterOp) :
    l.successesSince ops ≤ ops.count .recordSuccess := by
  have suffix := List.rtakeWhile_suffix (fun entry => !restarts entry) (l.history ops)
  have shorter := (suffix.sublist.map Prod.snd).count_le LimiterOp.recordSuccess
  rw [map_snd_history] at shorter
  exact shorter

theorem increaseAfter_apply (l : AdaptiveConcurrencyLimiter) (op : LimiterOp) :
    (l.apply op).increaseAfter = l.increaseAfter := by
  cases op with
  | acquireOnce task =>
      simp only [apply, acquireOnce]
      split
      · rfl
      · rfl
  | leave task => rfl
  | release => rfl
  | recordThrottle => rfl
  | recordSuccess =>
      change l.recordSuccess.increaseAfter = l.increaseAfter
      rcases l.recordSuccess_cases with ⟨_, raised⟩ | ⟨_, counted⟩
      · rw [raised]
      · rw [counted]

theorem increaseAfter_after (l : AdaptiveConcurrencyLimiter) (ops : List LimiterOp) :
    (l.after ops).increaseAfter = l.increaseAfter := by
  induction ops generalizing l with
  | nil => rfl
  | cons op ops ih => exact (ih (l.apply op)).trans (l.increaseAfter_apply op)

theorem maximum_after (l : AdaptiveConcurrencyLimiter) (ops : List LimiterOp) :
    (l.after ops).maximum = l.maximum :=
  congrArg Aimd.top (l.law_after ops)

theorem rises_iff (l : AdaptiveConcurrencyLimiter) :
    l.recordSuccess.limit = l.limit + 1 ↔
      l.limit < l.maximum ∧ l.increaseAfter ≤ l.successStreak + 1 := by
  rcases l.recordSuccess_cases with ⟨enough, raised⟩ | ⟨short, counted⟩
  · rw [raised]
    exact ⟨fun _ => enough.symm, fun _ => rfl⟩
  · rw [counted]
    constructor
    · intro impossible
      exact absurd impossible.symm (Int.lt_succ _).ne'
    · intro both
      exact absurd both.symm short

/-- Whatever happens to a fresh limiter, its rises are earned. -/
theorem earned_of_fresh {l : AdaptiveConcurrencyLimiter} (fresh : l.successStreak = 0)
    (ops : List LimiterOp) : Earned l.maximum l.increaseAfter l ops where
  rises := by
    rw [rises_iff, l.maximum_after, l.increaseAfter_after, successStreak_after fresh]
  stays := by
    intro unraised
    rcases (l.after ops).recordSuccess_cases with ⟨_, raised⟩ | ⟨_, counted⟩
    · exact absurd (congrArg limit raised) unraised
    · rw [counted]
  neverBanked := by
    intro earlier later split raised
    -- The limiter that a throttle leaves behind is as fresh as a new one.
    have restarted : (l.after ops).successStreak =
        ((l.after earlier).recordThrottle).successesSince later := by
      rw [split, after_append]
      exact successStreak_after rfl later
    have enough := ((l.after ops).rises_iff.mp raised).2
    rw [restarted, l.increaseAfter_after] at enough
    have atMost := ((l.after earlier).recordThrottle).successesSince_le later
    omega

/-- For every limiter and every sequence of its operations, the limit rises with a success
exactly if it is below the maximum and at least `increase_after` successes, this one
included, came after the last throttle or rise. -/
theorem increase_earned (initial minimum : Int) (maximum : Option Int) (factor : ℚ)
    (increaseAfter : Int) (ops : List LimiterOp) :
    Earned (maximum.getD initial) increaseAfter
      (new initial minimum maximum factor increaseAfter) ops := by
  have fresh : (new initial minimum maximum factor increaseAfter).successStreak = 0 := rfl
  exact earned_of_fresh fresh ops

/-- Seven successes at the maximum are of no use after a throttle. -/
example :
    ([1, 2, 3].map (fun successes => ((new 4 1 none (1 / 2) 3).after
      (List.replicate 7 .recordSuccess ++ [.recordThrottle] ++
        List.replicate successes .recordSuccess)).limit)) = [2, 2, 3] := by
  decide +kernel

end AdaptiveConcurrencyLimiter
end BatchInference
