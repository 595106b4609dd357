/-
The rate limiting primitives of app/ratelimit.py.

Both suspend only at the points modelled here: the bucket in `asyncio.sleep`,
the limiter in `Condition.wait`. Their locks are held only between suspension
points, so they are never contended and have no state in the model.
-/

import BatchInference.Lib.WaitQueue
import Mathlib.Data.Rat.Floor

set_option autoImplicit false

namespace BatchInference

/-- The identity of an asyncio task. -/
abbrev TaskId := Nat

structure TokenBucket where
  rate : ℚ
  capacity : ℚ
  tokens : ℚ
  last : Option ℚ

namespace TokenBucket

def new (ratePerSec : ℚ) (capacity : Option ℚ) : TokenBucket :=
  let cap := capacity.getD (max ratePerSec 1)
  { rate := ratePerSec
    capacity := cap
    tokens := cap
    last := none }

def refill (now : ℚ) (b : TokenBucket) : TokenBucket :=
  match b.last with
  | none => { b with last := some now }
  | some last =>
      { b with
        last := some now
        tokens := min b.capacity (b.tokens + (now - last) * b.rate) }

/-- One iteration of the loop of `acquire`: no wait means that `n` tokens were
granted, otherwise the time to sleep before the next iteration is returned. -/
def acquireOnce (n now : ℚ) (b : TokenBucket) : TokenBucket × Option ℚ :=
  if b.rate ≤ 0 then (b, none)
  else
    let b := b.refill now
    if n ≤ b.tokens then ({ b with tokens := b.tokens - n }, none)
    else (b, some ((n - b.tokens) / b.rate))

end TokenBucket

/-- Python's `int` of a rational: rounding towards zero. -/
def pyInt (x : ℚ) : Int := if 0 ≤ x then ⌊x⌋ else ⌈x⌉

structure AdaptiveConcurrencyLimiter where
  minimum : Int
  maximum : Int
  limit : Int
  decrease : ℚ
  increaseAfter : Int
  inUse : Int
  successStreak : Int
  cond : WaitQueue TaskId

namespace AdaptiveConcurrencyLimiter

def new (initial minimum : Int) (maximum : Option Int) (decreaseFactor : ℚ)
    (increaseAfter : Int) : AdaptiveConcurrencyLimiter :=
  let top := maximum.getD initial
  let bottom := min minimum top
  { minimum := bottom
    maximum := top
    limit := max bottom (min initial top)
    decrease := decreaseFactor
    increaseAfter := increaseAfter
    inUse := 0
    successStreak := 0
    cond := WaitQueue.empty }

/-- One test of the loop of `acquire`: a permit is taken, or the task goes to
sleep on the condition. -/
def acquireOnce (task : TaskId) (l : AdaptiveConcurrencyLimiter) :
    AdaptiveConcurrencyLimiter × Bool :=
  if l.limit ≤ l.inUse then ({ l with cond := l.cond.wait task }, false)
  else ({ l with inUse := l.inUse + 1 }, true)

/-- A sleeping task runs again, or gives up: its future leaves the condition. -/
def leave (task : TaskId) (l : AdaptiveConcurrencyLimiter) : AdaptiveConcurrencyLimiter :=
  { l with cond := l.cond.leave task }

def release (l : AdaptiveConcurrencyLimiter) : AdaptiveConcurrencyLimiter :=
  { l with
    inUse := l.inUse - 1
    cond := l.cond.notify }

def recordThrottle (l : AdaptiveConcurrencyLimiter) : AdaptiveConcurrencyLimiter :=
  { l with
    successStreak := 0
    limit := max l.minimum (pyInt (l.limit * l.decrease)) }

def recordSuccess (l : AdaptiveConcurrencyLimiter) : AdaptiveConcurrencyLimiter :=
  let streak := l.successStreak + 1
  if l.increaseAfter ≤ streak ∧ l.limit < l.maximum then
    { l with
      limit := l.limit + 1
      successStreak := 0 }
  else { l with successStreak := streak }

theorem recordSuccess_cases (l : AdaptiveConcurrencyLimiter) :
    (l.increaseAfter ≤ l.successStreak + 1 ∧ l.limit < l.maximum) ∧
        l.recordSuccess =
          { l with
            limit := l.limit + 1
            successStreak := 0 } ∨
      ¬(l.increaseAfter ≤ l.successStreak + 1 ∧ l.limit < l.maximum) ∧
        l.recordSuccess = { l with successStreak := l.successStreak + 1 } := by
  by_cases enough : l.increaseAfter ≤ l.successStreak + 1 ∧ l.limit < l.maximum
  · exact Or.inl ⟨enough, if_pos enough⟩
  · exact Or.inr ⟨enough, if_neg enough⟩

@[simp] theorem cond_recordSuccess (l : AdaptiveConcurrencyLimiter) :
    l.recordSuccess.cond = l.cond := by
  rcases l.recordSuccess_cases with ⟨_, raised⟩ | ⟨_, kept⟩
  · rw [raised]
  · rw [kept]

end AdaptiveConcurrencyLimiter

end BatchInference
