/-
Runs of the adaptive limiter: any sequence of its operations.

`record_success` and `record_throttle` are the signals of an additive increase with
a multiplicative decrease; a permit taken or given back does not touch the limit.
Only the increase looks at the maximum, and the decrease at nothing but the
minimum, so the range of the limit is a matter of the settings.
-/

import BatchInference.RateLimit
import BatchInference.Lib.Aimd
import Mathlib.Tactic.NormNum

set_option autoImplicit false

namespace BatchInference

inductive LimiterOp where
  | acquireOnce (task : TaskId)
  | leave (task : TaskId)
  | release
  | recordThrottle
  | recordSuccess
deriving DecidableEq

namespace AdaptiveConcurrencyLimiter

def apply (l : AdaptiveConcurrencyLimiter) : LimiterOp → AdaptiveConcurrencyLimiter
  | .acquireOnce task => (l.acquireOnce task).1
  | .leave task => l.leave task
  | .release => l.release
  | .recordThrottle => l.recordThrottle
  | .recordSuccess => l.recordSuccess

def after (l : AdaptiveConcurrencyLimiter) (ops : List LimiterOp) : AdaptiveConcurrencyLimiter :=
  ops.foldl apply l

/-- What the limit obeys, apart from when it is raised. -/
def law (l : AdaptiveConcurrencyLimiter) : Aimd :=
  { bottom := l.minimum
    top := l.maximum
    shrink := fun limit => pyInt (limit * l.decrease) }

theorem after_append (l : AdaptiveConcurrencyLimiter) (earlier later : List LimiterOp) :
    l.after (earlier ++ later) = (l.after earlier).after later :=
  List.foldl_append

theorem law_apply (l : AdaptiveConcurrencyLimiter) (op : LimiterOp) : (l.apply op).law = l.law := by
  cases op with
  | acquireOnce task =>
      simp only [apply, acquireOnce]
      split <;> rfl
  | leave task => rfl
  | release => rfl
  | recordThrottle => rfl
  | recordSuccess =>
      change l.recordSuccess.law = l.law
      rcases l.recordSuccess_cases with ⟨_, raised⟩ | ⟨_, counted⟩
      · rw [raised]
        rfl
      · rw [counted]
        rfl

theorem law_after (l : AdaptiveConcurrencyLimiter) (ops : List LimiterOp) :
    (l.after ops).law = l.law := by
  induction ops generalizing l with
  | nil => rfl
  | cons op ops ih => exact (ih (l.apply op)).trans (l.law_apply op)

/-- Every operation is at most one signal. -/
theorem limit_apply (l : AdaptiveConcurrencyLimiter) (op : LimiterOp) :
    ∃ signals, (l.apply op).limit = l.law.after l.limit signals := by
  cases op with
  | acquireOnce task =>
      refine ⟨[], ?_⟩
      simp only [apply, acquireOnce]
      split <;> rfl
  | leave task => exact ⟨[], rfl⟩
  | release => exact ⟨[], rfl⟩
  | recordThrottle => exact ⟨[.lower], rfl⟩
  | recordSuccess =>
      change ∃ signals, l.recordSuccess.limit = l.law.after l.limit signals
      rcases l.recordSuccess_cases with ⟨enough, raised⟩ | ⟨_, counted⟩
      · refine ⟨[.raise], ?_⟩
        have below : l.limit < l.law.top := enough.2
        simp only [raised, Aimd.after, List.foldl_cons, List.foldl_nil, Aimd.respond,
          if_pos below]
      · rw [counted]
        exact ⟨[], rfl⟩

/-- The limit after any operations is one that the law can produce. -/
theorem limit_after (l : AdaptiveConcurrencyLimiter) (ops : List LimiterOp) :
    ∃ signals, (l.after ops).limit = l.law.after l.limit signals := by
  induction ops generalizing l with
  | nil => exact ⟨[], rfl⟩
  | cons op ops ih =>
      obtain ⟨first, moved⟩ := l.limit_apply op
      obtain ⟨rest, ended⟩ := ih (l.apply op)
      refine ⟨first ++ rest, ?_⟩
      rw [Aimd.after_append, ← moved, ← l.law_apply op]
      exact ended

/-- A long enough streak of successes raises a limit below the maximum by one. -/
theorem streak_raises (l : AdaptiveConcurrencyLimiter) (below : l.limit < l.maximum) :
    ∃ ops, (l.after ops).limit = l.limit + 1 := by
  generalize missing : (l.increaseAfter - l.successStreak).toNat = successes
  induction successes generalizing l with
  | zero =>
      rcases l.recordSuccess_cases with ⟨_, raised⟩ | ⟨short, _⟩
      · exact ⟨[.recordSuccess], congrArg limit raised⟩
      · omega
  | succ successes ih =>
      rcases l.recordSuccess_cases with ⟨_, raised⟩ | ⟨_, counted⟩
      · exact ⟨[.recordSuccess], congrArg limit raised⟩
      · obtain ⟨ops, raised⟩ := ih l.recordSuccess
          (by rw [counted]; exact below) (by rw [counted]; simp only; omega)
        refine ⟨.recordSuccess :: ops, ?_⟩
        rw [counted] at raised
        change ((l.recordSuccess).after ops).limit = l.limit + 1
        rw [counted]
        exact raised

/-- Every signal can be given. -/
theorem respond_realized (l : AdaptiveConcurrencyLimiter) (signal : Aimd.Signal) :
    ∃ ops, (l.after ops).limit = l.law.respond l.limit signal := by
  cases signal with
  | raise =>
      by_cases below : l.limit < l.law.top
      · simp only [Aimd.respond, if_pos below]
        exact l.streak_raises below
      · refine ⟨[], ?_⟩
        simp only [Aimd.respond, if_neg below]
        rfl
  | lower => exact ⟨[.recordThrottle], rfl⟩

theorem after_realized (l : AdaptiveConcurrencyLimiter) (signals : List Aimd.Signal) :
    ∃ ops, (l.after ops).limit = l.law.after l.limit signals := by
  induction signals generalizing l with
  | nil => exact ⟨[], rfl⟩
  | cons signal rest ih =>
      obtain ⟨first, moved⟩ := l.respond_realized signal
      obtain ⟨later, ended⟩ := ih (l.after first)
      refine ⟨first ++ later, ?_⟩
      rw [after_append, ended, l.law_after first, moved]
      rfl

/-! ### The range of the limit -/

variable {initial minimum : Int} {maximum : Option Int} {factor : ℚ} {increaseAfter : Int}

/-- The limit is a positive one between the bounds of the constructor. -/
def InRange (minimum top : Int) (l : AdaptiveConcurrencyLimiter) : Prop :=
  max 1 (min minimum top) ≤ l.limit ∧ l.limit ≤ top

theorem pyInt_of_nonneg {x : ℚ} (nonneg : 0 ≤ x) : pyInt x = ⌊x⌋ := if_pos nonneg

/-- A level of at least one shrinks below itself by any factor below one. -/
theorem shrinks_of_factor (nonneg : 0 ≤ factor) (small : factor < 1) {level : Int}
    (positive : 1 ≤ level) : pyInt (level * factor) < level := by
  have level_pos : (0 : ℚ) < level := by exact_mod_cast positive
  have product_nonneg : 0 ≤ (level : ℚ) * factor := mul_nonneg level_pos.le nonneg
  rw [pyInt_of_nonneg product_nonneg, Int.floor_lt]
  calc (level : ℚ) * factor < level * 1 := mul_lt_mul_of_pos_left small level_pos
    _ = level := mul_one _

/-- The range is kept by a throttle if the floor is positive or nothing shrinks,
and if not even the maximum is pushed above itself. -/
theorem throttle_closed {low top bottom level : Int} (nonneg : 0 ≤ factor)
    (low_eq : low = max 1 bottom) (floor : 1 ≤ bottom ∨ 1 ≤ factor)
    (fits : (top : ℚ) * factor < top + 1) (bottom_le : bottom ≤ top) (above : low ≤ level) (below : level ≤ top) :
    low ≤ max bottom (pyInt (level * factor)) ∧ max bottom (pyInt (level * factor)) ≤ top := by
  have positive : (1 : Int) ≤ level := by omega
  have level_pos : (0 : ℚ) < level := by exact_mod_cast positive
  have product_nonneg : 0 ≤ (level : ℚ) * factor := mul_nonneg level_pos.le nonneg
  rw [pyInt_of_nonneg product_nonneg]
  constructor
  · rcases floor with bounded | grows
    · omega
    · have kept : level ≤ ⌊(level : ℚ) * factor⌋ := by
        rw [Int.le_floor]
        calc (level : ℚ) = level * 1 := (mul_one _).symm
          _ ≤ level * factor := mul_le_mul_of_nonneg_left grows level_pos.le
      omega
  · have capped : ⌊(level : ℚ) * factor⌋ ≤ top := by
      rw [← Int.lt_add_one_iff, Int.floor_lt]
      push_cast
      have smaller : (level : ℚ) ≤ top := by exact_mod_cast below
      have scaled := mul_le_mul_of_nonneg_right smaller nonneg
      linarith
    omega

/-- The limit stays in its range under every sequence of operations exactly if the
minimum is positive or nothing shrinks, and no factor pushes the maximum above
itself. -/
theorem limit_in_range_iff (initial minimum : Int) (maximum : Option Int) (factor : ℚ)
    (increaseAfter : Int) (one_le_initial : 1 ≤ initial)
    (one_le_maximum : 1 ≤ maximum.getD initial) (factor_nonneg : 0 ≤ factor) :
    (∀ ops, InRange minimum (maximum.getD initial)
        ((new initial minimum maximum factor increaseAfter).after ops)) ↔
      (1 ≤ minimum ∨ 1 ≤ factor) ∧
        ((maximum.getD initial : Int) : ℚ) * factor < (maximum.getD initial : Int) + 1 := by
  generalize made : new initial minimum maximum factor increaseAfter = l
  have bottom : l.law.bottom = min minimum (maximum.getD initial) := by rw [← made]; rfl
  have top : l.law.top = maximum.getD initial := by rw [← made]; rfl
  have shrink : ∀ level, l.law.shrink level = pyInt (level * factor) := by
    intro level
    rw [← made]
    rfl
  have start : l.limit = max (min minimum (maximum.getD initial))
      (min initial (maximum.getD initial)) := by
    rw [← made]
    rfl
  generalize maximum.getD initial = roof at *
  constructor
  · intro always
    have inside : ∀ signals, max 1 (min minimum roof) ≤ l.law.after l.limit signals ∧
        l.law.after l.limit signals ≤ roof := by
      intro signals
      obtain ⟨ops, reached⟩ := l.after_realized signals
      have range := always ops
      unfold InRange at range
      rw [reached] at range
      exact range
    have start_le : l.limit ≤ l.law.top := by omega
    constructor
    · by_contra neither
      obtain ⟨noFloor, small⟩ := not_or.mp neither
      -- Throttles alone bring the limit below one.
      have shrinks : ∀ level, 1 ≤ level → l.law.shrink level < level := by
        intro level positive
        rw [shrink]
        exact shrinks_of_factor factor_nonneg (not_le.mp small) positive
      obtain ⟨signals, fallen⟩ := Aimd.falls shrinks (by omega) l.limit
      have range := inside signals
      omega
    · -- One throttle at the maximum shows what the factor does to it.
      have range := inside (List.replicate (l.law.top - l.limit).toNat .raise ++ [.lower])
      rw [Aimd.after_append, Aimd.climbs start_le] at range
      simp only [Aimd.after, List.foldl_cons, List.foldl_nil, Aimd.respond, shrink, top] at range
      have roof_pos : (0 : ℚ) < roof := by exact_mod_cast one_le_maximum
      rw [pyInt_of_nonneg (mul_nonneg roof_pos.le factor_nonneg)] at range
      have floored : ⌊(roof : ℚ) * factor⌋ < roof + 1 := by omega
      rw [Int.floor_lt] at floored
      push_cast at floored
      exact floored
  · rintro ⟨floor, fits⟩ ops
    obtain ⟨signals, reached⟩ := l.limit_after ops
    unfold InRange
    rw [reached, ← top]
    apply Aimd.stays
    · omega
    · omega
    · intro level above below
      simp only [Aimd.respond, shrink, bottom, top]
      have bounded : 1 ≤ min minimum roof ∨ 1 ≤ factor := by
        rcases floor with positive | grows
        · left
          omega
        · exact Or.inr grows
      have within : level ≤ roof := by
        rw [← top]
        exact below
      rw [top] at above
      exact throttle_closed factor_nonneg rfl bounded fits (min_le_right _ _) above within

/-- Halving keeps the range with a positive minimum and leaves it without one. -/
theorem limit_in_range_halving :
    (∀ ops, InRange 1 4 ((new 4 1 (some 4) (1 / 2) 5).after ops)) ∧
      ¬∀ ops, InRange 0 4 ((new 4 0 (some 4) (1 / 2) 5).after ops) := by
  constructor
  · exact (limit_in_range_iff 4 1 (some 4) (1 / 2) 5 (by decide) (by decide)
      (by norm_num)).mpr ⟨Or.inl (by decide), by norm_num⟩
  · intro always
    have floor := ((limit_in_range_iff 4 0 (some 4) (1 / 2) 5 (by decide) (by decide)
      (by norm_num)).mp always).1
    norm_num at floor

/-- A decrease factor of two lifts the limit above the maximum. -/
theorem limit_leaves_range_doubling :
    ¬∀ (initial minimum : Int) (maximum : Option Int) (factor : ℚ) (increaseAfter : Int),
      1 ≤ initial → 1 ≤ maximum.getD initial → 0 ≤ factor →
        ∀ ops, InRange minimum (maximum.getD initial)
          ((new initial minimum maximum factor increaseAfter).after ops) := by
  intro always
  have range := always 4 1 (some 4) 2 5 (by decide) (by decide) (by norm_num) [.recordThrottle]
  have doubled : ((new 4 1 (some 4) 2 5).after [.recordThrottle]).limit = 8 := by
    decide +kernel
  have capped := range.2
  rw [doubled] at capped
  revert capped
  decide

end AdaptiveConcurrencyLimiter

end BatchInference
