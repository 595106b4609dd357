/-
Runs of the token bucket that the engine builds.

A run is any sequence of iterations of `acquire`, by any number of tasks, at
readings of the loop clock that never go back. Whether a lone `acquire` gets
through is decided by the capacity: the tokens never exceed it, so a bucket that
cannot hold a whole token never grants one.
-/

import BatchInference.EngineRate

set_option autoImplicit false

namespace BatchInference
namespace TokenBucketRuns

open TokenBucket EngineRate Regulator

/-- The clock has not gone back since the last reading. -/
def mayRead (b : TokenBucket) (now : ℚ) : Bool := b.last.all (fun last => decide (last ≤ now))

/-- Iterations of `acquire`; each shows whether it was granted or how long it waits. -/
def bucketMachine (b : TokenBucket) : Machine TokenBucket ℚ (Option ℚ) :=
  { initial := b
    step := fun b now =>
      if mayRead b now then some ((b.acquireOnce 1 now).1, [(b.acquireOnce 1 now).2]) else none }

/-- An `acquire` without competitors is granted in its first iteration, or in its
second one, which starts when the sleep of the first has passed. -/
def GrantsWithinTwo (b : TokenBucket) : Prop :=
  ∀ now, mayRead b now = true →
    ∀ wait, (b.acquireOnce 1 now).2 = some wait →
      ∀ later, now + wait ≤ later → ((b.acquireOnce 1 now).1.acquireOnce 1 later).2 = none

theorem mayRead_iff (b : TokenBucket) (now : ℚ) :
    mayRead b now = true ↔ ∀ last, b.last = some last → last ≤ now := by
  unfold mayRead
  cases b.last with
  | none => simp
  | some last => simp

variable {s : Settings} {b : TokenBucket} {now : ℚ} {calls : List ℚ}

/-- The bucket of a run keeps its rate and its tokens within the capacity. -/
theorem reachable_regulates {p : Params} {ok : TokenBucket → ℚ → TokenBucket → Prop}
    {events : List (Option ℚ)} (positive : 0 < p.settings.providerMaxRps)
    (burst : 0 ≤ p.settings.providerBurst)
    (run : (bucketMachine (Engine.new p).rateLimiter).Reaches ok events b) :
    ∃ now calls, BucketRegulates p.settings b now calls := by
  have capacity_nonneg : 0 ≤ bucketCapacity p.settings := by
    unfold bucketCapacity
    split
    · exact positive.le
    · exact burst
  induction run with
  | refl =>
      refine ⟨0, [], ?_⟩
      exact
        { rate := rfl
          capacity := rfl
          read := fun last impossible => by cases impossible
          regulated := Regulated.start positive.le capacity_nonneg }
  | @tail events emitted middle last label earlier admissible stepped ih =>
      obtain ⟨now, calls, regulates⟩ := ih
      simp only [bucketMachine] at stepped
      split at stepped
      · rename_i allowed
        rw [Option.some.injEq, Prod.mk.injEq] at stepped
        have current : BucketRegulates p.settings middle label calls :=
          { rate := regulates.rate
            capacity := regulates.capacity
            read := (mayRead_iff middle label).mp allowed
            regulated := regulates.regulated }
        have iterated := acquireOnce_regulates positive current
        rw [stepped.1] at iterated
        exact ⟨label, _, iterated⟩
      · cases stepped

/-- What one iteration does with a positive rate. -/
theorem acquireOnce_cases (rate : 0 < b.rate) (now : ℚ) :
    (1 ≤ (b.refill now).tokens ∧ (b.acquireOnce 1 now).2 = none) ∨
      ((b.refill now).tokens < 1 ∧
        b.acquireOnce 1 now = (b.refill now, some ((1 - (b.refill now).tokens) / b.rate))) := by
  have limited : ¬b.rate ≤ 0 := not_le.mpr rate
  have sameRate : (b.refill now).rate = b.rate := by
    unfold refill
    split <;> rfl
  unfold acquireOnce
  rw [if_neg limited]
  by_cases enough : 1 ≤ (b.refill now).tokens
  · left
    exact ⟨enough, by simp only [if_pos enough]⟩
  · right
    exact ⟨not_le.mp enough, by simp only [if_neg enough, sameRate]⟩

theorem refill_last (b : TokenBucket) (now : ℚ) : (b.refill now).last = some now := by
  unfold refill
  split <;> rfl

theorem refill_capacity (b : TokenBucket) (now : ℚ) : (b.refill now).capacity = b.capacity := by
  unfold refill
  split <;> rfl

theorem refill_rate (b : TokenBucket) (now : ℚ) : (b.refill now).rate = b.rate := by
  unfold refill
  split <;> rfl

theorem refill_le_capacity (full : b.tokens ≤ b.capacity) (now : ℚ) :
    (b.refill now).tokens ≤ b.capacity := by
  unfold refill
  split
  · exact full
  · exact min_le_left _ _

/-- A bucket that cannot hold one token grants nothing at all. -/
theorem acquireOnce_starves (rate : 0 < b.rate) (full : b.tokens ≤ b.capacity)
    (small : b.capacity < 1) (now : ℚ) : (b.acquireOnce 1 now).2 ≠ none := by
  intro granted
  rcases acquireOnce_cases rate now with ⟨enough, _⟩ | ⟨_, waits⟩
  · have upper := refill_le_capacity full now
    linarith
  · rw [waits] at granted
    cases granted

/-- The sleep of a refused iteration is long enough for one whole token, if the
bucket can hold it. -/
theorem granted_after_wait (rate : 0 < b.rate) (large : 1 ≤ b.capacity) {now wait later : ℚ}
    (refused : (b.acquireOnce 1 now).2 = some wait) (slept : now + wait ≤ later) :
    ((b.acquireOnce 1 now).1.acquireOnce 1 later).2 = none := by
  rcases acquireOnce_cases rate now with ⟨_, granted⟩ | ⟨short, waits⟩
  · rw [granted] at refused
    cases refused
  · rw [waits] at refused ⊢
    simp only [Option.some.injEq] at refused
    have filled : 1 ≤ ((b.refill now).refill later).tokens := by
      have refilled : ((b.refill now).refill later).tokens =
          min b.capacity ((b.refill now).tokens + (later - now) * b.rate) := by
        rw [refill]
        simp only [refill_last, refill_capacity, refill_rate]
      have inflow : 1 - (b.refill now).tokens ≤ (later - now) * b.rate := by
        have asleep : wait ≤ later - now := by linarith
        rw [← refused, div_le_iff₀ rate] at asleep
        exact asleep
      rw [refilled]
      exact le_min large (by linarith)
    have sameRate : 0 < (b.refill now).rate := by
      rw [refill_rate]
      exact rate
    rcases acquireOnce_cases sameRate later with ⟨_, granted⟩ | ⟨short, _⟩
    · exact granted
    · exact absurd filled (not_le.mpr short)

theorem grants_after_wait (rate : 0 < b.rate) (large : 1 ≤ b.capacity) : GrantsWithinTwo b :=
  fun _ _ _ refused _ slept => granted_after_wait rate large refused slept

theorem never_granted {p : Params} (positive : 0 < p.settings.providerMaxRps)
    (burst : 0 ≤ p.settings.providerBurst) (small : bucketCapacity p.settings < 1)
    {events : List (Option ℚ)}
    (run : (bucketMachine (Engine.new p).rateLimiter).Reaches Machine.anyStep events b) :
    none ∉ events := by
  induction run with
  | refl => exact List.not_mem_nil
  | @tail events emitted middle last label earlier _ stepped ih =>
      obtain ⟨_, _, regulates⟩ := reachable_regulates positive burst earlier
      have rate : 0 < middle.rate := by
        rw [regulates.rate]
        exact positive
      have full : middle.tokens ≤ middle.capacity := by
        rw [regulates.capacity]
        exact regulates.regulated.level_le
      have tiny : middle.capacity < 1 := by
        rw [regulates.capacity]
        exact small
      simp only [bucketMachine] at stepped
      split at stepped
      · rw [Option.some.injEq, Prod.mk.injEq] at stepped
        rw [← stepped.2, List.mem_append, List.mem_singleton]
        rintro (granted | now)
        · exact ih granted
        · exact acquireOnce_starves rate full tiny label now.symm
      · cases stepped

/-- The capacity holds a whole token. -/
def HoldsOneToken (s : Settings) : Prop :=
  1 ≤ s.providerBurst ∨ s.providerBurst = 0 ∧ 1 ≤ s.providerMaxRps

theorem holdsOneToken_iff : HoldsOneToken s ↔ 1 ≤ bucketCapacity s := by
  unfold HoldsOneToken bucketCapacity
  split
  · rename_i noBurst
    rw [noBurst]
    norm_num
  · rename_i burst
    simp only [burst, false_and, or_false]

/-- From every reachable bucket a lone `acquire` gets through within two
iterations exactly if the configured capacity holds a whole token. -/
theorem acquire_returns_within_two_iff (p : Params) (positive : 0 < p.settings.providerMaxRps)
    (burst : 0 ≤ p.settings.providerBurst) {events : List (Option ℚ)} {b : TokenBucket}
    (reached : (bucketMachine (Engine.new p).rateLimiter).Reaches Machine.anyStep events b) :
    GrantsWithinTwo b ↔ HoldsOneToken p.settings := by
  obtain ⟨now, calls, regulates⟩ := reachable_regulates positive burst reached
  have rate : 0 < b.rate := by
    rw [regulates.rate]
    exact positive
  have full : b.tokens ≤ b.capacity := by
    rw [regulates.capacity]
    exact regulates.regulated.level_le
  rw [holdsOneToken_iff, ← regulates.capacity]
  constructor
  · intro grants
    by_contra small
    have starved : b.capacity < 1 := not_le.mp small
    have allowed : mayRead b now = true := (mayRead_iff b now).mpr regulates.read
    rcases acquireOnce_cases rate now with ⟨enough, _⟩ | ⟨_, waits⟩
    · have upper := refill_le_capacity full now
      linarith
    · -- The second iteration comes at the very end of the sleep and is refused.
      have granted := grants now allowed _ (by rw [waits]) _ (le_refl _)
      rw [waits] at granted
      have sameRate : 0 < (b.refill now).rate := by
        rw [refill_rate]
        exact rate
      have stillFull : (b.refill now).tokens ≤ (b.refill now).capacity := by
        rw [refill_capacity]
        exact refill_le_capacity full now
      have stillSmall : (b.refill now).capacity < 1 := by
        rw [refill_capacity]
        exact starved
      exact acquireOnce_starves sameRate stillFull stillSmall _ granted
  · intro large
    exact grants_after_wait rate large

/-- The settings of an engine whose rate is the given one and whose burst is unset. -/
def ratedAt (rate : ℚ) : Params :=
  { settings := { providerMaxRps := rate }
    fingerprint := fun _ _ => "" }

theorem acquire_returns_within_two_iff_rates :
    GrantsWithinTwo ((Engine.new (ratedAt 2)).rateLimiter.acquireOnce 1 0).1 ∧
      ¬GrantsWithinTwo (Engine.new (ratedAt (1 / 2))).rateLimiter := by
  constructor
  · have once : (bucketMachine (Engine.new (ratedAt 2)).rateLimiter).Reaches Machine.anyStep
        ([] ++ [none]) ((Engine.new (ratedAt 2)).rateLimiter.acquireOnce 1 0).1 :=
      Machine.Run.snoc .refl 0 trivial rfl
    exact (acquire_returns_within_two_iff (ratedAt 2) (by decide +kernel) (by decide +kernel)
      once).mpr (Or.inr ⟨rfl, by decide +kernel⟩)
  · intro grants
    have holds := (acquire_returns_within_two_iff (ratedAt (1 / 2)) (by decide +kernel)
      (by decide +kernel) .refl).mp grants
    rcases holds with burst | ⟨_, rate⟩
    · exact absurd burst (by decide +kernel)
    · exact absurd rate (by decide +kernel)

/-- At half a call per second the bucket is refused a second time, after the
whole sleep. -/
theorem acquire_refused_twice_at_half_rate :
    ¬∀ p : Params, 0 < p.settings.providerMaxRps → 0 ≤ p.settings.providerBurst →
      ∀ (events : List (Option ℚ)) (b : TokenBucket),
        (bucketMachine (Engine.new p).rateLimiter).Reaches Machine.anyStep events b →
          GrantsWithinTwo b := by
  intro always
  have grants := always (ratedAt (1 / 2)) (by decide +kernel) (by decide +kernel) [] _ .refl
  have granted := grants 0 rfl 1 (by decide +kernel) 1 (by norm_num)
  revert granted
  decide +kernel

end TokenBucketRuns

end BatchInference
