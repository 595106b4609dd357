/-
Regulation of events by a level that fills at a constant rate.

The level never exceeds the capacity, and every granted event takes one unit
from it. Then the number of events in any window of time is at most the capacity
plus what flows in during the window. The level is only known at the times at
which it was read, so the account is kept relative to the last reading.
-/

import Mathlib.Algebra.Order.Field.Basic
import Mathlib.Data.List.Count
import Mathlib.Tactic.Linarith
import Mathlib.Tactic.Ring

set_option autoImplicit false

namespace Regulator

variable {K : Type} [Field K] [LinearOrder K] [IsStrictOrderedRing K]

/-- The number of events that happened between `first` and `last`, both included. -/
def within (first last : K) (events : List K) : Nat :=
  events.countP (fun time => decide (first ≤ time ∧ time ≤ last))

/-- The account of a regulated sequence of events. -/
structure Regulated (rate capacity level : K) (reading : Option K) (events : List K) : Prop where
  rate_nonneg : 0 ≤ rate
  level_nonneg : 0 ≤ level
  level_le : level ≤ capacity
  past : ∀ time ∈ events, ∃ read, reading = some read ∧ time ≤ read
  window : ∀ first last, first ≤ last →
    (within first last events : K) ≤ capacity + rate * (last - first)
  account : ∀ read first last, reading = some read → first ≤ read → read ≤ last →
    (within first last events : K) + level ≤ capacity + rate * (read - first)

variable {rate capacity level : K} {reading : Option K} {events : List K}

omit [Field K] [IsStrictOrderedRing K] in
theorem within_snoc (first last time : K) :
    within first last (events ++ [time]) =
      within first last events + if first ≤ time ∧ time ≤ last then 1 else 0 := by
  unfold within
  rw [List.countP_append, List.countP_singleton]
  by_cases inside : first ≤ time ∧ time ≤ last
  · simp [inside]
  · simp [inside]

private theorem within_eq_zero {first last read : K}
    (past : ∀ time ∈ events, time ≤ read) (before : read < first) :
    within first last events = 0 := by
  unfold within
  rw [List.countP_eq_zero]
  intro time member inside
  have upper := past time member
  have lower := (of_decide_eq_true inside).1
  linarith

/-- Before the first reading nothing has happened and the level is full. -/
theorem Regulated.start (rate_nonneg : 0 ≤ rate) (capacity_nonneg : 0 ≤ capacity) :
    Regulated rate capacity capacity none [] where
  rate_nonneg := rate_nonneg
  level_nonneg := capacity_nonneg
  level_le := le_refl _
  past := fun _ member => by cases member
  window := by
    intro first last ordered
    have flow := mul_nonneg rate_nonneg (sub_nonneg.mpr ordered)
    simp only [within, List.countP_nil, Nat.cast_zero]
    linarith
  account := fun _ _ _ impossible => by cases impossible

/-- The first reading leaves the level full. -/
theorem Regulated.firstReading (regulated : Regulated rate capacity level none []) (now : K) :
    Regulated rate capacity level (some now) [] where
  rate_nonneg := regulated.rate_nonneg
  level_nonneg := regulated.level_nonneg
  level_le := regulated.level_le
  past := fun _ member => by cases member
  window := regulated.window
  account := by
    intro read first last _ before _
    have flow := mul_nonneg regulated.rate_nonneg (sub_nonneg.mpr before)
    have upper := regulated.level_le
    simp only [within, List.countP_nil, Nat.cast_zero]
    linarith

/-- A later reading lets the level rise by what has flowed in, up to the capacity. -/
theorem Regulated.refill {read now : K}
    (regulated : Regulated rate capacity level (some read) events) (later : read ≤ now) :
    Regulated rate capacity (min capacity (level + (now - read) * rate)) (some now) events where
  rate_nonneg := regulated.rate_nonneg
  level_nonneg := by
    have flow := mul_nonneg (sub_nonneg.mpr later) regulated.rate_nonneg
    have lower := regulated.level_nonneg
    have upper := regulated.level_le
    exact le_min (by linarith) (by linarith)
  level_le := min_le_left _ _
  past := by
    intro time member
    obtain ⟨_, same, upper⟩ := regulated.past time member
    cases same
    exact ⟨now, rfl, upper.trans later⟩
  window := regulated.window
  account := by
    intro read' first last same before after
    cases same
    rcases le_or_gt first read with started | unstarted
    · -- The window was open at the last reading: add the inflow since then.
      have before := regulated.account read first last rfl started (later.trans after)
      have raised := min_le_right capacity (level + (now - read) * rate)
      have split : rate * (now - first) = rate * (read - first) + (now - read) * rate := by ring
      rw [split]
      linarith
    · -- The window opened since then: it is still empty.
      have past : ∀ time ∈ events, time ≤ read := by
        intro time member
        obtain ⟨_, same, upper⟩ := regulated.past time member
        cases same
        exact upper
      rw [within_eq_zero past unstarted, Nat.cast_zero]
      have full := min_le_left capacity (level + (now - read) * rate)
      have flow := mul_nonneg regulated.rate_nonneg (sub_nonneg.mpr before)
      linarith

/-- An event at the time of the last reading takes one unit. -/
theorem Regulated.grant {now : K}
    (regulated : Regulated rate capacity level (some now) events) (enough : 1 ≤ level) :
    Regulated rate capacity (level - 1) (some now) (events ++ [now]) where
  rate_nonneg := regulated.rate_nonneg
  level_nonneg := by linarith
  level_le := by
    have upper := regulated.level_le
    linarith
  past := by
    intro time member
    rcases List.mem_append.mp member with earlier | new
    · exact regulated.past time earlier
    · rw [List.mem_singleton] at new
      exact ⟨now, rfl, new.le⟩
  window := by
    intro first last ordered
    rw [within_snoc]
    by_cases inside : first ≤ now ∧ now ≤ last
    · rw [if_pos inside]
      have account := regulated.account now first last rfl inside.1 inside.2
      have flow := mul_le_mul_of_nonneg_left (sub_le_sub_right inside.2 first)
        regulated.rate_nonneg
      rw [Nat.cast_add, Nat.cast_one]
      linarith
    · rw [if_neg inside, Nat.add_zero]
      exact regulated.window first last ordered
  account := by
    intro read first last same before after
    cases same
    rw [within_snoc, if_pos ⟨before, after⟩, Nat.cast_add, Nat.cast_one]
    have account := regulated.account now first last rfl before after
    linarith

end Regulator
