/-
Additive increase and decrease by any law: a level between two bounds.

A raise adds one below the top. A lowering applies the law and then only the lower
bound, so whether the level stays in a range depends on the law alone.
-/

import Mathlib.Algebra.Order.Ring.Int
import Mathlib.Tactic.Linarith

set_option autoImplicit false

structure Aimd where
  bottom : Int
  top : Int
  shrink : Int → Int

namespace Aimd

inductive Signal where
  | raise
  | lower

def respond (law : Aimd) (level : Int) : Signal → Int
  | .raise => if level < law.top then level + 1 else level
  | .lower => max law.bottom (law.shrink level)

def after (law : Aimd) (level : Int) (signals : List Signal) : Int :=
  signals.foldl law.respond level

variable {law : Aimd}

theorem after_append (level : Int) (earlier later : List Signal) :
    law.after level (earlier ++ later) = law.after (law.after level earlier) later :=
  List.foldl_append

/-- A range up to the top that lowering does not leave is never left. -/
theorem stays {low level : Int} (above : low ≤ level) (below : level ≤ law.top)
    (closed : ∀ level, low ≤ level → level ≤ law.top →
      low ≤ law.respond level .lower ∧ law.respond level .lower ≤ law.top)
    (signals : List Signal) :
    low ≤ law.after level signals ∧ law.after level signals ≤ law.top := by
  induction signals generalizing level with
  | nil => exact ⟨above, below⟩
  | cons signal rest ih =>
      have inside : low ≤ law.respond level signal ∧ law.respond level signal ≤ law.top := by
        cases signal with
        | raise =>
            simp only [respond]
            split
            · constructor
              · omega
              · omega
            · exact ⟨above, below⟩
        | lower => exact closed level above below
      exact ih inside.1 inside.2

/-- Raises alone lead to the top. -/
theorem climbs {level : Int} (below : level ≤ law.top) :
    law.after level (List.replicate (law.top - level).toNat .raise) = law.top := by
  generalize counted : (law.top - level).toNat = raises
  induction raises generalizing level with
  | zero =>
      have there : level = law.top := by omega
      exact there
  | succ raises ih =>
      have short : level < law.top := by omega
      rw [List.replicate_succ]
      change law.after (law.respond level .raise) (List.replicate raises .raise) = law.top
      simp only [respond, if_pos short]
      apply ih
      · omega
      · omega

/-- A law that shrinks every level from `low` on leads below it, unless the lower
bound is reached first. -/
theorem falls {low : Int} (shrinks : ∀ level, low ≤ level → law.shrink level < level)
    (deep : law.bottom < low) (level : Int) :
    ∃ signals, law.after level signals < low := by
  by_cases above : low ≤ level
  · have smaller : law.respond level .lower < level := by
      have shrunk := shrinks level above
      simp only [respond]
      omega
    obtain ⟨signals, fallen⟩ := falls shrinks deep (law.respond level .lower)
    exact ⟨.lower :: signals, fallen⟩
  · exact ⟨[], not_le.mp above⟩
termination_by (level - low + 1).toNat
decreasing_by omega

end Aimd
