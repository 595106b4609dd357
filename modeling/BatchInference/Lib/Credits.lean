/-
Credits of participants in a weighted round.

In a round every participant may spend a credit equal to its weight. Where the
participants are served in a fixed order, each of two neighbours in that order
has either spent everything or not started when the other is in between. The
lead of one participant over another compares the shares of their weights that
they have spent; it is bounded, a service moves it by the weight of the other
side, and a refill of two exhausted participants leaves it alone.
-/

import Mathlib.Tactic.Linarith
import Mathlib.Tactic.Ring
import Mathlib.Algebra.Order.Ring.Int

set_option autoImplicit false

structure Share where
  weight : Int
  credit : Int

namespace Share

def used (a : Share) : Int := a.weight - a.credit

structure Bounded (a : Share) : Prop where
  nonneg : 0 ≤ a.credit
  le_weight : a.credit ≤ a.weight

/-- The first has spent its credit, or the second has not started. -/
def InTurn (a b : Share) : Prop := a.credit = 0 ∨ b.credit = b.weight

def spend (a : Share) : Share := { a with credit := a.credit - 1 }

def refill (a : Share) : Share := { a with credit := a.weight }

def lead (a b : Share) : Int := a.used * b.weight - b.used * a.weight

/-- Along the order of service a lead is never negative and never more than
one full share. -/
theorem lead_bounds {a b : Share} (aBounded : a.Bounded) (bBounded : b.Bounded)
    (turn : InTurn a b) : 0 ≤ lead a b ∧ lead a b ≤ a.weight * b.weight := by
  obtain ⟨aNonneg, aLe⟩ := aBounded
  obtain ⟨bNonneg, bLe⟩ := bBounded
  have aWeight : 0 ≤ a.weight := le_trans aNonneg aLe
  have bWeight : 0 ≤ b.weight := le_trans bNonneg bLe
  unfold lead used
  rcases turn with spent | full
  · rw [spent]
    constructor
    · have product := mul_nonneg aWeight bNonneg
      linarith
    · have product := mul_nonneg aWeight (sub_nonneg.mpr bLe)
      linarith
  · rw [full]
    constructor
    · have product := mul_nonneg (sub_nonneg.mpr aLe) bWeight
      linarith
    · have product := mul_nonneg aNonneg bWeight
      linarith

theorem lead_spend_left (a b : Share) : lead a.spend b = lead a b + b.weight := by
  unfold lead used spend
  ring

theorem lead_spend_right (a b : Share) : lead a b.spend = lead a b - a.weight := by
  unfold lead used spend
  ring

theorem lead_refill {a b : Share} (aSpent : a.credit = 0) (bSpent : b.credit = 0) :
    lead a.refill b.refill = lead a b := by
  unfold lead used refill
  rw [aSpent, bSpent]
  ring

end Share
