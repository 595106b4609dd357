/-
Draining a source of items until it has none left.

A source hands out one item after the other and at last reports that nothing is
left. Two sources of which one follows the other, except for items that are hidden
from it, drain into the same sequence of visible items.
-/

import Mathlib.Data.List.Basic

set_option autoImplicit false

/-- Asking again and again from `s` yields `items` and then nothing. -/
inductive Drains {State Item : Type} (next : State → State × Option Item) :
    State → List Item → Prop
  | done {s s' : State} : next s = (s', none) → Drains next s []
  | more {s s' : State} {item : Item} {items : List Item} :
      next s = (s', some item) → Drains next s' items → Drains next s (item :: items)

namespace Drains

variable {State Item : Type} {next : State → State × Option Item} {s t : State}
  {items items' : List Item}

theorem unique (drained : Drains next s items) (drained' : Drains next s items') :
    items = items' := by
  induction drained generalizing items' with
  | done ended =>
      cases drained' with
      | done _ => rfl
      | more given _ =>
          rw [ended] at given
          cases given
  | more given _ ih =>
      cases drained' with
      | done ended =>
          rw [given] at ended
          cases ended
      | more given' rest =>
          rw [given] at given'
          cases given'
          rw [ih rest]

/-- A source whose measure shrinks with every item runs dry. -/
theorem exists_of_measure (measure : State → Nat) (sound : State → Prop)
    (keeps : ∀ s s' item, sound s → next s = (s', some item) →
      sound s' ∧ measure s' < measure s) (start : sound s) :
    ∃ items, Drains next s items := by
  generalize bound : measure s = size
  induction size using Nat.strongRecOn generalizing s with
  | ind size ih =>
      cases given : next s with
      | mk s' result =>
          cases result with
          | none => exact ⟨[], .done given⟩
          | some item =>
              obtain ⟨still, smaller⟩ := keeps s s' item start given
              rw [bound] at smaller
              obtain ⟨items, rest⟩ := ih (measure s') smaller still rfl
              exact ⟨item :: items, .more given rest⟩

/-- A relation under which the second source ends with the first, ignores its hidden
items and hands out its visible ones. -/
theorem hide (visible : Item → Bool) (related : State → State → Prop)
    (ends : ∀ s s' t, related s t → next s = (s', none) → ∃ t', next t = (t', none))
    (hidden : ∀ s s' t item, related s t → next s = (s', some item) → visible item = false →
      related s' t)
    (shown : ∀ s s' t item, related s t → next s = (s', some item) → visible item = true →
      ∃ t', next t = (t', some item) ∧ related s' t')
    (start : related s t) (drained : Drains next s items) :
    Drains next t (items.filter visible) := by
  induction drained generalizing t with
  | done ended =>
      obtain ⟨t', endedToo⟩ := ends _ _ t start ended
      exact .done endedToo
  | @more s s' item items given _ ih =>
      cases seen : visible item with
      | false =>
          rw [List.filter_cons_of_neg (by simp [seen])]
          exact ih (hidden s s' t item start given seen)
      | true =>
          rw [List.filter_cons_of_pos seen]
          obtain ⟨t', followed, still⟩ := shown s s' t item start given seen
          exact .more followed (ih still)

end Drains
