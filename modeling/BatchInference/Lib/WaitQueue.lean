/-
Condition variables as first-in first-out queues of waiters.

A waiter stays in the queue from the moment it goes to sleep until it runs
again. Notifying marks the first waiter that was not yet marked; a marked waiter
is runnable but has not resumed. The lemmas count both kinds of waiters.
-/

import BatchInference.Lib.Dict

set_option autoImplicit false

/-- Each waiter with the flag that says whether it has been notified. -/
structure WaitQueue (Waiter : Type) where
  waiters : Dict Waiter Bool

namespace WaitQueue

variable {Waiter : Type}

def empty : WaitQueue Waiter := { waiters := Dict.empty }

/-- The number of notified waiters that have not resumed. -/
def notified (q : WaitQueue Waiter) : Nat :=
  q.waiters.total (fun _ flag => if flag then 1 else 0)

/-- The number of waiters that nobody has notified. -/
def asleep (q : WaitQueue Waiter) : Nat :=
  q.waiters.total (fun _ flag => if flag then 0 else 1)

variable [DecidableEq Waiter]

def wait (who : Waiter) (q : WaitQueue Waiter) : WaitQueue Waiter :=
  { waiters := q.waiters.set who false }

/-- Mark the first waiter that is still unmarked, if there is one. -/
def notify (q : WaitQueue Waiter) : WaitQueue Waiter :=
  match q.waiters.find? (fun flag => !flag) with
  | some (who, _) => { waiters := q.waiters.set who true }
  | none => q

/-- The waiter runs again, or gives up, and leaves the queue. -/
def leave (who : Waiter) (q : WaitQueue Waiter) : WaitQueue Waiter :=
  { waiters := q.waiters.erase who }

omit [DecidableEq Waiter] in
@[simp] theorem notified_empty : (empty : WaitQueue Waiter).notified = 0 := rfl

omit [DecidableEq Waiter] in
@[simp] theorem asleep_empty : (empty : WaitQueue Waiter).asleep = 0 := rfl

theorem wait_counts (who : Waiter) (q : WaitQueue Waiter) (absent : q.waiters.get? who = none) :
    (q.wait who).notified = q.notified ∧ (q.wait who).asleep = q.asleep + 1 := by
  unfold wait notified asleep
  simp only [Dict.total_set_of_get?_none _ _ _ absent, Bool.false_eq_true, if_false, add_zero,
    and_self]

theorem get?_wait (who other : Waiter) (q : WaitQueue Waiter) :
    (q.wait who).waiters.get? other =
      if other = who then some false else q.waiters.get? other :=
  Dict.get?_set _ _ _ _

private theorem unmarked_read (q : WaitQueue Waiter) {who : Waiter} {flag : Bool}
    (found : q.waiters.find? (fun flag => !flag) = some (who, flag)) :
    q.waiters.get? who = some false := by
  have unmarked := List.find?_some found
  have member := List.mem_of_find?_eq_some found
  have cleared : flag = false := by simpa using unmarked
  subst cleared
  exact (q.waiters.mem_entries_iff who false).mp member

omit [DecidableEq Waiter] in
/-- Without an unmarked waiter nobody is asleep. -/
private theorem asleep_eq_zero (q : WaitQueue Waiter)
    (missing : q.waiters.find? (fun flag => !flag) = none) : q.asleep = 0 := by
  apply Dict.total_eq_zero
  intro who flag member
  have marked := List.find?_eq_none.mp missing (who, flag) member
  have set : flag = true := by simpa using marked
  rw [if_pos set]

/-- Notifying turns one sleeper into a notified waiter, if anybody sleeps. -/
theorem notify_counts (q : WaitQueue Waiter) :
    (q.asleep = 0 → q.notify = q) ∧
      (0 < q.asleep → q.notify.notified = q.notified + 1 ∧ q.notify.asleep + 1 = q.asleep) := by
  unfold notify
  cases found : q.waiters.find? (fun flag => !flag) with
  | none =>
      refine ⟨fun _ => rfl, fun positive => ?_⟩
      have none := q.asleep_eq_zero found
      omega
  | some entry =>
      obtain ⟨who, flag⟩ := entry
      have read := q.unmarked_read found
      have marked := Dict.total_set_of_get?_some
        (fun _ flag => if flag then 1 else 0) q.waiters true read
      have cleared := Dict.total_set_of_get?_some
        (fun _ flag => if flag then 0 else 1) q.waiters true read
      simp only [Bool.false_eq_true, if_true, if_false, add_zero] at marked cleared
      change (asleep _ + 1 = asleep q) at cleared
      refine ⟨fun none => ?_, fun _ => ⟨marked, cleared⟩⟩
      omega

theorem contains_notify (q : WaitQueue Waiter) (who : Waiter) :
    (q.notify.waiters.get? who).isSome = (q.waiters.get? who).isSome := by
  unfold notify
  cases found : q.waiters.find? (fun flag => !flag) with
  | none => rfl
  | some entry =>
      obtain ⟨first, flag⟩ := entry
      simp only [Dict.get?_set]
      by_cases same : who = first
      · subst same
        rw [q.unmarked_read found, if_pos rfl]
        rfl
      · rw [if_neg same]

theorem leave_counts (who : Waiter) (q : WaitQueue Waiter)
    (marked : q.waiters.get? who = some true) :
    (q.leave who).notified + 1 = q.notified ∧ (q.leave who).asleep = q.asleep := by
  have gone := Dict.total_erase_of_get?_some (fun _ flag => if flag then 1 else 0)
    q.waiters marked
  have kept := Dict.total_erase_of_get?_some (fun _ flag => if flag then 0 else 1)
    q.waiters marked
  simp only [if_true, add_zero] at gone kept
  exact ⟨gone, kept⟩

theorem notified_leave_le (who : Waiter) (q : WaitQueue Waiter) {flag : Bool}
    (read : q.waiters.get? who = some flag) : (q.leave who).notified ≤ q.notified := by
  have gone := Dict.total_erase_of_get?_some (fun _ flag => if flag then 1 else 0)
    q.waiters read
  change (q.leave who).notified + (if flag then 1 else 0) = q.notified at gone
  omega

theorem get?_leave (who other : Waiter) (q : WaitQueue Waiter) :
    (q.leave who).waiters.get? other = if other = who then none else q.waiters.get? other :=
  Dict.get?_erase _ _ _

theorem asleep_pos (q : WaitQueue Waiter) {who : Waiter}
    (unmarked : q.waiters.get? who = some false) : 0 < q.asleep := by
  have gone := Dict.total_erase_of_get?_some (fun _ flag => if flag then 0 else 1)
    q.waiters unmarked
  simp only [Bool.false_eq_true, if_false] at gone
  unfold asleep
  omega

theorem exists_notified (q : WaitQueue Waiter) (positive : 0 < q.notified) :
    ∃ who, q.waiters.get? who = some true := by
  by_contra missing
  have zero : q.notified = 0 := by
    apply Dict.total_eq_zero
    intro who flag member
    cases flag with
    | false => rfl
    | true => exact False.elim (missing ⟨who, (q.waiters.mem_entries_iff who true).mp member⟩)
  omega

end WaitQueue
