/-
What the retry loop and the handlers of `_process` make of one reply, said once.

`Settles` lists the settlements with the replies that lead to them. What the rest
of the development needs about `settle` is read off this relation.
-/

import BatchInference.Engine

set_option autoImplicit false

namespace BatchInference

/-- A text or bytes were returned, and their tokens can be estimated. -/
def Answers (s : Settings) : Reply → Prop
  | .returned _ => s.charsPerToken ≠ 0
  | .returnedBytes _ _ => s.charsPerToken ≠ 0
  | _ => False

/-- A 429 at this attempt is followed by one more attempt. -/
def Retries (s : Settings) (attempt : Nat) : Prop :=
  (attempt : Int) ≤ s.maxRetries ∧ attempt ≤ 1024

/-- An exception was raised whose `str` raises. -/
def Unprintable : Reply → Prop
  | .returnedUnprintable => True
  | .raisedUnprintable => True
  | _ => False

/-- The reply ends in a failed result: it is no answer, no retry follows, and the
handler can print what was raised. -/
structure DeadLetters (s : Settings) (attempt : Nat) (reply : Reply) : Prop where
  unanswered : ¬Answers s reply
  printable : ¬Unprintable reply
  uncancelled : reply ≠ .cancelled
  spent : ∀ retryAfter, reply = .rateLimited retryAfter → ¬Retries s attempt

inductive Settles (s : Settings) (item : WorkItem) (attempt : Nat) :
    Reply → Settlement → Prop where
  | succeeded (reply : Reply) (result : InferenceResult) (answers : Answers s reply)
      (id : result.id = item.id) (prompt : result.prompt = item.prompt)
      (success : result.success = true) (attempts : result.attempts = attempt)
      (price : result.costUsd = round8 (costOf s result.inputTokens result.outputTokens)) :
      Settles s item attempt reply
        (.record result (costOf s result.inputTokens result.outputTokens) true false)
  | failed (reply : Reply) (error : String) (credited : Bool) (unanswered : ¬Answers s reply)
      (printable : ¬Unprintable reply) (uncancelled : reply ≠ .cancelled)
      (overflow : ∀ retryAfter, reply = .rateLimited retryAfter →
        (attempt : Int) ≤ s.maxRetries ∧ 1024 < attempt) :
      Settles s item attempt reply (.record (failure item error) 0 credited false)
  | exhausted (retryAfter : ℚ) (spent : s.maxRetries < attempt) :
      Settles s item attempt (.rateLimited retryAfter)
        (.record (failure item "429 Too Many Requests") 0 false true)
  | retried (retryAfter seconds : ℚ) (left : Retries s attempt) :
      Settles s item attempt (.rateLimited retryAfter) (.retry seconds)
  | lost (reply : Reply) (credited : Bool) (unprintable : Unprintable reply) :
      Settles s item attempt reply (.lost credited)
  | cancelled : Settles s item attempt .cancelled .cancelled

theorem complete_cases (s : Settings) (item : WorkItem) (attempt length : Nat)
    (output : String) :
    s.charsPerToken = 0 ∧ (∃ error, complete s item attempt length output =
        .record (failure item error) 0 true false) ∨
      s.charsPerToken ≠ 0 ∧ ∃ inTokens outTokens, complete s item attempt length output =
        .record
          { id := item.id
            prompt := item.prompt
            success := true
            output := some output
            attempts := attempt
            inputTokens := inTokens
            outputTokens := outTokens
            costUsd := round8 (costOf s inTokens outTokens) }
          (costOf s inTokens outTokens) true false := by
  unfold complete estimateTokens
  by_cases free : s.charsPerToken = 0
  · simp only [if_pos free]
    exact Or.inl ⟨free, _, rfl⟩
  · simp only [if_neg free]
    exact Or.inr ⟨free, _, _, rfl⟩

theorem settles (s : Settings) (item : WorkItem) (attempt : Nat) (jitter : ℚ) (reply : Reply) :
    Settles s item attempt reply (settle s item attempt jitter reply) := by
  have answered : ∀ {reply : Reply} (length : Nat) (output : String),
      (Answers s reply ↔ s.charsPerToken ≠ 0) → ¬Unprintable reply → reply ≠ .cancelled →
        (∀ retryAfter, reply ≠ .rateLimited retryAfter) →
          Settles s item attempt reply (complete s item attempt length output) := by
    intro reply length output answers printable uncancelled answered
    rcases complete_cases s item attempt length output with
      ⟨free, error, same⟩ | ⟨priced, inTokens, outTokens, same⟩
    · rw [same]
      refine .failed reply error true ?_ printable uncancelled ?_
      · rw [answers]
        exact not_not.mpr free
      · exact fun retryAfter impossible => absurd impossible (answered retryAfter)
    · rw [same]
      exact .succeeded reply _ (answers.mpr priced) rfl rfl rfl rfl rfl
  cases reply with
  | returned output => exact answered _ _ Iff.rfl id Reply.noConfusion (fun _ => Reply.noConfusion)
  | returnedBytes length text =>
      exact answered _ _ Iff.rfl id Reply.noConfusion (fun _ => Reply.noConfusion)
  | returnedOther error =>
      exact .failed _ error true id id Reply.noConfusion (fun _ => Reply.noConfusion)
  | returnedUnprintable => exact .lost _ true trivial
  | rateLimited retryAfter =>
      unfold settle computeBackoff
      by_cases spent : s.maxRetries < attempt
      · simp only [if_pos spent]
        exact .exhausted retryAfter spent
      · by_cases overflow : 1024 ≤ attempt - 1
        · simp only [if_neg spent, if_pos overflow]
          exact .failed _ _ false id id Reply.noConfusion
            (fun _ _ => ⟨not_lt.mp spent, by omega⟩)
        · simp only [if_neg spent, if_neg overflow]
          exact .retried retryAfter _ ⟨not_lt.mp spent, by omega⟩
  | raised message =>
      exact .failed _ message false id id Reply.noConfusion (fun _ => Reply.noConfusion)
  | raisedUnprintable => exact .lost _ false trivial
  | cancelled => exact .cancelled

theorem retry_of_settle {s : Settings} {item : WorkItem} {attempt : Nat} {jitter seconds : ℚ}
    {reply : Reply} (settled : settle s item attempt jitter reply = .retry seconds) :
    (∃ retryAfter, reply = .rateLimited retryAfter) ∧ Retries s attempt := by
  have ways := settles s item attempt jitter reply
  rw [settled] at ways
  cases ways with
  | retried retryAfter seconds left => exact ⟨⟨retryAfter, rfl⟩, left⟩

/-- A recorded result is a failure exactly if the reply is a dead letter. -/
theorem Settles.failure_iff {s : Settings} {item : WorkItem} {attempt : Nat} {reply : Reply}
    {result : InferenceResult} {cost : ℚ} {credited exhausted : Bool}
    (ways : Settles s item attempt reply (.record result cost credited exhausted)) :
    result.success = false ↔ DeadLetters s attempt reply := by
  cases ways with
  | succeeded reply result answers id prompt success attempts price =>
      rw [success]
      exact ⟨Bool.noConfusion, fun dead => (dead.unanswered answers).elim⟩
  | failed reply error credited unanswered printable uncancelled overflow =>
      refine ⟨fun _ => ⟨unanswered, printable, uncancelled, ?_⟩, fun _ => rfl⟩
      intro retryAfter limited again
      exact absurd again.2 (not_le.mpr (overflow retryAfter limited).2)
  | exhausted retryAfter spent =>
      refine ⟨fun _ => ⟨id, id, Reply.noConfusion, ?_⟩, fun _ => rfl⟩
      intro _ _ again
      exact absurd again.1 (not_le.mpr spent)

/-- Whatever is recorded could be printed and was no cancellation. -/
theorem Settles.printable {s : Settings} {item : WorkItem} {attempt : Nat} {reply : Reply}
    {result : InferenceResult} {cost : ℚ} {credited exhausted : Bool}
    (ways : Settles s item attempt reply (.record result cost credited exhausted)) :
    ¬Unprintable reply ∧ reply ≠ .cancelled := by
  cases ways with
  | succeeded reply result answers id prompt success attempts price =>
      cases reply with
      | returned output => exact ⟨not_false, Reply.noConfusion⟩
      | returnedBytes length text => exact ⟨not_false, Reply.noConfusion⟩
      | _ => exact answers.elim
  | failed reply error credited unanswered printable uncancelled overflow =>
      exact ⟨printable, uncancelled⟩
  | exhausted retryAfter spent => exact ⟨id, Reply.noConfusion⟩

theorem Settles.attempts_of_success {s : Settings} {item : WorkItem} {attempt : Nat}
    {reply : Reply} {result : InferenceResult} {cost : ℚ} {credited exhausted : Bool}
    (ways : Settles s item attempt reply (.record result cost credited exhausted))
    (success : result.success = true) : result.attempts = attempt := by
  cases ways with
  | succeeded reply result answers id prompt success attempts price => exact attempts
  | failed reply error credited unanswered printable uncancelled overflow => cases success
  | exhausted retryAfter spent => cases success

theorem DeadLetters.recorded {s : Settings} {attempt : Nat} {reply : Reply}
    (dead : DeadLetters s attempt reply) (item : WorkItem) (jitter : ℚ) :
    ∃ result cost credited exhausted,
      settle s item attempt jitter reply = .record result cost credited exhausted := by
  have ways := settles s item attempt jitter reply
  generalize settle s item attempt jitter reply = settlement at ways
  cases ways with
  | succeeded reply result answers id prompt success attempts price =>
      exact (dead.unanswered answers).elim
  | failed reply error credited unanswered printable uncancelled overflow => exact ⟨_, _, _, _, rfl⟩
  | exhausted retryAfter spent => exact ⟨_, _, _, _, rfl⟩
  | retried retryAfter seconds left => exact (dead.spent retryAfter rfl left).elim
  | lost reply credited unprintable => exact (dead.printable unprintable).elim
  | cancelled => exact (dead.uncancelled rfl).elim

end BatchInference
