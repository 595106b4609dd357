/-
What becomes of one item, by the replies to its calls alone.

The retry loop and `_process` look at nothing but the replies, the retry limit and
the token estimator. A verdict follows them for one item as if there were no other
worker, no other job and no limiter.
-/

import BatchInference.Settlement

set_option autoImplicit false

namespace BatchInference

/-- Where an item stands after some replies: it is being asked for, or it is
settled, with a result unless it was forgotten. -/
inductive Verdict where
  | asking (retries : Nat)
  | settled (retries : Nat) (result : Option InferenceResult)

/-- A result apart from its price. -/
def InferenceResult.withoutCost (result : InferenceResult) : InferenceResult :=
  { result with costUsd := 0 }

namespace Verdict

def retries : Verdict → Nat
  | .asking retries => retries
  | .settled retries _ => retries

/-- The verdict after one more settlement. -/
def after (retries : Nat) : Settlement → Verdict
  | .retry _ => .asking (retries + 1)
  | .record result _ _ _ => .settled retries (some result)
  | .lost _ => .settled retries none
  | .cancelled => .settled retries none

/-- One more reply; the length of the backoff does not matter. -/
def hear (s : Settings) (item : WorkItem) : Verdict → Reply → Verdict
  | .asking retries, reply => after retries (settle s item (retries + 1) 0 reply)
  | .settled retries result, _ => .settled retries result

/-- The verdict on an item after all replies to its calls. -/
def ofReplies (s : Settings) (item : WorkItem) (replies : List Reply) : Verdict :=
  replies.foldl (hear s item) (.asking 0)

/-- A verdict apart from prices. -/
def withoutCost : Verdict → Verdict
  | .asking retries => .asking retries
  | .settled retries result => .settled retries (result.map InferenceResult.withoutCost)

variable {s s' : Settings} {item : WorkItem}

theorem ofReplies_append (replies : List Reply) (reply : Reply) :
    ofReplies s item (replies ++ [reply]) = hear s item (ofReplies s item replies) reply := by
  unfold ofReplies
  rw [List.foldl_append]
  rfl

/-- Jitter changes only how long a retry waits. -/
theorem after_settle_jitter (retries attempt : Nat) (jitter jitter' : ℚ) (reply : Reply) :
    after retries (settle s item attempt jitter reply) =
      after retries (settle s item attempt jitter' reply) := by
  cases reply with
  | rateLimited retryAfter =>
      simp only [settle, computeBackoff]
      by_cases exhausted : s.maxRetries < attempt
      · rw [if_pos exhausted, if_pos exhausted]
      · rw [if_neg exhausted, if_neg exhausted]
        by_cases overflow : 1024 ≤ attempt - 1
        · rw [if_pos overflow, if_pos overflow]
        · rw [if_neg overflow, if_neg overflow]
          rfl
  | _ => rfl

theorem hear_asking (retries : Nat) (jitter : ℚ) (reply : Reply) :
    hear s item (.asking retries) reply =
      after retries (settle s item (retries + 1) jitter reply) :=
  after_settle_jitter retries (retries + 1) 0 jitter reply

theorem settled_append {replies : List Reply} {retries : Nat} {result : Option InferenceResult}
    (settled : ofReplies s item replies = .settled retries result) (later : List Reply) :
    ofReplies s item (replies ++ later) = .settled retries result := by
  unfold ofReplies at settled ⊢
  rw [List.foldl_append, settled]
  induction later with
  | nil => rfl
  | cons reply rest ih => exact ih

/-- An item that is still asked for was answered once for each retry. -/
theorem length_of_asking {replies : List Reply} {retries : Nat}
    (asking : ofReplies s item replies = .asking retries) : replies.length = retries := by
  induction replies using List.reverseRecOn generalizing retries with
  | nil =>
      injection asking
  | append_singleton replies reply ih =>
      rw [ofReplies_append] at asking
      cases before : ofReplies s item replies with
      | settled earlier result =>
          rw [before] at asking
          cases asking
      | asking earlier =>
          rw [before] at asking
          simp only [hear] at asking
          cases settlement : settle s item (earlier + 1) 0 reply with
          | retry seconds =>
              rw [settlement] at asking
              injection asking with same
              rw [List.length_append, ih before, ← same]
              rfl
          | record recorded cost credited exhausted =>
              rw [settlement] at asking
              cases asking
          | lost credited =>
              rw [settlement] at asking
              cases asking
          | cancelled =>
              rw [settlement] at asking
              cases asking

/-! ### What a verdict depends on -/

theorem estimateTokens_same (estimator : s.charsPerToken = s'.charsPerToken) (length : Nat) :
    estimateTokens s length = estimateTokens s' length := by
  unfold estimateTokens
  rw [estimator]

theorem after_complete_same (estimator : s.charsPerToken = s'.charsPerToken)
    (retries attempt length : Nat) (output : String) :
    (after retries (complete s item attempt length output)).withoutCost =
      (after retries (complete s' item attempt length output)).withoutCost := by
  unfold complete
  simp only [estimateTokens_same estimator]
  cases estimateTokens s' item.prompt.length with
  | error error => rfl
  | ok inTokens =>
      cases estimateTokens s' length with
      | error error => rfl
      | ok outTokens => rfl

/-- Settings with the same retry limit and token estimator agree up to prices
and waiting times. -/
theorem after_settle_same (limit : s.maxRetries = s'.maxRetries)
    (estimator : s.charsPerToken = s'.charsPerToken) (retries attempt : Nat) (jitter : ℚ)
    (reply : Reply) :
    (after retries (settle s item attempt jitter reply)).withoutCost =
      (after retries (settle s' item attempt jitter reply)).withoutCost := by
  cases reply with
  | returned output => exact after_complete_same estimator retries attempt output.length output
  | returnedBytes length text => exact after_complete_same estimator retries attempt length text
  | rateLimited retryAfter =>
      simp only [settle, computeBackoff, limit]
      by_cases exhausted : s'.maxRetries < attempt
      · rw [if_pos exhausted, if_pos exhausted]
      · rw [if_neg exhausted, if_neg exhausted]
        by_cases overflow : 1024 ≤ attempt - 1
        · rw [if_pos overflow, if_pos overflow]
        · rw [if_neg overflow, if_neg overflow]
          rfl
  | _ => rfl

theorem hear_same (limit : s.maxRetries = s'.maxRetries)
    (estimator : s.charsPerToken = s'.charsPerToken) {verdict verdict' : Verdict}
    (same : verdict.withoutCost = verdict'.withoutCost) (reply : Reply) :
    (hear s item verdict reply).withoutCost = (hear s' item verdict' reply).withoutCost := by
  cases verdict with
  | asking retries =>
      cases verdict' with
      | asking retries' =>
          injection same with sameRetries
          rw [sameRetries]
          exact after_settle_same limit estimator _ _ _ _
      | settled retries' result' => cases same
  | settled retries result =>
      cases verdict' with
      | asking retries' => cases same
      | settled retries' result' => exact same

theorem ofReplies_same (limit : s.maxRetries = s'.maxRetries)
    (estimator : s.charsPerToken = s'.charsPerToken) (item : WorkItem) (replies : List Reply) :
    (ofReplies s item replies).withoutCost = (ofReplies s' item replies).withoutCost := by
  induction replies using List.reverseRecOn with
  | nil => rfl
  | append_singleton replies reply ih =>
      rw [ofReplies_append, ofReplies_append]
      exact hear_same limit estimator ih reply

/-- Failures are free. -/
theorem settle_failure {attempt : Nat} {jitter cost : ℚ} {reply : Reply}
    {result : InferenceResult} {credited exhausted : Bool}
    (settled : settle s item attempt jitter reply = .record result cost credited exhausted)
    (failed : result.success = false) : result.withoutCost = result := by
  have cases_ := settles s item attempt jitter reply
  rw [settled] at cases_
  cases cases_ with
  | succeeded reply result answers id prompt success attempts price =>
      rw [success] at failed
      cases failed
  | failed reply error credited unanswered printable uncancelled overflow => rfl
  | exhausted retryAfter spent => rfl

theorem failure_withoutCost {replies : List Reply} {retries : Nat} {result : InferenceResult}
    (settled : ofReplies s item replies = .settled retries (some result))
    (failed : result.success = false) : result.withoutCost = result := by
  induction replies using List.reverseRecOn with
  | nil => cases settled
  | append_singleton replies reply ih =>
      rw [ofReplies_append] at settled
      cases before : ofReplies s item replies with
      | asking earlier =>
          rw [before] at settled
          simp only [hear] at settled
          cases settlement : settle s item (earlier + 1) 0 reply with
          | record recorded cost credited exhausted =>
              rw [settlement] at settled
              injection settled with _ same
              injection same with same
              rw [← same] at failed ⊢
              exact settle_failure settlement failed
          | retry seconds =>
              rw [settlement] at settled
              cases settled
          | lost credited =>
              rw [settlement] at settled
              cases settled
          | cancelled =>
              rw [settlement] at settled
              cases settled
      | settled earlier result' =>
          rw [before] at settled
          exact ih (before.trans settled)

/-! ### Replies fixed in advance -/

/-- The replies are the first ones of the stream. -/
def Follows (stream : Nat → Reply) (replies : List Reply) : Prop :=
  ∀ k reply, replies[k]? = some reply → reply = stream k

theorem follows_range (stream : Nat → Reply) (n : Nat) :
    Follows stream ((List.range n).map stream) := by
  intro k reply read
  rw [List.getElem?_map, Option.map_eq_some_iff] at read
  rcases read with ⟨number, member, rfl⟩
  rcases List.getElem?_eq_some_iff.mp member with ⟨inside, same⟩
  rw [← same, List.getElem_range]

/-- Of two beginnings of a stream, one continues the other. -/
theorem prefix_of_follows {stream : Nat → Reply} {first second : List Reply}
    (follows : Follows stream first) (follows' : Follows stream second)
    (shorter : first.length ≤ second.length) : first <+: second := by
  rw [List.prefix_iff_getElem?]
  intro k inside
  have both : k < second.length := lt_of_lt_of_le inside shorter
  rw [List.getElem?_eq_getElem both, Option.some.injEq,
    follows' k _ (List.getElem?_eq_getElem both), follows k _ (List.getElem?_eq_getElem inside)]

/-- Two settled verdicts on one stream of replies agree up to prices. -/
theorem settled_same (limit : s.maxRetries = s'.maxRetries)
    (estimator : s.charsPerToken = s'.charsPerToken) {stream : Nat → Reply}
    {first second : List Reply} (follows : Follows stream first)
    (follows' : Follows stream second) {retries retries' : Nat}
    {result result' : Option InferenceResult}
    (settled : ofReplies s item first = .settled retries result)
    (settled' : ofReplies s' item second = .settled retries' result') :
    (Verdict.settled retries result).withoutCost =
      (Verdict.settled retries' result').withoutCost := by
  rcases Nat.le_total first.length second.length with shorter | shorter
  · rcases prefix_of_follows follows follows' shorter with ⟨later, rfl⟩
    have same := ofReplies_same limit estimator item (first ++ later)
    rw [settled_append settled, settled'] at same
    exact same
  · rcases prefix_of_follows follows' follows shorter with ⟨later, rfl⟩
    have same := ofReplies_same limit estimator item (second ++ later)
    rw [settled, settled_append settled'] at same
    exact same

end Verdict
end BatchInference
