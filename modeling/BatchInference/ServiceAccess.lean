/-
The API key.

A request without the key is answered before it reaches the engine, and no other
response looks like that answer. So such requests can be erased from any run: the
engine and all other clients cannot tell whether they were made.
-/

import BatchInference.ServiceReads

set_option autoImplicit false

namespace BatchInference
namespace Service

open Engine EngineItems

variable {p : Params} {loads : List UInt8 → Except LoadsError Json} {apiKey : String} {e : Engine}

/-! ### Refusals -/

def isUnauthorized : Raised → Bool
  | .http 401 _ _ => true
  | _ => false

def isRefusal : ServiceEvent → Bool
  | .answered _ _ (.error raised) => isUnauthorized raised
  | _ => false

/-- The request does not carry the key that is configured. -/
def Keyless (apiKey : String) (origin : Origin) (request : Request) : Prop :=
  request.guarded = true ∧ apiKey ≠ "" ∧ origin.xApiKey ≠ some apiKey

theorem requireApiKey_none_iff (expected : String) (xApiKey : Option String) :
    requireApiKey expected xApiKey = none ↔ expected = "" ∨ xApiKey = some expected := by
  unfold requireApiKey
  split
  · rename_i missing
    simp only [reduceCtorEq, false_iff, not_or]
    exact missing
  · rename_i fits
    simp only [true_iff]
    tauto

theorem unauthorized_of_refusal {expected : String} {xApiKey : Option String} {raised : Raised}
    (refusal : requireApiKey expected xApiKey = some raised) : isUnauthorized raised = true := by
  unfold requireApiKey at refusal
  split at refusal
  · cases refusal
    rfl
  · cases refusal

/-- Reading an upload raises no 401. -/
theorem uploadEntries_allowed {raised : Raised} (entries : List Json) :
    ∀ i, Endpoints.uploadEntries i entries = .error raised →
      isUnauthorized raised = false := by
  induction entries with
  | nil => exact fun _ impossible => by cases impossible
  | cons entry rest ih =>
      intro i failed
      rw [Endpoints.uploadEntries] at failed
      rcases Endpoints.uploadEntry_cases i entry with
        ⟨_, malformed⟩ | ⟨_, _, fields, unfit⟩ | ⟨_, _, prompt, fits⟩
      · rw [malformed] at failed
        cases failed
        rfl
      · rw [unfit] at failed
        cases failed
        rfl
      · rw [fits] at failed
        simp only at failed
        cases others : Endpoints.uploadEntries (i + 1) rest with
        | error other =>
            rw [others] at failed
            cases failed
            exact ih (i + 1) others
        | ok prompts =>
            rw [others] at failed
            cases failed

theorem readUpload_allowed {raw : List UInt8} {raised : Raised}
    (failed : Endpoints.readUpload loads raw = .error raised) :
    isUnauthorized raised = false := by
  unfold Endpoints.readUpload at failed
  split at failed
  · cases failed
    rfl
  · cases failed
    rfl
  · split at failed
    · exact uploadEntries_allowed _ 0 failed
    · cases failed
      rfl

theorem answer_allowed (base : String) (submitted : Engine × SubmitResult) {raised : Raised}
    (failed : (Endpoints.answer base submitted).2 = .error raised) :
    isUnauthorized raised = false := by
  obtain ⟨e, result⟩ := submitted
  cases result with
  | job jobId reused => cases failed
  | overloaded retryAfter message =>
      cases failed
      rfl
  | conflict message =>
      cases failed
      rfl

theorem error_of_map {α β : Type} {f : α → β} {result : Except Raised α} {raised : Raised}
    (failed : result.map f = .error raised) : result = .error raised := by
  cases result with
  | error other =>
      cases failed
      rfl
  | ok value => cases failed

theorem replayFailed_allowed (base : String) (jobId newId : JobId) {raised : Raised}
    (failed : (replayFailed p base jobId newId e).2 = .error raised) :
    isUnauthorized raised = false := by
  unfold replayFailed at failed
  split at failed
  · cases failed
    rfl
  · split at failed
    · cases failed
      rfl
    · cases failed
      rfl
    · cases failed
      rfl
    · cases failed

theorem cancelJob_allowed (jobId : JobId) {raised : Raised}
    (failed : (cancelJob jobId e).2 = .error raised) : isUnauthorized raised = false := by
  unfold cancelJob at failed
  split at failed
  · cases failed
    rfl
  · cases failed
    rfl
  · cases failed

/-- No request that was let in is answered as if it had not been. -/
theorem handle_allowed (origin : Origin) (request : Request) {raised : Raised}
    (failed : (handle p loads origin e request).2 = .error raised) :
    isUnauthorized raised = false := by
  cases request with
  | submitBatch payload idempotencyKey newId => exact answer_allowed _ _ (error_of_map failed)
  | uploadBatch raw priority idempotencyKey newId =>
      have failed := error_of_map failed
      unfold Endpoints.uploadBatch at failed
      split at failed
      · rename_i unread
        cases failed
        exact readUpload_allowed unread
      · exact answer_allowed _ _ failed
  | jobStatus jobId =>
      have failed := error_of_map failed
      unfold jobStatus at failed
      split at failed <;> cases failed
      rfl
  | jobResults jobId window =>
      have failed := error_of_map failed
      unfold jobResults at failed
      split at failed <;> cases failed
      rfl
  | jobDeadLetter jobId window =>
      have failed := error_of_map failed
      unfold jobDeadLetter at failed
      split at failed <;> cases failed
      rfl
  | replayFailed jobId newId => exact replayFailed_allowed _ jobId newId (error_of_map failed)
  | cancelJob jobId => exact cancelJob_allowed jobId (error_of_map failed)
  | _ => cases failed

/-! ### Runs without the refused requests -/

theorem not_refusal_engine (events : List Event) :
    (events.map ServiceEvent.engine).filter (fun event => !isRefusal event) =
      events.map ServiceEvent.engine := by
  rw [List.filter_eq_self]
  intro event member
  obtain ⟨shown, _, rfl⟩ := List.mem_map.mp member
  rfl

/-- A step is a refusal that changes nothing, or shows no refusal. -/
theorem refusal_or_kept {s s' : State} {label : ServiceLabel} {emitted : List ServiceEvent}
    (stepped : (serviceMachine p loads apiKey).step s label = some (s', emitted)) :
    s' = s ∧ emitted.filter (fun event => !isRefusal event) = [] ∨
      emitted.filter (fun event => !isRefusal event) = emitted := by
  rcases events_of_step stepped with ⟨events, rfl⟩ |
    ⟨events, origin, request, response, _, rfl, responds⟩
  · exact Or.inr (not_refusal_engine events)
  · rw [List.filter_append, not_refusal_engine]
    cases responds with
    | refused guarded raised refusal same =>
        left
        refine ⟨same, ?_⟩
        simp [isRefusal, unauthorized_of_refusal refusal]
    | served letIn key response handled =>
        right
        congr 1
        have allowed : isRefusal (.answered origin request response) = false := by
          cases response with
          | ok body => rfl
          | error raised =>
              have answer : (handle p loads origin s.engine request).2 = .error raised := by
                rw [handled]
              exact handle_allowed origin request answer
        simp [allowed]

/-- Whoever has no key is refused, and nobody else is. -/
def Guarded (apiKey : String) : ServiceEvent → Prop
  | .answered origin request response =>
      isRefusal (.answered origin request response) = true ↔ Keyless apiKey origin request
  | .engine _ => True

theorem guarded_of_responds {s s' : State} {events : List Event} {origin : Origin}
    {request : Request} {response : Response}
    (responds : Responds p loads s s' origin request events response) :
    Guarded s.apiKey (.answered origin request response) := by
  cases responds with
  | refused guarded raised refusal same =>
      refine ⟨fun _ => ?_, fun _ => unauthorized_of_refusal refusal⟩
      have missing : ¬(s.apiKey = "" ∨ origin.xApiKey = some s.apiKey) := by
        intro fits
        rw [(requireApiKey_none_iff _ _).mpr fits] at refusal
        cases refusal
      exact ⟨guarded, fun open_ => missing (Or.inl open_), fun fits => missing (Or.inr fits)⟩
  | served letIn key response handled =>
      constructor
      · intro refusal
        cases response with
        | ok body => cases refusal
        | error raised =>
            have answer : (handle p loads origin s.engine request).2 = .error raised := by
              rw [handled]
            have allowed := handle_allowed origin request answer
            have refused : isUnauthorized raised = true := refusal
            rw [allowed] at refused
            cases refused
      · rintro ⟨guarded, closed, missing⟩
        rcases (requireApiKey_none_iff _ _).mp (letIn guarded) with open_ | fits
        · exact absurd open_ closed
        · exact absurd fits missing

/-- Only changing the key changes it. -/
theorem apiKey_of_step {s s' : State} {label : ServiceLabel} {emitted : List ServiceEvent}
    (stepped : (serviceMachine p loads apiKey).step s label = some (s', emitted))
    (kept : ∀ key, label ≠ .rotate key) : s'.apiKey = s.apiKey := by
  cases label with
  | engine label =>
      obtain ⟨next, _, same⟩ := Option.map_eq_some_iff.mp stepped
      obtain ⟨rfl, _⟩ := Prod.mk.inj same
      rfl
  | rotate key => exact absurd rfl (kept key)
  | request origin request =>
      simp only [serviceMachine] at stepped
      split at stepped
      · have answered := Option.some.inj stepped
        unfold respond at answered
        split at answered
        · obtain ⟨rfl, _⟩ := Prod.mk.inj answered
          rfl
        · obtain ⟨rfl, _⟩ := Prod.mk.inj answered
          rfl
      · cases stepped

theorem guarded_of_step {s s' : State} {label : ServiceLabel} {emitted : List ServiceEvent}
    (stepped : (serviceMachine p loads apiKey).step s label = some (s', emitted)) :
    ∀ event ∈ emitted, Guarded s.apiKey event := by
  intro event member
  rcases events_of_step stepped with ⟨events, rfl⟩ |
    ⟨events, origin, request, response, _, rfl, responds⟩
  · obtain ⟨shown, _, rfl⟩ := List.mem_map.mp member
    trivial
  · rcases List.mem_append.mp member with shown | answered
    · obtain ⟨event, _, rfl⟩ := List.mem_map.mp shown
      trivial
    · rw [List.mem_singleton] at answered
      subst answered
      exact guarded_of_responds responds

def KeyStays (label : ServiceLabel) : Prop := ∀ key, label ≠ .rotate key

def keyStays : ServiceLabel → Bool
  | .rotate _ => false
  | _ => true

theorem keyStays_sound (s : State) (label : ServiceLabel) (s' : State)
    (checked : keyStays label = true) : Machine.onLabels KeyStays s label s' := by
  rintro key rfl
  cases checked

def keyed : Origin := { proxied with xApiKey := some "secret" }

/-- One client submits without the key, another one with it. -/
def twoClients : List ServiceLabel :=
  [.request proxied (.submitBatch twoGreetings none "a"),
    .request keyed (.submitBatch twoGreetings none "b"), .request proxied (.jobStatus "b")]

def oneJob (outcome : List ServiceEvent × State) : Bool :=
  decide (outcome.1.countP isRefusal = 2) && decide (outcome.2.engine.store.jobs.keys = ["b"])

end Service
end BatchInference
