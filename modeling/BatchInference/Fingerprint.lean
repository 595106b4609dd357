/-
The hash of a submission: `_fingerprint` of app/engine.py.

The submission is written as JSON and hashed. The text determines the submission,
so what an idempotency key answers is decided by the payload, up to a collision
of SHA-256 on two texts that the run exhibits. The hash itself is a parameter.
-/

import BatchInference.EngineIdempotency
import BatchInference.Lib.JsonText

set_option autoImplicit false

namespace BatchInference
namespace Fingerprint

open Engine EngineIdempotency
open JsonText (Value dumps dumps_injective)

/-- `[p.id, p.prompt]`. -/
def item (prompt : PromptItem) : Value :=
  .array [prompt.id.elim .null .string, .string prompt.prompt]

/-- The argument of `json.dumps` with its keys sorted. -/
def submission (prompts : List PromptItem) (priority : Priority) : Value :=
  .object [("items", .array (prompts.map item)), ("p", .string priority.value)]

/-- `payload.encode()`. -/
def payload (prompts : List PromptItem) (priority : Priority) : ByteArray :=
  (String.ofList (dumps (submission prompts priority))).toUTF8

/-- `_fingerprint`. The parameter maps bytes to the `hexdigest` of their SHA-256. -/
def fingerprint (sha256 : ByteArray → String) (prompts : List PromptItem) (priority : Priority) :
    String :=
  sha256 (payload prompts priority)

theorem item_injective {prompt prompt' : PromptItem} (same : item prompt = item prompt') :
    prompt = prompt' := by
  obtain ⟨id, text⟩ := prompt
  obtain ⟨id', text'⟩ := prompt'
  simp only [item, Value.array.injEq, List.cons.injEq, Value.string.injEq, and_true] at same
  obtain ⟨ids, rfl⟩ := same
  cases id <;> cases id' <;> cases ids <;> rfl

theorem payload_injective {prompts prompts' : List PromptItem} {priority priority' : Priority}
    (same : payload prompts priority = payload prompts' priority') :
    prompts = prompts' ∧ priority = priority' := by
  unfold payload at same
  rw [String.toUTF8_eq_toByteArray, String.toUTF8_eq_toByteArray, String.toByteArray_inj] at same
  have values := dumps_injective (String.ofList_injective same)
  simp only [submission, Value.object.injEq, List.cons.injEq, Prod.mk.injEq, Value.array.injEq,
    Value.string.injEq, true_and, and_true] at values
  exact ⟨List.map_injective_iff.mpr (fun _ _ => item_injective) values.1,
    Priority.value_injective values.2⟩

example : String.ofList (dumps (item { id := some "a\n", prompt := "é😀" })) =
    "[\"a\\n\", \"\\u00e9\\ud83d\\ude00\"]" := by
  decide +kernel

/-! ### What the answers say about the payloads -/

/-- Two different texts with one hash. -/
def Collides (sha256 : ByteArray → String) (text text' : ByteArray) : Prop :=
  text ≠ text' ∧ sha256 text = sha256 text'

/-- The job of a key and the payload that bound it, as the store has them. -/
def Binds (e : Engine) (key : String) (jobId : JobId) (hash : Option String) : Prop :=
  ∃ job, e.existingJob (some key) = some job ∧ job.id = jobId ∧ job.requestFingerprint = hash

theorem existingJob_cases {e : Engine} {key : String} {job : Job} (nonempty : key ≠ "")
    (known : e.existingJob (some key) = some job) :
    ∃ jobId, e.store.byKey.get? key = some jobId ∧ jobId ≠ "" ∧
      e.store.jobs.get? jobId = some job := by
  unfold existingJob InMemoryJobStore.findByIdempotencyKey at known
  rw [truthy_some nonempty, Option.bind_some] at known
  split at known
  · rename_i jobId bound
    split at known
    · cases known
    · rename_i named
      exact ⟨jobId, bound, named, known⟩
  · cases known

theorem existingJob_of_lookup {e : Engine} {key : String} {jobId : JobId} {job : Job}
    (nonempty : key ≠ "") (bound : e.store.byKey.get? key = some jobId) (named : jobId ≠ "")
    (found : e.store.jobs.get? jobId = some job) : e.existingJob (some key) = some job := by
  unfold existingJob InMemoryJobStore.findByIdempotencyKey
  rw [truthy_some nonempty, Option.bind_some, bound]
  simp only [if_neg named, found]

/-- A key that is bound stays bound to its job and to its payload. -/
theorem Binds.next {p : Params} {e e' : Engine} {label : Label} {emitted : List Event}
    {key : String} {jobId : JobId} {hash : Option String} (nonempty : key ≠ "")
    (binds : Binds e key jobId hash) (step : Step p e label e' emitted) :
    Binds e' key jobId hash := by
  obtain ⟨job, known, rfl, rfl⟩ := binds
  obtain ⟨stored, bound, named, found⟩ := existingJob_cases nonempty known
  rcases step.keepsJobs with
    ⟨keeps, _⟩ | ⟨prompts, priority, key', newId, _, fresh, unknown, rfl, _⟩
  · obtain ⟨job', found', same⟩ := keeps.after found
    have parts := Prod.mk.inj same
    refine ⟨job', ?_, parts.1, (Prod.mk.inj parts.2).2⟩
    exact existingJob_of_lookup nonempty (by rw [keeps.byKey]; exact bound) named found'
  · have other : stored ≠ newId := by
      rintro rfl
      rw [fresh] at found
      cases found
    refine ⟨job, existingJob_of_lookup nonempty ?_ named ?_, rfl, rfl⟩
    · rw [register_store]
      unfold InMemoryJobStore.create admittedJob
      dsimp only
      cases own : truthy key' with
      | none => exact bound
      | some text =>
          have distinct : key ≠ text := by
            rintro rfl
            rw [truthy_eq_some own, known] at unknown
            cases unknown
          simp only [Dict.get?_set, if_neg distinct, bound]
    · rw [register_jobs, if_neg other]
      exact found

/-- What an answer tells about the key. -/
def Tells (p : Params) (e : Engine) : Event → Prop
  | .submitted prompts priority (some key) (.job jobId _) =>
      key ≠ "" → Binds e key jobId (some (p.fingerprint prompts priority))
  | .submitted prompts priority (some key) (.conflict _) =>
      key ≠ "" → ∃ jobId hash, Binds e key jobId hash ∧
        hash ≠ some (p.fingerprint prompts priority)
  | _ => True

theorem Tells.next {p : Params} {e e' : Engine} {label : Label} {emitted : List Event}
    {event : Event} (tells : Tells p e event) (step : Step p e label e' emitted) :
    Tells p e' event := by
  cases event with
  | submitted prompts priority key result =>
      cases key with
      | none => trivial
      | some key =>
          cases result with
          | overloaded retryAfter message => trivial
          | conflict message =>
              intro nonempty
              obtain ⟨jobId, hash, binds, differs⟩ := tells nonempty
              exact ⟨jobId, hash, binds.next nonempty step, differs⟩
          | job jobId reuse => exact fun nonempty => (tells nonempty).next nonempty step
  | _ => trivial

/-- A submission tells the truth about its key. -/
theorem tells_submitted (p : Params) (e : Engine) (prompts : List PromptItem) (priority : Priority)
    (key : Option String) {newId : JobId} (named : newId ≠ "") :
    Tells p (e.submitWithIdempotency p prompts priority key newId).1
      (.submitted prompts priority key (e.submitWithIdempotency p prompts priority key newId).2) := by
  cases key with
  | none => trivial
  | some key =>
      by_cases accepting : e.accepting = true
      · cases known : e.existingJob (some key) with
        | some job =>
            rw [submit_known accepting known]
            by_cases same : job.requestFingerprint = some (p.fingerprint prompts priority)
            · rw [if_pos same]
              exact fun _ => ⟨job, known, rfl, same⟩
            · rw [if_neg same]
              exact fun _ => ⟨job.id, job.requestFingerprint, ⟨job, known, rfl, rfl⟩, same⟩
        | none =>
            rcases @submit_unknown p e prompts priority (some key) newId accepting known with
              ⟨retryAfter, message, answer, _⟩ | admitted
            · rw [answer]
              trivial
            · rw [admitted]
              exact fun nonempty => ⟨_, existingJob_register nonempty named, rfl, rfl⟩
      · unfold submitWithIdempotency
        rw [Bool.not_eq_true] at accepting
        simp only [accepting, Bool.not_false, if_true]
        trivial

theorem reachable_tells {p : Params} {ok : Engine → Label → Engine → Prop} {events : List Event}
    {e : Engine} (run : (engineMachine p).Reaches ok events e) :
    ∀ event ∈ events, Tells p e event := by
  refine run_invariant run (fun events e => ∀ event ∈ events, Tells p e event) ?_ ?_
  · exact fun _ impossible => by cases impossible
  · intro events emitted e e' label told _ _ step event member
    rcases List.mem_append.mp member with earlier | now
    · exact (told event earlier).next step
    · cases step with
      | submitted label prompts priority key newId requested quiet named fresh =>
          rw [List.mem_singleton.mp now]
          exact tells_submitted p e prompts priority key named
      | cancelled =>
          rw [List.mem_singleton.mp now]
          trivial
      | worked task action w g flag loc emitted found lowered work =>
          rcases work.emits event now with ⟨_, _, _, rfl⟩ | ⟨_, _, _, rfl⟩ <;> trivial
      | _ => cases now

/-- The engine with the hash of the source. -/
def hashedBy (sha256 : ByteArray → String) (p : Params) : Params :=
  { p with fingerprint := fingerprint sha256 }

theorem payload_of_fingerprint {sha256 : ByteArray → String} {prompts prompts' : List PromptItem}
    {priority priority' : Priority}
    (same : fingerprint sha256 prompts priority = fingerprint sha256 prompts' priority') :
    (prompts = prompts' ∧ priority = priority') ∨
      Collides sha256 (payload prompts priority) (payload prompts' priority') := by
  by_cases equal : payload prompts priority = payload prompts' priority'
  · exact Or.inl (payload_injective equal)
  · exact Or.inr ⟨equal, same⟩

/-- In every run, shutdown included, the answers under one idempotency key name one job
and one payload: two submissions that were answered with a job have the same prompts and
priority, or their payloads are a collision of the hash. A conflict is raised only where a
different payload bound the key, and never for one that was answered with a job. -/
theorem keys_name_payloads (p : Params) (sha256 : ByteArray → String) {events : List Event}
    {e : Engine} (run : (engineMachine (hashedBy sha256 p)).Reaches Machine.anyStep events e)
    (key : String) (nonempty : key ≠ "") :
    (∀ prompts priority jobId reused prompts' priority' jobId' reused',
        .submitted prompts priority (some key) (.job jobId reused) ∈ events →
          .submitted prompts' priority' (some key) (.job jobId' reused') ∈ events →
            jobId = jobId' ∧ ((prompts = prompts' ∧ priority = priority') ∨
              Collides sha256 (payload prompts priority) (payload prompts' priority'))) ∧
      (∀ prompts priority message,
        .submitted prompts priority (some key) (.conflict message) ∈ events →
          (∃ prompts' priority' jobId,
            .submitted prompts' priority' (some key) (.job jobId false) ∈ events ∧
              ¬(prompts' = prompts ∧ priority' = priority)) ∧
          ∀ jobId reused, .submitted prompts priority (some key) (.job jobId reused) ∉ events) ∧
      ∀ prompts priority jobId reused,
        .submitted prompts priority (some key) (.job jobId reused) ∈ events →
          e.accepting = true → ∀ newId e' emitted,
            (engineMachine (hashedBy sha256 p)).step e
                (.submit prompts priority (some key) newId) = some (e', emitted) →
              emitted = [.submitted prompts priority (some key) (.job jobId true)] := by
  have tells := reachable_tells run
  have index := reachable_keyIndex run
  have stored := reachable_stored run
  refine ⟨?_, ?_, ?_⟩
  · intro prompts priority jobId reused prompts' priority' jobId' reused' answered answered'
    obtain ⟨job, known, rfl, hash⟩ := tells _ answered nonempty
    obtain ⟨job', known', rfl, hash'⟩ := tells _ answered' nonempty
    rw [known, Option.some.injEq] at known'
    subst known'
    rw [hash, Option.some.injEq] at hash'
    exact ⟨rfl, payload_of_fingerprint hash'⟩
  · intro prompts priority message refused
    obtain ⟨_, _, ⟨job, known, rfl, rfl⟩, differs⟩ := tells _ refused nonempty
    refine ⟨?_, ?_⟩
    · obtain ⟨jobId, bound, _, found⟩ := existingJob_cases nonempty known
      obtain ⟨owner, found', keyed⟩ := index.indexed key jobId bound
      rw [found, Option.some.injEq] at found'
      subst found'
      obtain ⟨prompts', priority', admitted⟩ := index.origin jobId job found
      rw [truthy_eq_some keyed] at admitted
      obtain ⟨other, found'', _, hash⟩ := index.created _ _ _ _ admitted
      rw [found, Option.some.injEq] at found''
      subst found''
      refine ⟨prompts', priority', jobId, admitted, ?_⟩
      rintro ⟨rfl, rfl⟩
      exact differs hash
    · intro jobId reused answered
      obtain ⟨job', known', _, hash⟩ := tells _ answered nonempty
      rw [known, Option.some.injEq] at known'
      subst known'
      exact differs hash
  · intro prompts priority jobId reused answered accepting newId e' emitted stepped
    obtain ⟨job, known, rfl, hash⟩ := tells _ answered nonempty
    change Engine.step _ e (.submit prompts priority (some key) newId) = _ at stepped
    simp only [Engine.step] at stepped
    split at stepped
    · obtain ⟨rfl, rfl⟩ := Prod.mk.inj (Option.some.inj stepped)
      rw [submit_known accepting known, if_pos hash]
    · cases stepped

/-- The greeting with an empty name, which is another payload. -/
def nameless : List PromptItem := [{ id := some "", prompt := "hello" }]

/-- The SHA-256 of the two payloads below. -/
def greetingHashes (text : ByteArray) : String :=
  if text.size = (payload greeting .normal).size then greetingHash
  else "ff3fe3e53643773d48125e831dd8e20e12eb94c7339192058ca541bfc9066e50"

def oneKey : List Label :=
  [.submit greeting .normal (some "k") "a", .submit greeting .normal (some "k") "b",
    .submit nameless .normal (some "k") "c"]

/-- The answers of the run that are checked. -/
def answers : List Event → List (List PromptItem × SubmitResult)
  | .submitted prompts .normal (some "k") result :: events => (prompts, result) :: answers events
  | _ :: events => answers events
  | [] => []

theorem mem_of_answers {events : List Event} {prompts : List PromptItem} {result : SubmitResult}
    (member : (prompts, result) ∈ answers events) :
    .submitted prompts .normal (some "k") result ∈ events := by
  induction events with
  | nil => cases member
  | cons event events ih =>
      unfold answers at member
      split at member
      · rename_i same
        cases same
        rcases List.mem_cons.mp member with first | later
        · obtain ⟨rfl, rfl⟩ := Prod.mk.inj first
          exact List.mem_cons_self
        · exact List.mem_cons_of_mem _ (ih later)
      · rename_i same
        cases same
        exact List.mem_cons_of_mem _ (ih member)
      · rename_i same
        cases same

theorem keys_name_payloads_reused :
    ∃ events e message, (engineMachine
        (hashedBy greetingHashes EngineIdempotency.oneActiveJob)).Reaches Machine.anyStep events e ∧
      .submitted greeting .normal (some "k") (.job "a" true) ∈ events ∧
      .submitted nameless .normal (some "k") (.conflict message) ∈ events ∧
      (∀ jobId reused, .submitted nameless .normal (some "k") (.job jobId reused) ∉ events) ∧
      ∃ prompts priority jobId, .submitted prompts priority (some "k") (.job jobId false) ∈ events ∧
        ¬(prompts = nameless ∧ priority = .normal) := by
  rcases Machine.exists_anyRun_of_exec (engineMachine (hashedBy greetingHashes oneActiveJob))
      (engineMachine (hashedBy greetingHashes oneActiveJob)).initial oneKey
      (fun outcome => decide (answers outcome.1 =
        [(greeting, .job "a" false), (greeting, .job "a" true),
          (nameless, .conflict (conflictMessage "k"))])) (by decide +kernel) with
    ⟨events, e, run, tested⟩
  have told := of_decide_eq_true tested
  have reused : .submitted greeting .normal (some "k") (.job "a" true) ∈ events :=
    mem_of_answers (by rw [told]; exact List.mem_cons_of_mem _ List.mem_cons_self)
  have refused : .submitted nameless .normal (some "k") (.conflict (conflictMessage "k")) ∈ events :=
    mem_of_answers (by
      rw [told]
      exact List.mem_cons_of_mem _ (List.mem_cons_of_mem _ List.mem_cons_self))
  obtain ⟨_, conflicts, _⟩ := keys_name_payloads oneActiveJob greetingHashes run "k" (by decide)
  obtain ⟨admitted, never⟩ := conflicts nameless .normal (conflictMessage "k") refused
  exact ⟨events, e, _, run, reused, refused, never, admitted⟩

end Fingerprint
end BatchInference
