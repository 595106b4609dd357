/-
Idempotency keys.

The index of the store binds a key to one job for ever: a key is looked up
before the overload checks, and it is registered only after them. The hash of a
submission is a parameter that is assumed to be injective.
-/

import BatchInference.EngineJobs
import Mathlib.Logic.Encodable.Basic
import Mathlib.Logic.Equiv.List

set_option autoImplicit false

namespace BatchInference
namespace EngineIdempotency

open Engine

/-- The index binds exactly the keys of the jobs, and every admitted submission
is still in the store. -/
structure KeyIndex (p : Params) (events : List Event) (e : Engine) : Prop where
  named : ∀ jobId job, e.store.jobs.get? jobId = some job → jobId ≠ ""
  bound : ∀ jobId job key, e.store.jobs.get? jobId = some job →
    truthy job.idempotencyKey = some key → e.store.byKey.get? key = some jobId
  indexed : ∀ key jobId, e.store.byKey.get? key = some jobId →
    ∃ job, e.store.jobs.get? jobId = some job ∧ truthy job.idempotencyKey = some key
  created : ∀ prompts priority key jobId,
    .submitted prompts priority key (.job jobId false) ∈ events →
      ∃ job, e.store.jobs.get? jobId = some job ∧ job.idempotencyKey = key ∧
        job.requestFingerprint = some (p.fingerprint prompts priority)
  origin : ∀ jobId job, e.store.jobs.get? jobId = some job →
    ∃ prompts priority, .submitted prompts priority job.idempotencyKey (.job jobId false) ∈ events

theorem truthy_some {key : String} (nonempty : key ≠ "") : truthy (some key) = some key := by
  simp only [truthy, if_neg nonempty]

theorem truthy_eq_some {key : Option String} {text : String} (same : truthy key = some text) :
    key = some text := by
  unfold truthy at same
  split at same
  · split at same
    · cases same
    · exact same
  · cases same

private theorem keyIndex_kept {p : Params} {events emitted : List Event} {e e' : Engine}
    (index : KeyIndex p events e) (keeps : KeepsJobs e.store e'.store)
    (notNew : ∀ prompts priority key jobId,
      Event.submitted prompts priority key (.job jobId false) ∉ emitted) :
    KeyIndex p (events ++ emitted) e' where
  named := by
    intro jobId job' found'
    rcases keeps.before found' with ⟨job, found, _⟩
    exact index.named jobId job found
  bound := by
    intro jobId job' key found' hasKey
    rcases keeps.before found' with ⟨job, found, same⟩
    rw [(Prod.mk.inj (Prod.mk.inj same).2).1] at hasKey
    rw [keeps.byKey]
    exact index.bound jobId job key found hasKey
  indexed := by
    intro key jobId read
    rw [keeps.byKey] at read
    rcases index.indexed key jobId read with ⟨job, found, hasKey⟩
    rcases keeps.after found with ⟨job', found', same⟩
    refine ⟨job', found', ?_⟩
    rw [(Prod.mk.inj (Prod.mk.inj same).2).1]
    exact hasKey
  created := by
    intro prompts priority key jobId member
    rcases List.mem_append.mp member with earlier | new
    · rcases index.created prompts priority key jobId earlier with ⟨job, found, hasKey, hashed⟩
      rcases keeps.after found with ⟨job', found', same⟩
      refine ⟨job', found', ?_, ?_⟩
      · rw [(Prod.mk.inj (Prod.mk.inj same).2).1]
        exact hasKey
      · rw [(Prod.mk.inj (Prod.mk.inj same).2).2]
        exact hashed
    · exact (notNew prompts priority key jobId new).elim
  origin := by
    intro jobId job' found'
    rcases keeps.before found' with ⟨job, found, same⟩
    rcases index.origin jobId job found with ⟨prompts, priority, member⟩
    refine ⟨prompts, priority, List.mem_append_left _ ?_⟩
    rw [(Prod.mk.inj (Prod.mk.inj same).2).1]
    exact member

private theorem unbound_of_lookup {p : Params} {events : List Event} {e : Engine}
    (index : KeyIndex p events e) {key : Option String} (unknown : e.existingJob key = none)
    {text : String} (hasKey : truthy key = some text) : e.store.byKey.get? text = none := by
  cases read : e.store.byKey.get? text with
  | none => rfl
  | some jobId =>
      rcases index.indexed text jobId read with ⟨job, found, _⟩
      have present : e.existingJob key = some job := by
        unfold existingJob InMemoryJobStore.findByIdempotencyKey
        rw [hasKey, Option.bind_some, read]
        simp only [if_neg (index.named jobId job found), found]
      rw [unknown] at present
      cases present

private theorem keyIndex_admitted {p : Params} {events : List Event} {e : Engine}
    (index : KeyIndex p events e) {prompts : List PromptItem} {priority : Priority}
    {key : Option String} {newId : JobId} (named : newId ≠ "")
    (fresh : e.store.jobs.get? newId = none) (unknown : e.existingJob key = none) :
    KeyIndex p (events ++ [.submitted prompts priority key (.job newId false)])
      (e.register p prompts priority key newId) := by
  have jobs := register_jobs p prompts priority key newId e
  have hasKey : (e.admittedJob p prompts priority key newId).idempotencyKey = key := rfl
  have older : ∀ {jobId job}, e.store.jobs.get? jobId = some job → jobId ≠ newId := by
    intro jobId job found same
    rw [same, fresh] at found
    cases found
  have byKey : ∀ text, (e.register p prompts priority key newId).store.byKey.get? text =
      if truthy key = some text then some newId else e.store.byKey.get? text := by
    intro text
    rw [register_store]
    unfold InMemoryJobStore.create admittedJob
    simp only
    cases bound : truthy key with
    | none => rfl
    | some own =>
        simp only [Dict.get?_set, Option.some.injEq, @eq_comm _ own text]
  constructor
  · intro jobId job found
    rw [jobs] at found
    by_cases mine : jobId = newId
    · rw [mine]
      exact named
    · rw [if_neg mine] at found
      exact index.named jobId job found
  · intro jobId job text found keyed
    rw [jobs] at found
    rw [byKey]
    by_cases mine : jobId = newId
    · rw [if_pos mine, Option.some.injEq] at found
      rw [← found, hasKey] at keyed
      rw [if_pos keyed, mine]
    · rw [if_neg mine] at found
      have own := index.bound jobId job text found keyed
      by_cases taken : truthy key = some text
      · rw [unbound_of_lookup index unknown taken] at own
        cases own
      · rw [if_neg taken]
        exact own
  · intro text jobId read
    rw [byKey] at read
    by_cases taken : truthy key = some text
    · rw [if_pos taken, Option.some.injEq] at read
      refine ⟨e.admittedJob p prompts priority key newId, ?_, ?_⟩
      · rw [jobs, if_pos read.symm]
      · rw [hasKey]
        exact taken
    · rw [if_neg taken] at read
      rcases index.indexed text jobId read with ⟨job, found, keyed⟩
      refine ⟨job, ?_, keyed⟩
      rw [jobs, if_neg (older found)]
      exact found
  · intro prompts' priority' key' jobId member
    rcases List.mem_append.mp member with earlier | now
    · rcases index.created prompts' priority' key' jobId earlier with ⟨job, found, keyed, hash⟩
      refine ⟨job, ?_, keyed, hash⟩
      rw [jobs, if_neg (older found)]
      exact found
    · rw [List.mem_singleton] at now
      injection now with samePrompts samePriority sameKey answer
      injection answer with same
      refine ⟨e.admittedJob p prompts priority key newId, ?_, ?_, ?_⟩
      · rw [jobs, if_pos same]
      · rw [hasKey, sameKey]
      · rw [samePrompts, samePriority]
        rfl
  · intro jobId job found
    rw [jobs] at found
    by_cases mine : jobId = newId
    · rw [if_pos mine, Option.some.injEq] at found
      refine ⟨prompts, priority, List.mem_append_right _ ?_⟩
      rw [← found, hasKey, mine]
      exact List.mem_singleton_self _
    · rw [if_neg mine] at found
      rcases index.origin jobId job found with ⟨prompts', priority', member⟩
      exact ⟨prompts', priority', List.mem_append_left _ member⟩

variable {p : Params} {ok : Engine → Label → Engine → Prop} {events : List Event} {e : Engine}

theorem reachable_keyIndex (run : (engineMachine p).Reaches ok events e) :
    KeyIndex p events e := by
  refine run_invariant run (KeyIndex p) ?_ ?_
  · exact
      { named := fun _ _ impossible => by cases impossible
        bound := fun _ _ _ impossible => by cases impossible
        indexed := fun _ _ impossible => by cases impossible
        created := fun _ _ _ _ impossible => by cases impossible
        origin := fun _ _ impossible => by cases impossible }
  · intro _ _ e e' _ index _ _ step
    rcases step.keepsJobs with
      ⟨keeps, notNew⟩ | ⟨prompts, priority, key, newId, named, fresh, unknown, rfl, rfl⟩
    · exact keyIndex_kept index keeps notNew
    · exact keyIndex_admitted index named fresh unknown

/-! ### A submission with a key -/

private theorem submit_step {e' : Engine} {emitted : List Event} {prompts : List PromptItem}
    {priority : Priority} {key : Option String} {newId : JobId}
    (stepped : (engineMachine p).step e (.submit prompts priority key newId) =
      some (e', emitted)) :
    e' = (e.submitWithIdempotency p prompts priority key newId).1 ∧
      emitted = [.submitted prompts priority key
        (e.submitWithIdempotency p prompts priority key newId).2] := by
  change Engine.step p e (.submit prompts priority key newId) = some (e', emitted) at stepped
  simp only [Engine.step] at stepped
  split at stepped
  · cases stepped
    exact ⟨rfl, rfl⟩
  · cases stepped

theorem stored_of_existingJob {key : Option String} {existing : Job} (stored : e.Stored)
    (matched : e.existingJob key = some existing) : e.store.get existing.id = some existing := by
  unfold existingJob InMemoryJobStore.findByIdempotencyKey at matched
  obtain ⟨text, _, read⟩ := Option.bind_eq_some_iff.mp matched
  split at read
  · rename_i known _
    split at read
    · cases read
    · rw [stored.named _ existing read]
      exact read
  · cases read

/-- The key of a job that was just registered leads to it. -/
theorem existingJob_register {prompts : List PromptItem} {priority : Priority} {key : String}
    {newId : JobId} (nonempty : key ≠ "") (named : newId ≠ "") :
    (e.register p prompts priority (some key) newId).existingJob (some key) =
      some (e.admittedJob p prompts priority (some key) newId) := by
  unfold existingJob InMemoryJobStore.findByIdempotencyKey
  rw [truthy_some nonempty, Option.bind_some, register_store]
  unfold InMemoryJobStore.create admittedJob
  simp only [truthy_some nonempty, Dict.get?_set_same, if_neg named]

/-- A known key is answered from the store, before any overload check. -/
theorem submit_known {prompts : List PromptItem} {priority : Priority} {key : String}
    {newId : JobId} {job : Job} (accepting : e.accepting = true)
    (known : e.existingJob (some key) = some job) :
    e.submitWithIdempotency p prompts priority (some key) newId =
      if job.requestFingerprint = some (p.fingerprint prompts priority) then
        ({ e with metrics := { e.metrics with
            idempotentReuse := e.metrics.idempotentReuse + 1 } }, .job job.id true)
      else (e, .conflict (conflictMessage key)) := by
  unfold submitWithIdempotency
  simp only [accepting, Bool.not_true, Bool.false_eq_true, if_false, known]
  by_cases same : job.requestFingerprint = some (p.fingerprint prompts priority)
  · simp only [same, ne_eq, not_true_eq_false, if_false, if_true]
  · simp only [same, ne_eq, not_false_eq_true, if_true, if_false]
    rfl

/-- An unknown key is refused, without a trace in the store, or admitted. -/
theorem submit_unknown {prompts : List PromptItem} {priority : Priority} {key : Option String}
    {newId : JobId} (accepting : e.accepting = true) (unknown : e.existingJob key = none) :
    (∃ retryAfter message, (e.submitWithIdempotency p prompts priority key newId).2 =
        .overloaded retryAfter message ∧
        (e.submitWithIdempotency p prompts priority key newId).1.store = e.store) ∨
      e.submitWithIdempotency p prompts priority key newId =
        (e.register p prompts priority key newId, .job newId false) := by
  generalize answered : e.submitWithIdempotency p prompts priority key newId = answer
  unfold submitWithIdempotency at answered
  rw [accepting] at answered
  simp only [Bool.not_true, Bool.false_eq_true, if_false, unknown] at answered
  split at answered
  · subst answered
    exact Or.inl ⟨_, _, rfl, rfl⟩
  · split at answered
    · subst answered
      exact Or.inl ⟨_, _, rfl, rfl⟩
    · exact Or.inr answered.symm

private theorem existingJob_of_index (index : KeyIndex p events e) {key : String}
    (nonempty : key ≠ "") {jobId : JobId} {job : Job}
    (found : e.store.jobs.get? jobId = some job) (keyed : job.idempotencyKey = some key) :
    e.existingJob (some key) = some job := by
  have bound := index.bound jobId job key found (by rw [keyed, truthy_some nonempty])
  unfold existingJob InMemoryJobStore.findByIdempotencyKey
  rw [truthy_some nonempty, Option.bind_some, bound]
  simp only [if_neg (index.named jobId job found), found]

private theorem existingJob_none (index : KeyIndex p events e) {key : String}
    (free : ∀ jobId job, e.store.jobs.get? jobId = some job → job.idempotencyKey ≠ some key) :
    e.existingJob (some key) = none := by
  unfold existingJob InMemoryJobStore.findByIdempotencyKey
  cases hasKey : truthy (some key) with
  | none => rfl
  | some text =>
      rw [Option.bind_some]
      cases read : e.store.byKey.get? text with
      | none => rfl
      | some jobId =>
          rcases index.indexed text jobId read with ⟨job, found, keyed⟩
          have same := (truthy_eq_some hasKey).trans (truthy_eq_some keyed).symm
          exact (free jobId job found same.symm).elim

/-- Submissions with an idempotency key are exactly once per key. At most one
job has the key. Once it was created, a submission with the key is answered with
that job or with a conflict, by whether the payload is the same, and changes
neither store, scheduler, active set nor workers. Until then no refused
submission has reserved the key, and the next one is refused again or binds it. -/
theorem exactly_once_per_key (p : Params)
    (injective : ∀ prompts priority prompts' priority',
      p.fingerprint prompts priority = p.fingerprint prompts' priority' →
        prompts = prompts' ∧ priority = priority')
    {events : List Event} {e : Engine}
    (run : (engineMachine p).Reaches (Machine.onLabels BeforeShutdown) events e)
    (key : String) (nonempty : key ≠ "") :
    (∀ jobId jobId' job job', e.store.get jobId = some job → e.store.get jobId' = some job' →
        job.idempotencyKey = some key → job'.idempotencyKey = some key → jobId = jobId') ∧
      (∀ prompts priority jobId,
        .submitted prompts priority (some key) (.job jobId false) ∈ events →
          ∀ prompts' priority' newId e' emitted,
            (engineMachine p).step e (.submit prompts' priority' (some key) newId) =
                some (e', emitted) →
              emitted = [.submitted prompts' priority' (some key)
                (if prompts' = prompts ∧ priority' = priority then .job jobId true
                  else .conflict (conflictMessage key))] ∧
              e'.store = e.store ∧ e'.scheduler = e.scheduler ∧ e'.active = e.active ∧
                e'.workers = e.workers) ∧
      ((∀ prompts priority jobId,
        .submitted prompts priority (some key) (.job jobId false) ∉ events) →
          (∀ jobId job, e.store.get jobId = some job → job.idempotencyKey ≠ some key) ∧
          ∀ prompts priority newId e' emitted,
            (engineMachine p).step e (.submit prompts priority (some key) newId) =
                some (e', emitted) →
              (∃ retryAfter message, emitted = [.submitted prompts priority (some key)
                  (.overloaded retryAfter message)] ∧ e'.store = e.store) ∨
                emitted = [.submitted prompts priority (some key) (.job newId false)] ∧
                  ∃ job, e'.store.get newId = some job ∧ job.idempotencyKey = some key) := by
  have index := reachable_keyIndex run
  have stored := reachable_stored run
  have accepting := (serving_invariant (fun _ _ _ allowed => allowed) run (fun _ _ => True) trivial
    (fun _ _ _ _ _ _ => trivial)).2.accepting
  refine ⟨?_, ?_, ?_⟩
  · intro jobId jobId' job job' found found' keyed keyed'
    have bound := index.bound jobId job key found (by rw [keyed, truthy_some nonempty])
    have bound' := index.bound jobId' job' key found' (by rw [keyed', truthy_some nonempty])
    rw [bound, Option.some.injEq] at bound'
    exact bound'
  · intro prompts priority jobId member prompts' priority' newId e' emitted stepped
    rcases index.created prompts priority (some key) jobId member with
      ⟨job, found, keyed, hashed⟩
    rcases submit_step stepped with ⟨rfl, rfl⟩
    rw [submit_known accepting (existingJob_of_index index nonempty found keyed), hashed,
      stored.named jobId job found]
    by_cases same : prompts' = prompts ∧ priority' = priority
    · rcases same with ⟨rfl, rfl⟩
      simp
    · have different : p.fingerprint prompts priority ≠ p.fingerprint prompts' priority' := by
        intro collision
        rcases injective _ _ _ _ collision with ⟨rfl, rfl⟩
        exact same ⟨rfl, rfl⟩
      simp [same, different]
  · intro none
    have free : ∀ jobId job, e.store.get jobId = some job → job.idempotencyKey ≠ some key := by
      intro jobId job found keyed
      rcases index.origin jobId job found with ⟨prompts, priority, member⟩
      rw [keyed] at member
      exact none prompts priority jobId member
    refine ⟨free, ?_⟩
    intro prompts priority newId e' emitted stepped
    rcases submit_step stepped with ⟨rfl, rfl⟩
    rcases @submit_unknown p e prompts priority (some key) newId accepting
      (existingJob_none index free) with ⟨retryAfter, message, answer, store⟩ | admitted
    · exact Or.inl ⟨retryAfter, message, by rw [answer], store⟩
    · right
      rw [admitted]
      refine ⟨rfl, e.admittedJob p prompts priority (some key) newId, ?_, rfl⟩
      unfold InMemoryJobStore.get
      rw [register_jobs, if_pos rfl]

/-! ### A hash without collisions -/

def codes (text : String) : List Nat := text.toList.map Char.toNat

def rank : Priority → Nat
  | .high => 0
  | .normal => 1
  | .low => 2

/-- A submission as plain numbers. -/
def plain (prompts : List PromptItem) (priority : Priority) :
    List (Option (List Nat) × List Nat) × Nat :=
  (prompts.map (fun prompt => (prompt.id.map codes, codes prompt.prompt)), rank priority)

theorem codes_injective : Function.Injective codes := by
  intro text text' same
  have characters := List.map_injective_iff.mpr
    (fun a b (equal : Char.toNat a = Char.toNat b) => Char.ext (UInt32.toNat_inj.mp equal)) same
  exact String.toList_injective characters

theorem plain_injective {prompts prompts' : List PromptItem} {priority priority' : Priority}
    (same : plain prompts priority = plain prompts' priority') :
    prompts = prompts' ∧ priority = priority' := by
  rcases Prod.mk.inj same with ⟨items, ranks⟩
  constructor
  · refine List.map_injective_iff.mpr ?_ items
    intro item item' equal
    rcases Prod.mk.inj equal with ⟨ids, texts⟩
    cases item
    cases item'
    simp only [PromptItem.mk.injEq]
    exact ⟨Option.map_injective codes_injective ids, codes_injective texts⟩
  · cases priority <;> cases priority' <;> first | rfl | cases ranks

def greeting : List PromptItem := [{ id := none, prompt := "hello" }]

/-- The SHA-256 of the one submission below. -/
def greetingHash : String := "ac4b48b23b6eb4c87d43ea3e692554a5e9651ba3303457d7c7d0b18bddd7b16b"

/-- A function without collisions that agrees with the hash on one submission. -/
def separatingHash (prompts : List PromptItem) (priority : Priority) : String :=
  if prompts = greeting ∧ priority = .normal then greetingHash
  else String.ofList (List.replicate (65 + Encodable.encode (plain prompts priority)) '0')

theorem separatingHash_injective (prompts : List PromptItem) (priority : Priority)
    (prompts' : List PromptItem) (priority' : Priority)
    (same : separatingHash prompts priority = separatingHash prompts' priority') :
    prompts = prompts' ∧ priority = priority' := by
  have short : greetingHash.length = 64 := by decide
  have lengths := congrArg String.length same
  unfold separatingHash at lengths
  split at lengths
  · rename_i first
    split at lengths
    · rename_i second
      exact ⟨first.1.trans second.1.symm, first.2.trans second.2.symm⟩
    · rw [short, String.length_ofList, List.length_replicate] at lengths
      omega
  · split at lengths
    · rw [short, String.length_ofList, List.length_replicate] at lengths
      omega
    · rw [String.length_ofList, String.length_ofList, List.length_replicate,
        List.length_replicate] at lengths
      exact plain_injective (Encodable.encode_injective (by omega))

def oneActiveJob : Params :=
  { settings := { maxActiveJobs := 1 }
    fingerprint := separatingHash }

/-- The greeting was admitted with the key as job `a`. -/
def greets : Event → Bool
  | .submitted prompts priority key (.job jobId false) =>
      prompts == greeting && priority == .normal && key == some "k" && jobId == "a"
  | _ => false

/-- The engine is at `max_active_jobs` after the first submission, and the same
submission is still answered with its job. -/
theorem exactly_once_per_key_reused :
    ∃ events e e', (engineMachine oneActiveJob).Reaches (Machine.onLabels BeforeShutdown) events e ∧
      oneActiveJob.settings.maxActiveJobs ≤ e.activeJobs ∧
      (engineMachine oneActiveJob).step e (.submit greeting .normal (some "k") "b") =
        some (e', [.submitted greeting .normal (some "k") (.job "a" true)]) ∧
      e'.store = e.store ∧ e'.workers = e.workers := by
  rcases @Machine.exists_run_of_exec _ _ _ (engineMachine oneActiveJob)
      (Machine.onLabels BeforeShutdown) (engineMachine oneActiveJob).initial
      (fun _ label _ => !isShutdown label) (fun _ _ _ checked => beforeShutdown_of_check checked)
      [.submit greeting .normal (some "k") "a"]
      (fun outcome => decide (1 ≤ outcome.2.activeJobs) &&
        (Engine.step oneActiveJob outcome.2 (.submit greeting .normal (some "k") "b")).isSome &&
        outcome.1.any greets) (by decide +kernel) with
    ⟨events, e, run, tested⟩
  simp only [Bool.and_eq_true, decide_eq_true_eq] at tested
  rcases tested with ⟨⟨full, enabled⟩, created⟩
  rcases List.any_eq_true.mp created with ⟨event, member, checked⟩
  have first : Event.submitted greeting .normal (some "k") (.job "a" false) ∈ events := by
    unfold greets at checked
    split at checked
    · simp only [Bool.and_eq_true, beq_iff_eq] at checked
      rcases checked with ⟨⟨⟨rfl, rfl⟩, rfl⟩, rfl⟩
      exact member
    · cases checked
  rcases Option.isSome_iff_exists.mp enabled with ⟨⟨e', emitted⟩, stepped⟩
  rcases exactly_once_per_key oneActiveJob separatingHash_injective run "k" (by decide) with
    ⟨_, answered, _⟩
  rcases answered greeting .normal "a" first greeting .normal "b" e' emitted stepped with
    ⟨rfl, store, _, _, workers⟩
  rw [if_pos ⟨rfl, rfl⟩] at stepped
  exact ⟨events, e, e', run, full, stepped, store, workers⟩

end EngineIdempotency
end BatchInference
