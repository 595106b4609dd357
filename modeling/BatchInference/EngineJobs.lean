/-
Jobs and items: what a step does to the store, to the scheduler and to the item
in the hands of a worker.
-/

import BatchInference.EngineWorkers

set_option autoImplicit false

namespace BatchInference

/-- One more result; the last one ends a running job. -/
def Job.advance (seq : Nat) (result : InferenceResult) (cost now : ℚ) (job : Job) : Job :=
  let job := job.record seq result cost
  if job.total ≤ job.completed ∧ job.state = .running then job.finish .completed now else job

/-- The item in the hands of a worker, with the number of its next call or of
the one that is going on. -/
def Loc.asking : Loc → Option InFlight
  | .backoff f _ => some { f with attempt := f.attempt + 1 }
  | loc => loc.flight

namespace Engine

theorem record_jobs (f : InFlight) (result : InferenceResult) (cost : ℚ)
    (credited exhausted : Bool) (e : Engine) :
    (e.record f result cost credited exhausted).store.byKey = e.store.byKey ∧
      ∀ jobId, (e.record f result cost credited exhausted).store.jobs.get? jobId =
        if jobId = f.jobId then
          (e.store.jobs.get? jobId).map (Job.advance f.item.seq result cost e.wallTime)
        else e.store.jobs.get? jobId := by
  have updated := e.store.get?_update f.jobId f.jobId (Job.record f.item.seq result cost)
  rw [if_pos rfl] at updated
  unfold record
  simp only [InMemoryJobStore.get]
  rw [updated]
  cases found : e.store.jobs.get? f.jobId with
  | none =>
      refine ⟨InMemoryJobStore.byKey_update _ _ _, fun jobId => ?_⟩
      simp only [Option.map_none, InMemoryJobStore.get?_update, found]
      by_cases same : jobId = f.jobId
      · rw [if_pos same, if_pos same, same, found]
        rfl
      · rw [if_neg same, if_neg same]
  | some job =>
      simp only [Option.map_some]
      by_cases last : (job.record f.item.seq result cost).total ≤
          (job.record f.item.seq result cost).completed ∧
            (job.record f.item.seq result cost).state = .running
      · simp only [if_pos last, refreshGauges_frame, finalize_frame]
        refine ⟨by simp only [InMemoryJobStore.byKey_update], fun jobId => ?_⟩
        simp only [InMemoryJobStore.get?_update, if_true]
        by_cases same : jobId = f.jobId
        · subst same
          simp only [if_true, found, Option.map_some, Job.advance, if_pos last]
        · simp only [if_neg same]
      · simp only [if_neg last]
        refine ⟨InMemoryJobStore.byKey_update _ _ _, fun jobId => ?_⟩
        simp only [InMemoryJobStore.get?_update]
        by_cases same : jobId = f.jobId
        · subst same
          simp only [if_true, found, Option.map_some, Job.advance, if_neg last]
        · simp only [if_neg same]

/-! ### The item in the hands of a worker -/

/-- The item of one worker, the scheduler and the store before and after a
stretch of its code. -/
inductive ItemStep (p : Params) (e g : Engine) (action : Action) :
    Option InFlight → Option InFlight → List Event → Prop where
  | carry (held : Option InFlight) (emitted : List Event) (scheduler : g.scheduler = e.scheduler)
      (store : g.store = e.store)
      (silent : ∀ event ∈ emitted, ∃ jobId seq time, event = .called jobId seq time) :
      ItemStep p e g action held held emitted
  | drained (popped : e.scheduler.pop = (g.scheduler, none)) (store : g.store = e.store) :
      ItemStep p e g action none none []
  | skipped (jobId : JobId) (item : WorkItem)
      (popped : e.scheduler.pop = (g.scheduler, some (jobId, item))) (store : g.store = e.store)
      (gone : ∀ job, e.store.get jobId = some job → job.state = .cancelled) :
      ItemStep p e g action none none []
  | taken (f : InFlight) (job : Job)
      (popped : e.scheduler.pop = (g.scheduler, some (f.jobId, f.item)))
      (store : g.store = e.store) (found : e.store.get f.jobId = some job)
      (alive : job.state ≠ .cancelled) (first : f.attempt = 1) :
      ItemStep p e g action none (some f) []
  | retried (f : InFlight) (reply : Reply) (jitter seconds : ℚ)
      (isReply : action = .reply reply jitter) (scheduler : g.scheduler = e.scheduler)
      (store : g.store = e.store.update f.jobId Job.retried)
      (settled : settle p.settings f.item f.attempt jitter reply = .retry seconds) :
      ItemStep p e g action (some f) (some { f with attempt := f.attempt + 1 })
        [.replied f.jobId f.item.seq reply]
  | recorded (f : InFlight) (reply : Reply) (jitter : ℚ) (result : InferenceResult) (cost : ℚ)
      (credited exhausted : Bool) (isReply : action = .reply reply jitter)
      (scheduler : g.scheduler = e.scheduler)
      (store : g.store = (e.record f result cost credited exhausted).store)
      (settled : settle p.settings f.item f.attempt jitter reply =
        .record result cost credited exhausted) :
      ItemStep p e g action (some f) none [.replied f.jobId f.item.seq reply]
  | forgotten (f : InFlight) (reply : Reply) (jitter : ℚ)
      (isReply : action = .reply reply jitter) (scheduler : g.scheduler = e.scheduler)
      (store : g.store = e.store)
      (settled : (∃ credited, settle p.settings f.item f.attempt jitter reply =
          .lost credited) ∨
        settle p.settings f.item f.attempt jitter reply = .cancelled) :
      ItemStep p e g action (some f) none [.replied f.jobId f.item.seq reply]
  | interrupted (f : InFlight) (isInterrupt : action = .interrupt)
      (scheduler : g.scheduler = e.scheduler) (store : g.store = e.store) :
      ItemStep p e g action (some f) none []

theorem itemStep {p : Params} {e g : Engine} {task : TaskId} {w : Worker} {action : Action}
    {loc : Loc} {emitted : List Event} (work : WorkStep p e task w action g loc emitted) :
    ItemStep p e g action w.loc.asking loc.asking emitted := by
  cases work with
  | started at_ quiet =>
      rw [at_]
      exact .carry none [] rfl rfl (by simp)
  | woken at_ quiet marked =>
      rw [at_]
      exact .carry none [] rfl rfl (by simp)
  | granted at_ free =>
      rw [at_]
      exact .carry none [] rfl rfl (by simp)
  | slept at_ full =>
      rw [at_]
      exact .carry none [] rfl rfl (by simp)
  | drained at_ scheduler popped =>
      rw [at_]
      exact .drained popped rfl
  | skipped at_ scheduler jobId item popped gone =>
      rw [at_]
      exact .skipped jobId item popped rfl gone
  | taken at_ scheduler jobId item job popped found alive =>
      rw [at_]
      exact .taken _ job popped rfl found alive rfl
  | called f at_ bucket grant =>
      rw [at_]
      exact .carry (some f) _ rfl rfl (by simp)
  | throttled f at_ bucket seconds refused =>
      rw [at_]
      exact .carry (some f) [] rfl rfl (by simp)
  | tokenWoken f seconds at_ quiet =>
      rw [at_]
      exact .carry (some f) [] rfl rfl (by simp)
  | suspended f at_ =>
      rw [at_]
      exact .carry (some f) [] rfl rfl (by simp)
  | retried f before at_ alone reply jitter seconds settled =>
      rw [at_]
      exact .retried f reply jitter seconds rfl rfl rfl settled
  | recorded f before at_ alone reply jitter result cost credited exhausted settled =>
      rw [at_]
      exact .recorded f reply jitter result cost credited exhausted rfl
        (record_frame f result cost credited exhausted e).1 rfl settled
  | lost f before at_ alone reply jitter credited settled =>
      rw [at_]
      exact .forgotten f reply jitter rfl rfl rfl (Or.inl ⟨credited, settled⟩)
  | callCancelled f before at_ alone reply jitter settled =>
      rw [at_]
      exact .forgotten f reply jitter rfl rfl rfl (Or.inr settled)
  | backoffEnded f seconds at_ quiet =>
      rw [at_]
      exact .carry (some { f with attempt := f.attempt + 1 }) [] rfl rfl (by simp)
  | left again at_ =>
      rw [at_]
      have nothing : (if again = true then Loc.acquiring else Loc.done).asking = none := by
        cases again <;> rfl
      rw [nothing]
      exact .carry none [] rfl rfl (by simp)
  | killed at_ requested quiet =>
      rw [at_]
      exact .carry none [] rfl rfl (by simp)
  | gaveUp at_ requested quiet =>
      rw [at_]
      exact .carry none [] rfl rfl (by simp)
  | sleepCancelled f seconds at_ requested quiet =>
      rcases at_ with at_ | at_
      · rw [at_]
        exact .interrupted f rfl rfl rfl
      · rw [at_]
        exact .interrupted { f with attempt := f.attempt + 1 } rfl rfl rfl

theorem ItemStep.scheduler {p : Params} {e g : Engine} {action : Action}
    {source target : Option InFlight}
    {emitted : List Event} (step : ItemStep p e g action source target emitted) :
    g.scheduler = e.scheduler ∨ ∃ served, e.scheduler.pop = (g.scheduler, served) := by
  cases step with
  | carry held emitted scheduler store silent => exact Or.inl scheduler
  | drained popped store => exact Or.inr ⟨_, popped⟩
  | skipped jobId item popped store gone => exact Or.inr ⟨_, popped⟩
  | taken f job popped store found alive first => exact Or.inr ⟨_, popped⟩
  | retried f reply jitter seconds isReply scheduler store settled => exact Or.inl scheduler
  | recorded f reply jitter result cost credited exhausted isReply scheduler store settled =>
      exact Or.inl scheduler
  | forgotten f reply jitter isReply scheduler store settled => exact Or.inl scheduler
  | interrupted f isInterrupt scheduler store => exact Or.inl scheduler

/-! ### Queued jobs are in the store -/

/-- The scheduler is well formed and only knows jobs of the store, under their
own identities. -/
structure Stored (e : Engine) : Prop where
  queue : e.scheduler.WellFormed
  known : ∀ jobId q, e.scheduler.queues.get? jobId = some q →
    (e.store.jobs.get? jobId).isSome = true
  named : ∀ jobId job, e.store.jobs.get? jobId = some job → job.id = jobId

/-- What a job keeps for ever: its identity, its key and its fingerprint. -/
def Job.registration (job : Job) : JobId × Option String × Option String :=
  (job.id, job.idempotencyKey, job.requestFingerprint)

theorem registration_advance (seq : Nat) (result : InferenceResult) (cost now : ℚ) (job : Job) :
    Job.registration (job.advance seq result cost now) = Job.registration job := by
  unfold Job.advance Job.record
  simp only
  split <;> split <;> rfl

/-- A change of the store that neither forgets a job nor changes its registration. -/
structure KeepsJobs (s s' : InMemoryJobStore) : Prop where
  byKey : s'.byKey = s.byKey
  jobs : ∀ jobId, (s'.jobs.get? jobId).map Job.registration =
    (s.jobs.get? jobId).map Job.registration

theorem KeepsJobs.refl (s : InMemoryJobStore) : KeepsJobs s s := ⟨rfl, fun _ => rfl⟩

theorem KeepsJobs.trans {a b c : InMemoryJobStore} (first : KeepsJobs a b)
    (second : KeepsJobs b c) : KeepsJobs a c :=
  ⟨second.byKey.trans first.byKey, fun jobId => (second.jobs jobId).trans (first.jobs jobId)⟩

/-- The job before the change, for a job after it. -/
theorem KeepsJobs.before {s s' : InMemoryJobStore} (keeps : KeepsJobs s s') {jobId : JobId}
    {job' : Job} (found' : s'.jobs.get? jobId = some job') :
    ∃ job, s.jobs.get? jobId = some job ∧ Job.registration job' = Job.registration job := by
  have same := keeps.jobs jobId
  rw [found', Option.map_some] at same
  rcases Option.map_eq_some_iff.mp same.symm with ⟨job, found, sameIdentity⟩
  exact ⟨job, found, sameIdentity.symm⟩

/-- The job after the change, for a job before it. -/
theorem KeepsJobs.after {s s' : InMemoryJobStore} (keeps : KeepsJobs s s') {jobId : JobId}
    {job : Job} (found : s.jobs.get? jobId = some job) :
    ∃ job', s'.jobs.get? jobId = some job' ∧ Job.registration job' = Job.registration job := by
  have same := keeps.jobs jobId
  rw [found, Option.map_some] at same
  exact Option.map_eq_some_iff.mp same

theorem keepsJobs_update (s : InMemoryJobStore) (jobId : JobId) (change : Job → Job)
    (sameIdentity : ∀ job, Job.registration (change job) = Job.registration job) :
    KeepsJobs s (s.update jobId change) := by
  refine ⟨InMemoryJobStore.byKey_update _ _ _, fun other => ?_⟩
  rw [InMemoryJobStore.get?_update]
  by_cases same : other = jobId
  · subst same
    rw [if_pos rfl, Option.map_map]
    congr 1
    funext job
    exact sameIdentity job
  · rw [if_neg same]

private theorem keepsJobs_record (f : InFlight) (result : InferenceResult) (cost : ℚ)
    (credited exhausted : Bool) (e : Engine) :
    KeepsJobs e.store (e.record f result cost credited exhausted).store := by
  rcases record_jobs f result cost credited exhausted e with ⟨byKey, jobs⟩
  refine ⟨byKey, fun jobId => ?_⟩
  rw [jobs jobId]
  split
  · rw [Option.map_map]
    congr 1
    funext job
    exact registration_advance _ _ _ _ job
  · rfl

private theorem keepsJobs_item {p : Params} {e g : Engine} {action : Action}
    {source target : Option InFlight}
    {emitted : List Event} (step : ItemStep p e g action source target emitted) :
    KeepsJobs e.store g.store := by
  have same : g.store = e.store → KeepsJobs e.store g.store :=
    fun store => store ▸ KeepsJobs.refl e.store
  cases step with
  | carry held emitted scheduler store silent => exact same store
  | drained popped store => exact same store
  | skipped jobId item popped store gone => exact same store
  | taken f job popped store found alive first => exact same store
  | retried f reply jitter seconds isReply scheduler store settled =>
      rw [store]
      exact keepsJobs_update _ _ _ (fun _ => rfl)
  | recorded f reply jitter result cost credited exhausted isReply scheduler store settled =>
      rw [store]
      exact keepsJobs_record f result cost credited exhausted e
  | forgotten f reply jitter isReply scheduler store settled => exact same store
  | interrupted f isInterrupt scheduler store => exact same store

theorem interruptJobs_keeps (e : Engine) :
    e.interruptJobs.scheduler = e.scheduler ∧ KeepsJobs e.store e.interruptJobs.store := by
  unfold interruptJobs
  simp only
  generalize e.store.jobs.keys = jobIds
  induction jobIds generalizing e with
  | nil => exact ⟨rfl, KeepsJobs.refl _⟩
  | cons jobId rest ih =>
      have one : (e.interruptJob jobId).scheduler = e.scheduler ∧
          KeepsJobs e.store (e.interruptJob jobId).store := by
        unfold interruptJob
        split
        · exact ⟨rfl, KeepsJobs.refl _⟩
        · split
          · exact ⟨rfl, keepsJobs_update _ _ _ (fun _ => rfl)⟩
          · exact ⟨rfl, KeepsJobs.refl _⟩
      rcases ih (e.interruptJob jobId) with ⟨scheduler, keeps⟩
      exact ⟨scheduler.trans one.1, one.2.trans keeps⟩

/-- The jobs of the store stay, so the queues may only lose entries. -/
private theorem stored_of_keeps {e e' : Engine} (stored : e.Stored)
    (queue : e'.scheduler.WellFormed)
    (queues : ∀ jobId q, e'.scheduler.queues.get? jobId = some q →
      ∃ old, e.scheduler.queues.get? jobId = some old)
    (keeps : KeepsJobs e.store e'.store) : e'.Stored where
  queue := queue
  known := by
    intro jobId q read
    rcases queues jobId q read with ⟨old, oldRead⟩
    rcases Option.isSome_iff_exists.mp (stored.known jobId old oldRead) with ⟨job, found⟩
    rcases keeps.after found with ⟨job', found', _⟩
    rw [found']
    rfl
  named := by
    intro jobId job' found'
    rcases keeps.before found' with ⟨job, found, same⟩
    rw [(Prod.mk.inj same).1]
    exact stored.named jobId job found

private theorem stored_register (p : Params) (prompts : List PromptItem) (priority : Priority)
    (key : Option String) (newId : JobId) {e : Engine} (stored : e.Stored)
    (fresh : e.store.jobs.get? newId = none) :
    (e.register p prompts priority key newId).Stored := by
  have unqueued : e.scheduler.queues.get? newId = none := by
    cases found : e.scheduler.queues.get? newId with
    | none => rfl
    | some q =>
        have known := stored.known newId q found
        rw [fresh] at known
        cases known
  unfold register
  constructor
  · simp only [ensureWorkers_frame, refreshGauges_frame]
    exact e.scheduler.addJob_wellFormed stored.queue newId _ priority unqueued
  · intro jobId q
    simp only [ensureWorkers_frame, refreshGauges_frame, InMemoryJobStore.get?_create]
    by_cases same : jobId = newId
    · intro _
      rw [if_pos same]
      rfl
    · simp only [FairScheduler.addJob, Dict.get?_set, if_neg same]
      exact stored.known jobId q
  · intro jobId job
    simp only [ensureWorkers_frame, refreshGauges_frame, InMemoryJobStore.get?_create]
    by_cases same : jobId = newId
    · rw [if_pos same, Option.some.injEq]
      intro new
      rw [← new, same]
    · rw [if_neg same]
      exact stored.named jobId job

/-- A step keeps the registered jobs, or it is an admission. -/
theorem Step.keepsJobs {p : Params} {e e' : Engine} {label : Label} {emitted : List Event}
    (step : Step p e label e' emitted) :
    (KeepsJobs e.store e'.store ∧ ∀ prompts priority key jobId,
        Event.submitted prompts priority key (.job jobId false) ∉ emitted) ∨
      ∃ prompts priority key newId, newId ≠ "" ∧ e.store.jobs.get? newId = none ∧
        e.existingJob key = none ∧ e' = e.register p prompts priority key newId ∧
        emitted = [.submitted prompts priority key (.job newId false)] := by
  cases step with
  | submitted label prompts priority key newId requested quiet named fresh =>
      rcases submit_cases p prompts priority key newId e with
        ⟨⟨_, _, same⟩, notNew⟩ | ⟨_, unknown, _, _, admitted⟩
      · refine Or.inl ⟨same ▸ KeepsJobs.refl _, ?_⟩
        intro prompts' priority' key' jobId member
        rw [List.mem_singleton] at member
        injection member with _ _ _ answer
        exact notNew jobId answer.symm
      · rw [admitted]
        exact Or.inr ⟨prompts, priority, key, newId, named, fresh, unknown, rfl, rfl⟩
  | cancelled jobId job quiet found unfinished =>
      exact Or.inl ⟨keepsJobs_update _ _ _ (fun _ => rfl), by simp⟩
  | worked task action w g flag loc emitted found lowered work =>
      have keeps := keepsJobs_item (itemStep work)
      refine Or.inl ⟨keeps, ?_⟩
      intro prompts priority key jobId member
      rcases work.emits _ member with ⟨_, _, _, impossible⟩ | ⟨_, _, _, impossible⟩
      · cases impossible
      · cases impossible
  | shutdownReturned ended phase => exact Or.inl ⟨(interruptJobs_keeps e).2, by simp⟩
  | _ => exact Or.inl ⟨KeepsJobs.refl _, by simp⟩

theorem Step.stored {p : Params} {e e' : Engine} {label : Label} {emitted : List Event}
    (stored : e.Stored) (step : Step p e label e' emitted) : e'.Stored := by
  cases step with
  | submitted label prompts priority key newId requested quiet named fresh =>
      rcases submit_cases p prompts priority key newId e with ⟨⟨_, _, same⟩, _⟩ | admitted
      · rw [same]
        exact stored_of_keeps stored stored.queue (fun _ q read => ⟨q, read⟩) (KeepsJobs.refl _)
      · rw [admitted.2.2.2.2]
        exact stored_register p prompts priority key newId stored fresh
  | cancelled jobId job quiet found unfinished =>
      refine stored_of_keeps stored ?_ ?_ ?_
      · exact e.scheduler.removeJob_wellFormed stored.queue jobId
      · intro other q read
        simp only [cancelOpen_frame, FairScheduler.removeJob] at read
        split at read
        · exact ⟨q, read⟩
        · simp only [Dict.get?_erase] at read
          split at read
          · cases read
          · exact ⟨q, read⟩
      · exact keepsJobs_update _ _ _ (fun _ => rfl)
  | worked task action w g flag loc emitted found lowered work =>
      have item := itemStep work
      have keeps := keepsJobs_item item
      rcases item.scheduler with same | ⟨served, popped⟩
      · refine stored_of_keeps stored ?_ (fun jobId q read => ⟨q, ?_⟩) keeps
        · change g.scheduler.WellFormed
          rw [same]
          exact stored.queue
        · rw [← same]
          exact read
      · have wf := e.scheduler.pop_wellFormed stored.queue
        rw [popped] at wf
        refine stored_of_keeps stored wf (fun jobId q read => ?_) keeps
        apply e.scheduler.known_of_pop stored.queue.queue
        rw [popped]
        exact read
  | shutdownReturned ended phase =>
      rcases interruptJobs_keeps e with ⟨scheduler, keeps⟩
      refine stored_of_keeps stored ?_ ?_ keeps
      · rw [scheduler]
        exact stored.queue
      · intro jobId q read
        rw [scheduler] at read
        exact ⟨q, read⟩
  | _ =>
      exact stored_of_keeps stored stored.queue (fun _ q read => ⟨q, read⟩) (KeepsJobs.refl _)

theorem reachable_stored {p : Params} {ok : Engine → Label → Engine → Prop}
    {events : List Event} {e : Engine} (run : (engineMachine p).Reaches ok events e) :
    e.Stored := by
  refine run_invariant run (fun _ e => e.Stored) ?_ ?_
  · exact
      { queue := FairScheduler.wellFormed_empty
        known := fun _ _ impossible => by cases impossible
        named := fun _ _ impossible => by cases impossible }
  · intro _ _ _ _ _ stored _ _ step
    exact step.stored stored

/-! ### One job through a step -/

/-- The job that an admission creates. -/
def admittedJob (p : Params) (prompts : List PromptItem) (priority : Priority)
    (key : Option String) (newId : JobId) (e : Engine) : Job :=
  { id := newId
    total := prompts.length
    priority := priority
    idempotencyKey := key
    requestFingerprint := some (p.fingerprint prompts priority)
    state := .running
    createdAt := e.wallTime
    startedAt := some e.wallTime }

theorem register_store (p : Params) (prompts : List PromptItem) (priority : Priority)
    (key : Option String) (newId : JobId) (e : Engine) :
    (e.register p prompts priority key newId).store =
      e.store.create (e.admittedJob p prompts priority key newId) := by
  unfold register
  simp only [ensureWorkers_frame, refreshGauges_frame, admittedJob]

theorem register_jobs (p : Params) (prompts : List PromptItem) (priority : Priority)
    (key : Option String) (newId : JobId) (e : Engine) (jobId : JobId) :
    (e.register p prompts priority key newId).store.jobs.get? jobId =
      if jobId = newId then some (e.admittedJob p prompts priority key newId)
      else e.store.jobs.get? jobId := by
  rw [register_store]
  exact InMemoryJobStore.get?_create _ _ _

/-- What one step can do to one job of the store. -/
inductive JobStep (e : Engine) (label : Label) (emitted : List Event) (jobId : JobId)
    (job : Job) : Job → Prop where
  | kept (silent : ∀ items, Event.cancelled jobId items ∉ emitted) :
      JobStep e label emitted jobId job job
  | retried (silent : ∀ items, Event.cancelled jobId items ∉ emitted)
      (answered : ∃ seq reply, Event.replied jobId seq reply ∈ emitted) :
      JobStep e label emitted jobId job job.retried
  | advanced (seq : Nat) (result : InferenceResult) (cost : ℚ)
      (silent : ∀ items, Event.cancelled jobId items ∉ emitted)
      (answered : ∃ seq reply, Event.replied jobId seq reply ∈ emitted) :
      JobStep e label emitted jobId job (job.advance seq result cost e.wallTime)
  | cancelled (items : List WorkItem) (unfinished : isOpen job.state = true)
      (shown : Event.cancelled jobId items ∈ emitted) :
      JobStep e label emitted jobId job (job.finish .cancelled e.wallTime)
  | interrupted (ending : ¬Serves label) (unfinished : isOpen job.state = true) :
      JobStep e label emitted jobId job (job.finish .cancelled e.wallTime)

theorem interruptJobs_job (e : Engine) (jobId : JobId) {job' : Job}
    (found' : e.interruptJobs.store.jobs.get? jobId = some job') :
    ∃ job, e.store.jobs.get? jobId = some job ∧
      (job' = job ∨ isOpen job.state = true ∧ job' = job.finish .cancelled e.wallTime) := by
  have one : ∀ (e : Engine) (interrupted : JobId) (job' : Job),
      (e.interruptJob interrupted).store.jobs.get? jobId = some job' →
        ∃ job, e.store.jobs.get? jobId = some job ∧
          (job' = job ∨ isOpen job.state = true ∧ job' = job.finish .cancelled e.wallTime) := by
    intro e interrupted job' read
    unfold interruptJob at read
    split at read
    · exact ⟨job', read, Or.inl rfl⟩
    · rename_i old found
      split at read
      · rename_i unfinished
        simp only [finalize_frame, InMemoryJobStore.get?_update] at read
        by_cases mine : jobId = interrupted
        · have found : e.store.jobs.get? interrupted = some old := found
          rw [if_pos mine, found, Option.map_some, Option.some.injEq] at read
          rw [mine]
          exact ⟨old, found, Or.inr ⟨unfinished, read.symm⟩⟩
        · rw [if_neg mine] at read
          exact ⟨job', read, Or.inl rfl⟩
      · exact ⟨job', read, Or.inl rfl⟩
  unfold interruptJobs at found'
  simp only at found'
  generalize e.store.jobs.keys = jobIds at found'
  induction jobIds generalizing e with
  | nil => exact ⟨job', found', Or.inl rfl⟩
  | cons interrupted rest ih =>
      have sameTime : (e.interruptJob interrupted).wallTime = e.wallTime := by
        unfold interruptJob
        split
        · rfl
        · split <;> rfl
      rcases ih (e.interruptJob interrupted) found' with ⟨middle, read, later⟩
      rcases one e interrupted middle read with ⟨job, found, earlier⟩
      rw [sameTime] at later
      refine ⟨job, found, ?_⟩
      rcases earlier with rfl | ⟨unfinished, rfl⟩
      · exact later
      · rcases later with rfl | ⟨impossible, _⟩
        · exact Or.inr ⟨unfinished, rfl⟩
        · cases impossible

private theorem itemStep_job {p : Params} {e g : Engine} {label : Label} {action : Action}
    {source target : Option InFlight} {emitted : List Event}
    (step : ItemStep p e g action source target emitted) {jobId : JobId} {job' : Job}
    (found' : g.store.jobs.get? jobId = some job') :
    ∃ job, e.store.jobs.get? jobId = some job ∧ JobStep e label emitted jobId job job' := by
  have same : g.store = e.store → (∀ items, Event.cancelled jobId items ∉ emitted) →
      ∃ job, e.store.jobs.get? jobId = some job ∧ JobStep e label emitted jobId job job' :=
    fun store silent => ⟨job', store ▸ found', .kept silent⟩
  cases step with
  | carry held emitted scheduler store silent =>
      refine same store (fun items member => ?_)
      rcases silent _ member with ⟨_, _, _, impossible⟩
      cases impossible
  | drained popped store => exact same store (by simp)
  | skipped jobId item popped store gone => exact same store (by simp)
  | taken f job popped store found alive first => exact same store (by simp)
  | retried f reply jitter seconds isReply scheduler store settled =>
      rw [store, InMemoryJobStore.get?_update] at found'
      by_cases mine : jobId = f.jobId
      · rw [if_pos mine, Option.map_eq_some_iff] at found'
        rcases found' with ⟨job, found, rfl⟩
        subst mine
        exact ⟨job, found, .retried (by simp) ⟨_, _, List.mem_singleton_self _⟩⟩
      · rw [if_neg mine] at found'
        exact ⟨job', found', .kept (by simp)⟩
  | recorded f reply jitter result cost credited exhausted isReply scheduler store settled =>
      rw [store, (record_jobs f result cost credited exhausted e).2 jobId] at found'
      by_cases mine : jobId = f.jobId
      · rw [if_pos mine, Option.map_eq_some_iff] at found'
        rcases found' with ⟨job, found, rfl⟩
        subst mine
        exact ⟨job, found, .advanced _ _ _ (by simp) ⟨_, _, List.mem_singleton_self _⟩⟩
      · rw [if_neg mine] at found'
        exact ⟨job', found', .kept (by simp)⟩
  | forgotten f reply jitter isReply scheduler store settled => exact same store (by simp)
  | interrupted f isInterrupt scheduler store => exact same store (by simp)

/-- A job after a step was in the store before it, or the step admitted it. -/
theorem Step.job {p : Params} {e e' : Engine} {label : Label} {emitted : List Event}
    (step : Step p e label e' emitted) {jobId : JobId} {job' : Job}
    (found' : e'.store.jobs.get? jobId = some job') :
    (∃ job, e.store.jobs.get? jobId = some job ∧ JobStep e label emitted jobId job job') ∨
      e.store.jobs.get? jobId = none ∧ ∃ prompts priority key,
        emitted = [.submitted prompts priority key (.job jobId false)] ∧
          job' = e.admittedJob p prompts priority key jobId := by
  cases step with
  | submitted label prompts priority key newId requested quiet named fresh =>
      rcases submit_cases p prompts priority key newId e with
        ⟨⟨_, _, same⟩, notNew⟩ | ⟨_, _, _, _, admitted⟩
      · rw [same] at found'
        exact Or.inl ⟨job', found', .kept (by simp)⟩
      · rw [admitted] at found' ⊢
        rw [register_jobs] at found'
        by_cases mine : jobId = newId
        · rw [if_pos mine, Option.some.injEq] at found'
          rw [mine]
          exact Or.inr ⟨fresh, prompts, priority, key, rfl, found'.symm⟩
        · rw [if_neg mine] at found'
          exact Or.inl ⟨job', found', .kept (by simp)⟩
  | cancelled cancelledId job quiet found unfinished =>
      rw [(cancelOpen_frame cancelledId e).1, InMemoryJobStore.get?_update] at found'
      left
      by_cases mine : jobId = cancelledId
      · have found : e.store.jobs.get? cancelledId = some job := found
        rw [if_pos mine, found, Option.map_some, Option.some.injEq] at found'
        rw [mine, ← found']
        exact ⟨job, found, .cancelled _ unfinished (List.mem_singleton_self _)⟩
      · rw [if_neg mine] at found'
        refine ⟨job', found', .kept (fun items member => ?_)⟩
        rw [List.mem_singleton] at member
        injection member with same
        exact mine same
  | worked task action w g flag loc emitted found lowered work =>
      exact Or.inl (itemStep_job (itemStep work) found')
  | shutdownReturned ended phase =>
      rcases interruptJobs_job e jobId found' with ⟨job, found, rfl | ⟨unfinished, rfl⟩⟩
      · exact Or.inl ⟨job', found, .kept (by simp)⟩
      · exact Or.inl ⟨job, found, .interrupted id unfinished⟩
  | _ => exact Or.inl ⟨job', found', .kept (by simp)⟩

theorem Step.job_stays {p : Params} {e e' : Engine} {label : Label} {emitted : List Event}
    (step : Step p e label e' emitted) {jobId : JobId} {job : Job}
    (found : e.store.jobs.get? jobId = some job) :
    ∃ job', e'.store.jobs.get? jobId = some job' ∧ JobStep e label emitted jobId job job' := by
  have stays : ∃ job', e'.store.jobs.get? jobId = some job' := by
    rcases step.keepsJobs with ⟨keeps, _⟩ | ⟨prompts, priority, key, newId, _, fresh, _, rfl, _⟩
    · rcases keeps.after found with ⟨job', found', _⟩
      exact ⟨job', found'⟩
    · by_cases mine : jobId = newId
      · rw [mine, fresh] at found
        cases found
      · refine ⟨job, ?_⟩
        rw [register_jobs, if_neg mine]
        exact found
  rcases stays with ⟨job', found'⟩
  rcases step.job found' with ⟨old, known, change⟩ | ⟨fresh, _⟩
  · rw [found, Option.some.injEq] at known
    exact ⟨job', found', known ▸ change⟩
  · rw [fresh] at found
    cases found

end Engine
end BatchInference
