/-
What clients read from the service.

Every response about a job shows it as it is at that moment, and jobs only grow. So
whatever order the requests of all clients come in, later responses agree with earlier
ones: a job that was acknowledged is not unknown later, counters do not go back and an
end is for good.
-/

import BatchInference.EngineGrowth
import BatchInference.Service

set_option autoImplicit false

namespace BatchInference
namespace Service

open Engine EngineItems EngineGrowth EngineCompletion

variable {p : Params} {loads : List UInt8 → Except LoadsError Json} {apiKey : String}
  {events : List Event} {e e' : Engine} {jobId : JobId}

/-! ### What a response says about jobs -/

/-- The fields of a response that are about one job, as far as it has them. -/
structure View where
  jobId : JobId
  state : Option JobState := none
  total : Option Nat := none
  completed : Option Nat := none
  succeeded : Option Nat := none
  failed : Option Nat := none
  retries : Option Nat := none

def ackView (ack : SubmitResponse) : View :=
  { jobId := ack.jobId
    state := some ack.state
    total := some ack.total }

def summaryView (summary : JobSummary) : View :=
  { jobId := summary.jobId
    state := some summary.state
    total := some summary.total
    completed := some summary.completed
    succeeded := some summary.succeeded
    failed := some summary.failed }

def snapshotView (snapshot : Snapshot) : View :=
  { jobId := snapshot.jobId
    state := some snapshot.state
    total := some snapshot.total
    completed := some snapshot.completed
    succeeded := some snapshot.succeeded
    failed := some snapshot.failed
    retries := some snapshot.retries }

def resultsView (results : JobResultsResponse) : View :=
  { jobId := results.jobId
    state := some results.state
    total := some results.total
    succeeded := some results.succeeded
    failed := some results.failed }

def lettersView (letters : DeadLetterResponse) : View :=
  { jobId := letters.jobId
    failed := some letters.failed }

def Body.views : Body → List View
  | .ready _ => []
  | .capacity _ => []
  | .jobs listing => listing.jobs.map summaryView
  | .accepted ack => [ackView ack]
  | .status snapshot => [snapshotView snapshot]
  | .results page => [resultsView page]
  | .deadLetter letters => [lettersView letters]

def views : Response → List View
  | .ok body => body.views
  | .error _ => []

/-- The job that the request is about. -/
def Request.jobId? : Request → Option JobId
  | .jobStatus jobId => some jobId
  | .jobResults jobId _ => some jobId
  | .jobDeadLetter jobId _ => some jobId
  | .replayFailed jobId _ => some jobId
  | .cancelJob jobId => some jobId
  | _ => none

/-- The response says that the job is unknown. -/
def denied (request : Request) : Response → Option JobId
  | .error (.http 404 _ _) => request.jobId?
  | _ => none

/-! ### Views of one job -/

/-- The view shows the job as it is. -/
structure View.Of (view : View) (job : Job) : Prop where
  jobId : view.jobId = job.id
  state : ∀ state ∈ view.state, state = job.state
  total : ∀ total ∈ view.total, total = job.total
  completed : ∀ completed ∈ view.completed, completed = job.completed
  succeeded : ∀ succeeded ∈ view.succeeded, succeeded = job.succeeded
  failed : ∀ failed ∈ view.failed, failed = job.failed
  retries : ∀ retries ∈ view.retries, retries = job.retries

/-- The job may have looked like this before. -/
structure View.Past (view : View) (job : Job) : Prop where
  state : ∀ state ∈ view.state, isOpen state = false → job.state = state
  total : ∀ total ∈ view.total, job.total = total
  completed : ∀ completed ∈ view.completed, completed ≤ job.completed
  succeeded : ∀ succeeded ∈ view.succeeded, succeeded ≤ job.succeeded
  failed : ∀ failed ∈ view.failed, failed ≤ job.failed
  retries : ∀ retries ∈ view.retries, retries ≤ job.retries

/-- What a later view of the same job may say after an earlier one. -/
structure View.Precedes (old new : View) : Prop where
  state : ∀ state ∈ old.state, ∀ state' ∈ new.state, isOpen state = false → state' = state
  total : ∀ total ∈ old.total, ∀ total' ∈ new.total, total' = total
  completed : ∀ completed ∈ old.completed, ∀ completed' ∈ new.completed, completed ≤ completed'
  succeeded : ∀ succeeded ∈ old.succeeded, ∀ succeeded' ∈ new.succeeded, succeeded ≤ succeeded'
  failed : ∀ failed ∈ old.failed, ∀ failed' ∈ new.failed, failed ≤ failed'
  retries : ∀ retries ∈ old.retries, ∀ retries' ∈ new.retries, retries ≤ retries'

theorem View.Of.past {view : View} {job : Job} (shows : view.Of job) : view.Past job where
  state := fun state said _ => (shows.state state said).symm
  total := fun total said => (shows.total total said).symm
  completed := fun completed said => le_of_eq (shows.completed completed said)
  succeeded := fun succeeded said => le_of_eq (shows.succeeded succeeded said)
  failed := fun failed said => le_of_eq (shows.failed failed said)
  retries := fun retries said => le_of_eq (shows.retries retries said)

theorem View.Past.grows {view : View} {job job' : Job} (past : view.Past job)
    (grows : Grows job job') : view.Past job' where
  state := by
    intro state said closed
    have before := past.state state said closed
    rw [grows.lasting.state (by rw [before]; exact closed), before]
  total := fun total said => grows.total.trans (past.total total said)
  completed := fun completed said => le_trans (past.completed completed said) grows.completed
  succeeded := fun succeeded said => le_trans (past.succeeded succeeded said) grows.succeeded
  failed := fun failed said => le_trans (past.failed failed said) grows.failed
  retries := fun retries said => le_trans (past.retries retries said) grows.retries

theorem View.Past.precedes {old new : View} {job : Job} (past : old.Past job)
    (shows : new.Of job) : old.Precedes new where
  state := fun state said state' said' closed =>
    (shows.state state' said').trans (past.state state said closed)
  total := fun total said total' said' =>
    (shows.total total' said').trans (past.total total said)
  completed := fun completed said completed' said' =>
    shows.completed completed' said' ▸ past.completed completed said
  succeeded := fun succeeded said succeeded' said' =>
    shows.succeeded succeeded' said' ▸ past.succeeded succeeded said
  failed := fun failed said failed' said' => shows.failed failed' said' ▸ past.failed failed said
  retries := fun retries said retries' said' =>
    shows.retries retries' said' ▸ past.retries retries said

/-! ### Responses show the jobs as they are -/

/-- The dead letter has as many entries as the counter of failures says. -/
theorem length_deadLetter {job : Job} (counted : Counted job) :
    job.deadLetter.length = job.failed := by
  have succeeded : job.orderedResults.countP (fun result => result.success) = job.succeeded := by
    rw [job.orderedResults_perm.countP_eq, counted.succeeded, Dict.count_eq_countP]
  have all : job.orderedResults.length = job.completed := by
    rw [job.orderedResults_perm.length_eq, counted.results]
    exact List.length_map _
  have split := List.length_eq_countP_add_countP (fun result : InferenceResult => result.success)
    (l := job.orderedResults)
  have failures : job.deadLetter.length =
      job.orderedResults.countP (fun result => decide ¬result.success = true) := by
    unfold Job.deadLetter
    rw [← List.countP_eq_length_filter]
    apply List.countP_congr
    intro result _
    simp
  have sum := counted.completed
  omega

/-- Every job that the response is about is in the store, and shown as it is there. -/
def Shows (e : Engine) (response : Response) : Prop :=
  ∀ view ∈ views response, ∃ job, e.store.get view.jobId = some job ∧ view.Of job

/-- What holds of the jobs of the store between two steps. -/
structure Kept (e : Engine) : Prop where
  named : ∀ jobId job, e.store.get jobId = some job → job.id = jobId
  counted : ∀ jobId job, e.store.get jobId = some job → Counted job

theorem reachable_kept {ok : Engine → Label → Engine → Prop}
    (run : (engineMachine p).Reaches ok events e) : Kept e := by
  constructor
  · exact (reachable_stored run).named
  · intro jobId job present
    obtain ⟨_, _, account⟩ := (reachable_ledger False
      (fun _ _ _ _ impossible => impossible.elim) run).known jobId job present
    exact account.counted

theorem shows_error (e : Engine) (raised : Raised) : Shows e (.error raised) :=
  fun _ member => by cases member

theorem shows_single {view : View} {job : Job} {body : Body} (only : body.views = [view])
    (present : e.store.get view.jobId = some job) (of : view.Of job) : Shows e (.ok body) := by
  intro other member
  rw [views, only, List.mem_singleton] at member
  subst member
  exact ⟨job, present, of⟩

theorem snapshotView_of (job : Job) (pending : Nat) (now : ℚ) :
    (snapshotView (job.snapshot pending now)).Of job where
  jobId := rfl
  state := by simp [snapshotView, Job.snapshot]
  total := by simp [snapshotView, Job.snapshot]
  completed := by simp [snapshotView, Job.snapshot]
  succeeded := by simp [snapshotView, Job.snapshot]
  failed := by simp [snapshotView, Job.snapshot]
  retries := by simp [snapshotView, Job.snapshot]

theorem summaryView_of (job : Job) : (summaryView (summary job)).Of job where
  jobId := rfl
  state := by simp [summaryView, summary]
  total := by simp [summaryView, summary]
  completed := by simp [summaryView, summary]
  succeeded := by simp [summaryView, summary]
  failed := by simp [summaryView, summary]
  retries := by simp [summaryView]

theorem ackView_of (base : String) (job : Job) (reused : Bool) :
    (ackView (Endpoints.ack base job reused)).Of job where
  jobId := rfl
  state := by simp [ackView, Endpoints.ack]
  total := by simp [ackView, Endpoints.ack]
  completed := by simp [ackView]
  succeeded := by simp [ackView]
  failed := by simp [ackView]
  retries := by simp [ackView]

theorem mem_listed {state : Option String} {job : Job} (member : job ∈ listed state e) :
    job ∈ e.store.all := by
  unfold listed newestFirst at member
  split at member
  · exact (List.mem_insertionSort _).mp (List.mem_of_mem_filter member)
  · exact (List.mem_insertionSort _).mp member

theorem shows_listJobs (kept : Kept e) (state : Option String) (window : Window 500) :
    Shows e (.ok (.jobs (listJobs state window e))) := by
  intro view member
  simp only [views, Body.views, listJobs, List.map_map, List.mem_map] at member
  obtain ⟨job, onPage, rfl⟩ := member
  have stored := mem_listed ((Pages.page_sublist _ _ _).subset onPage)
  obtain ⟨jobId, present⟩ := (e.store.jobs.mem_values_iff job).mp stored
  refine ⟨job, ?_, summaryView_of job⟩
  have same := kept.named jobId job present
  subst same
  exact present

theorem shows_jobStatus (kept : Kept e) (jobId : JobId) :
    Shows e ((jobStatus jobId e).map .status) := by
  unfold jobStatus
  cases present : e.store.get jobId with
  | none => exact shows_error e _
  | some job =>
      refine shows_single rfl ?_ (snapshotView_of job _ _)
      rw [← kept.named jobId job present] at present
      exact present

theorem shows_jobResults (kept : Kept e) (jobId : JobId) (window : Window 1000) :
    Shows e ((jobResults jobId window e).map .results) := by
  unfold jobResults
  cases present : e.store.get jobId with
  | none => exact shows_error e _
  | some job =>
      have named := kept.named jobId job present
      subst named
      refine shows_single rfl present ⟨rfl, ?_, ?_, ?_, ?_, ?_, ?_⟩ <;> simp [resultsView]

theorem shows_jobDeadLetter (kept : Kept e) (jobId : JobId) (window : Window 1000) :
    Shows e ((jobDeadLetter jobId window e).map .deadLetter) := by
  unfold jobDeadLetter
  cases present : e.store.get jobId with
  | none => exact shows_error e _
  | some job =>
      have letters := length_deadLetter (kept.counted jobId job present)
      have named := kept.named jobId job present
      subst named
      refine shows_single rfl present ⟨rfl, ?_, ?_, ?_, ?_, ?_, ?_⟩ <;> simp [lettersView, letters]

/-- The job that a submission is answered with is in the store. -/
theorem present_of_submit (stored : e.Stored) {prompts : List PromptItem} {priority : Priority}
    {key : Option String} {newId : JobId} {reused : Bool}
    (answered : e.submitWithIdempotency p prompts priority key newId = (e', .job jobId reused)) :
    ∃ job, e'.store.get jobId = some job := by
  cases matched : e.existingJob key with
  | some existing =>
      have known := EngineIdempotency.stored_of_existingJob stored matched
      unfold Engine.submitWithIdempotency at answered
      simp only [matched] at answered
      split at answered
      · cases answered
      · split at answered
        · cases answered
        · cases answered
          exact ⟨existing, known⟩
  | none =>
      rcases submit_cases p prompts priority key newId e with
        ⟨_, notNew⟩ | ⟨_, _, _, _, admitted⟩
      · unfold Engine.submitWithIdempotency at answered notNew
        simp only [matched] at answered notNew
        split at answered
        · cases answered
        · split at answered
          · cases answered
          · split at answered
            · cases answered
            · rename_i accepting notFull room
              simp [accepting, notFull, room] at notNew
      · rw [admitted] at answered
        cases answered
        refine ⟨e.admittedJob p prompts priority key jobId, ?_⟩
        change (e.register p prompts priority key jobId).store.jobs.get? jobId = _
        rw [register_jobs, if_pos rfl]

theorem shows_accepted (kept : Kept e') (base : String) (reused : Bool)
    (present : ∃ job, e'.store.get jobId = some job) :
    Shows e' (.ok (.accepted (Endpoints.ack base (Endpoints.jobOf jobId e') reused))) := by
  obtain ⟨job, found⟩ := present
  have same : Endpoints.jobOf jobId e' = job := by
    unfold Endpoints.jobOf
    rw [found, Option.getD_some]
  rw [same]
  have named := kept.named jobId job found
  subst named
  exact shows_single rfl found (ackView_of base job reused)

theorem shows_answer (stored : e.Stored) (base : String) {prompts : List PromptItem}
    {priority : Priority} {key : Option String} {newId : JobId}
    (kept : Kept (e.submitWithIdempotency p prompts priority key newId).1) :
    Shows (e.submitWithIdempotency p prompts priority key newId).1
      ((Endpoints.answer base (e.submitWithIdempotency p prompts priority key newId)).2.map
        .accepted) := by
  rcases answered : e.submitWithIdempotency p prompts priority key newId with ⟨e', result⟩
  rw [answered] at kept
  cases result with
  | job created reused => exact shows_accepted kept base reused (present_of_submit stored answered)
  | overloaded retryAfter message => exact shows_error e' _
  | conflict message => exact shows_error e' _

theorem shows_replayFailed (stored : e.Stored) (base : String) (jobId newId : JobId)
    (kept : Kept (replayFailed p base jobId newId e).1) :
    Shows (replayFailed p base jobId newId e).1
      ((replayFailed p base jobId newId e).2.map .accepted) := by
  unfold replayFailed Engine.replayFailed at kept ⊢
  cases found : e.store.get jobId with
  | none => exact shows_error _ _
  | some job =>
      simp only [found] at kept ⊢
      cases empty : job.deadLetter.isEmpty with
      | true => exact shows_error _ _
      | false =>
          simp only [empty, Bool.false_eq_true, if_false] at kept ⊢
          rcases answered : e.submitWithIdempotency p (replayPrompts job)
            (none.getD job.priority) none newId with ⟨e', result⟩
          simp only [answered] at kept ⊢
          cases result with
          | job created reused =>
              exact shows_accepted kept base false (present_of_submit stored answered)
          | overloaded retryAfter message => exact shows_error e' _
          | conflict message => exact shows_error e' _

theorem get_cancelOpen {job : Job} (found : e.store.get jobId = some job) :
    (e.cancelOpen jobId).store.get jobId = some (job.finish .cancelled e.wallTime) := by
  have read : e.store.jobs.get? jobId = some job := found
  simp [cancelOpen, InMemoryJobStore.get, InMemoryJobStore.get?_update, read]

theorem shows_cancelJob (jobId : JobId) (kept : Kept (cancelJob jobId e).1) :
    Shows (cancelJob jobId e).1 ((cancelJob jobId e).2.map .status) := by
  unfold cancelJob Engine.cancel at kept ⊢
  cases found : e.store.get jobId with
  | none => exact shows_error _ _
  | some job =>
      simp only [found] at kept ⊢
      cases unfinished : isOpen job.state with
      | false => exact shows_error _ _
      | true =>
          simp only [unfinished, if_true] at kept ⊢
          have ended := get_cancelOpen found
          have same : Endpoints.jobOf jobId (e.cancelOpen jobId) =
              job.finish .cancelled e.wallTime := by
            unfold Endpoints.jobOf
            rw [ended, Option.getD_some]
          rw [same]
          have named := kept.named jobId _ ended
          refine shows_single rfl ?_ (snapshotView_of _ _ _)
          change (e.cancelOpen jobId).store.get (job.finish .cancelled e.wallTime).id = _
          rw [named]
          exact ended

/-- Every response shows the jobs as the engine has them afterwards. -/
theorem shows_handle (origin : Origin) (request : Request) (stored : e.Stored) (before : Kept e)
    (after : Kept (handle p loads origin e request).1) :
    Shows (handle p loads origin e request).1 (handle p loads origin e request).2 := by
  cases request with
  | readyz => exact fun _ member => by cases member
  | systemCapacity => exact fun _ member => by cases member
  | listJobs state window => exact shows_listJobs before state window
  | submitBatch payload idempotencyKey newId =>
      simp only [handle, Endpoints.submitBatch, Endpoints.answer_engine] at after ⊢
      exact shows_answer stored _ after
  | uploadBatch raw priority idempotencyKey newId =>
      cases read : Endpoints.readUpload loads raw with
      | error raised =>
          simp only [handle, Endpoints.uploadBatch, read]
          exact shows_error _ _
      | ok prompts =>
          simp only [handle, Endpoints.uploadBatch, read, Endpoints.answer_engine] at after ⊢
          exact shows_answer stored _ after
  | jobStatus jobId => exact shows_jobStatus before jobId
  | jobResults jobId window => exact shows_jobResults before jobId window
  | jobDeadLetter jobId window => exact shows_jobDeadLetter before jobId window
  | replayFailed jobId newId => exact shows_replayFailed stored _ jobId newId after
  | cancelJob jobId => exact shows_cancelJob jobId after

theorem denied_cases {request : Request} {response : Response}
    (said : denied request response = some jobId) :
    request.jobId? = some jobId ∧ ∃ detail retryAfter,
      response = .error (.http 404 detail retryAfter) := by
  unfold denied at said
  split at said
  · exact ⟨said, _, _, rfl⟩
  · cases said

/-- Only a job that is not in the store is unknown. -/
theorem absent_of_denied (origin : Origin) (request : Request)
    (said : denied request (handle p loads origin e request).2 = some jobId) :
    e.store.get jobId = none := by
  obtain ⟨about, detail, retryAfter, response⟩ := denied_cases said
  by_contra present
  obtain ⟨job, found⟩ := Option.ne_none_iff_exists'.mp present
  cases request with
  | jobStatus asked =>
      cases about
      simp [handle, jobStatus, found, Except.map] at response
  | jobResults asked window =>
      cases about
      simp [handle, jobResults, found, Except.map] at response
  | jobDeadLetter asked window =>
      cases about
      simp [handle, jobDeadLetter, found, Except.map] at response
  | replayFailed asked newId =>
      cases about
      simp only [handle, replayFailed, found] at response
      split at response
      · simp [Except.map] at response
      · simp [Except.map] at response
      · simp [Except.map] at response
      · simp [Except.map] at response
  | cancelJob asked =>
      cases about
      simp only [handle, cancelJob, Engine.cancel, found] at response
      cases unfinished : isOpen job.state with
      | true => simp [unfinished, Except.map] at response
      | false => simp [unfinished, Except.map] at response
  | _ => cases about

/-! ### Responses agree -/

/-- What a client reads later agrees with what was read before. -/
def Agree : ServiceEvent → ServiceEvent → Prop
  | .answered _ _ earlier, .answered _ request later =>
      ∀ view ∈ views earlier, denied request later ≠ some view.jobId ∧
        ∀ view' ∈ views later, view'.jobId = view.jobId → view.Precedes view'
  | _, _ => True

/-- What was read is still a past of the jobs. -/
def Remembered : ServiceEvent → State → Prop
  | .answered _ _ response, s =>
      ∀ view ∈ views response, ∃ job, s.engine.store.get view.jobId = some job ∧ view.Past job
  | .engine _, _ => True

/-- The service before a step: its engine has been reached. -/
def Reached (p : Params) (s : State) : Prop :=
  ∃ events, (engineMachine p).Reaches Machine.anyStep events s.engine

theorem reached_of_run {ok : State → ServiceLabel → State → Prop} {events : List ServiceEvent}
    {s : State} (run : (serviceMachine p loads apiKey).Reaches ok events s) : Reached p s :=
  ⟨_, engine_of_run run⟩

/-- A step of the service only lets the jobs of its engine grow. -/
theorem grows_of_service {s s' : State} {label : ServiceLabel} {emitted : List ServiceEvent}
    (reached : Reached p s)
    (stepped : (serviceMachine p loads apiKey).step s label = some (s', emitted))
    {job : Job} (present : s.engine.store.get jobId = some job) :
    ∃ job', s'.engine.store.get jobId = some job' ∧ Grows job job' := by
  rcases serviceMachine_step stepped with ⟨same, _⟩ | ⟨label', moved⟩
  · rw [same]
    exact ⟨job, present, .refl job⟩
  · obtain ⟨events, run⟩ := reached
    exact grows_of_step (reachable_ledger False (fun _ _ _ _ impossible => impossible.elim) run)
      (step_cases moved) present

theorem reached_next {s s' : State} {label : ServiceLabel} {emitted : List ServiceEvent}
    (reached : Reached p s)
    (stepped : (serviceMachine p loads apiKey).step s label = some (s', emitted)) :
    Reached p s' := by
  obtain ⟨events, run⟩ := reached
  rcases serviceMachine_step stepped with ⟨same, _⟩ | ⟨label', moved⟩
  · exact ⟨events, by rw [same]; exact run⟩
  · exact ⟨_, run.snoc label' trivial moved⟩

/-- A response agrees with all that was read before. -/
theorem agree_of_response {s s' : State} {label : ServiceLabel} {emitted : List ServiceEvent}
    (reached : Reached p s)
    (stepped : (serviceMachine p loads apiKey).step s label = some (s', emitted))
    {origin : Origin} {request : Request} {response : Response}
    (shows : Shows s'.engine response)
    (absent : ∀ jobId, denied request response = some jobId → s.engine.store.get jobId = none)
    {old : ServiceEvent} (remembered : Remembered old s) :
    Agree old (.answered origin request response) := by
  cases old with
  | engine event => trivial
  | answered origin' request' earlier =>
      intro view member
      obtain ⟨job, present, past⟩ := remembered view member
      constructor
      · intro said
        rw [absent _ said] at present
        cases present
      · intro view' member' same
        obtain ⟨job', present', shown⟩ := shows view' member'
        obtain ⟨grown, known, grows⟩ := grows_of_service reached stepped present
        rw [same, known, Option.some.injEq] at present'
        subst present'
        exact (past.grows grows).precedes shown

theorem facts_of_responds {s s' : State} {events : List Event} {origin : Origin}
    {request : Request} {response : Response} (reached : Reached p s) (reached' : Reached p s')
    (responds : Responds p loads s s' origin request events response) :
    Shows s'.engine response ∧
      ∀ jobId, denied request response = some jobId → s.engine.store.get jobId = none := by
  cases responds with
  | refused guarded raised refusal same =>
      refine ⟨shows_error _ _, ?_⟩
      intro jobId said
      obtain ⟨_, detail, retryAfter, unknown⟩ := denied_cases said
      unfold requireApiKey at refusal
      split at refusal
      · cases refusal
        cases unknown
      · cases refusal
  | served letIn key response handled =>
      obtain ⟨events, run⟩ := reached
      obtain ⟨events', run'⟩ := reached'
      have shows := shows_handle origin request (reachable_stored run)
        (reachable_kept run) (by rw [handled]; exact reachable_kept run')
      rw [handled] at shows
      refine ⟨shows, ?_⟩
      intro jobId said
      apply absent_of_denied (p := p) origin request
      rw [handled]
      exact said

/-- A step keeps what was read true, and what it answers agrees with it. -/
theorem remembered_next {s s' : State} {label : ServiceLabel} {emitted : List ServiceEvent}
    (reached : Reached p s)
    (stepped : (serviceMachine p loads apiKey).step s label = some (s', emitted)) :
    (∀ old, Remembered old s → Remembered old s' ∧ ∀ new ∈ emitted, Agree old new) ∧
      emitted.Pairwise Agree ∧ ∀ new ∈ emitted, Remembered new s' := by
  have lasts : ∀ old, Remembered old s → Remembered old s' := by
    rintro (event | ⟨origin, request, response⟩) remembered
    · trivial
    · intro view member
      obtain ⟨job, present, past⟩ := remembered view member
      obtain ⟨job', present', grows⟩ := grows_of_service reached stepped present
      exact ⟨job', present', past.grows grows⟩
  have unseen : ∀ (events : List Event) (old : ServiceEvent),
      ∀ new ∈ events.map ServiceEvent.engine, Agree old new := by
    rintro events old new member
    obtain ⟨event, _, rfl⟩ := List.mem_map.mp member
    cases old <;> trivial
  have silent : ∀ events : List Event, (events.map ServiceEvent.engine).Pairwise Agree :=
    fun events => List.pairwise_map.mpr (List.pairwise_of_forall (fun _ _ => trivial))
  rcases events_of_step stepped with ⟨events, rfl⟩ |
    ⟨events, origin, request, response, _, rfl, responds⟩
  · refine ⟨fun old remembered => ⟨lasts old remembered, unseen events old⟩, silent events, ?_⟩
    rintro new member
    obtain ⟨event, _, rfl⟩ := List.mem_map.mp member
    trivial
  · have facts := facts_of_responds reached (reached_next reached stepped) responds
    refine ⟨fun old remembered => ⟨lasts old remembered, ?_⟩, ?_, ?_⟩
    · intro new member
      rcases List.mem_append.mp member with shown | answered
      · exact unseen events old new shown
      · rw [List.mem_singleton] at answered
        subst answered
        exact agree_of_response reached stepped facts.1 facts.2 remembered
    · rw [List.pairwise_append]
      refine ⟨silent events, List.pairwise_singleton _ _, ?_⟩
      intro old member new answered
      obtain ⟨event, _, rfl⟩ := List.mem_map.mp member
      trivial
    · intro new member
      rcases List.mem_append.mp member with shown | answered
      · obtain ⟨event, _, rfl⟩ := List.mem_map.mp shown
        trivial
      · rw [List.mem_singleton] at answered
        subst answered
        intro view listed
        obtain ⟨job, present, of⟩ := facts.1 view listed
        exact ⟨job, present, of.past⟩

/-- Nothing is uploaded. -/
def noUpload (_ : List UInt8) : Except LoadsError Json := .error (.jsonDecode "")

def proxied : Origin :=
  { scheme := "http"
    baseUrl := "http://host/"
    forwardedProto := some "https" }

def twoGreetings : BatchRequest :=
  { prompts := [{ id := none, prompt := "hello" }, { id := none, prompt := "again" }]
    priority := .normal }

/-- A client submits two prompts and asks for the status before and after the first answer. -/
def polled : List ServiceLabel :=
  [.request proxied (.submitBatch twoGreetings none "a"), .request proxied (.jobStatus "a"),
    .engine (.work 0 .start), .engine (.work 0 .enter), .engine (.work 0 .take),
    .engine (.work 0 .gate), .engine (.work 0 (.reply (.returned "hi") 0)),
    .engine (.work 0 .leave), .engine (.work 0 .enter), .engine (.work 0 .take),
    .engine (.work 0 .gate), .engine (.work 0 .suspend), .request proxied (.jobStatus "a")]

/-- The counters of completed prompts in a response. -/
def completedRead : ServiceEvent → Option (List (Option Nat))
  | .answered _ _ response => some ((views response).map View.completed)
  | .engine _ => none

end Service
end BatchInference
