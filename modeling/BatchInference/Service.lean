/-
The endpoints of app/main.py that read the engine, and all of them over one engine.

Requests are handled between two segments of the workers, each at once, with their
parameters validated. Reading endpoints leave the engine alone, the others make one
call of it; so the service is the engine with an audience.
-/

import BatchInference.Endpoints
import BatchInference.EventStream
import BatchInference.Lib.Pages
import Mathlib.Data.List.DropRight

set_option autoImplicit false

namespace BatchInference

structure JobSummary where
  jobId : JobId
  state : JobState
  priority : Priority
  total : Nat
  completed : Nat
  succeeded : Nat
  failed : Nat
  createdAt : ℚ

structure JobsListResponse where
  total : Nat
  returned : Nat
  limit : Nat
  offset : Nat
  jobs : List JobSummary

structure JobResultsResponse where
  jobId : JobId
  state : JobState
  total : Nat
  succeeded : Nat
  failed : Nat
  returned : Nat
  limit : Nat
  offset : Nat
  results : List InferenceResult

structure DeadLetterResponse where
  jobId : JobId
  failed : Nat
  returned : Nat
  items : List InferenceResult

namespace Service

open Engine

/-! ### Requests and responses -/

/-- The query parameters `limit` and `offset` of a listing, within the bounds of `Query`. -/
structure Window (most : Nat) where
  limit : Nat
  offset : Nat
  positive : 1 ≤ limit
  bounded : limit ≤ most

def Window.of {Item : Type} {most : Nat} (window : Window most) (items : List Item) : List Item :=
  Pages.page window.limit window.offset items

/-- Where a request came from, as the server and the proxy before it see it. -/
structure Origin where
  scheme : String
  baseUrl : String
  forwardedProto : Option String := none
  xApiKey : Option String := none

inductive Request where
  | readyz
  | systemCapacity
  | listJobs (state : Option String) (window : Window 500)
  | submitBatch (payload : BatchRequest) (idempotencyKey : Option String) (newId : JobId)
  | uploadBatch (raw : List UInt8) (priority : Priority) (idempotencyKey : Option String)
      (newId : JobId)
  | jobStatus (jobId : JobId)
  | jobResults (jobId : JobId) (window : Window 1000)
  | jobDeadLetter (jobId : JobId) (window : Window 1000)
  | replayFailed (jobId : JobId) (newId : JobId)
  | cancelJob (jobId : JobId)

/-- The body of `/readyz`; its status code is 200 or 503. -/
structure Readiness where
  statusCode : Nat
  status : String
  accepting : Bool
  activeJobs : Int
  maxActiveJobs : Int
  saturated : Bool

structure Capacity where
  accepting : Bool
  activeJobs : Int
  maxActiveJobs : Int
  queueDepth : Int
  maxQueueSize : Int
  inflight : Int
  concurrencyLimit : Int
  globalMaxConcurrency : Int
  saturated : Bool

inductive Body where
  | ready (readiness : Readiness)
  | capacity (capacity : Capacity)
  | jobs (listing : JobsListResponse)
  | accepted (ack : SubmitResponse)
  | status (snapshot : Snapshot)
  | results (results : JobResultsResponse)
  | deadLetter (letters : DeadLetterResponse)

abbrev Response := Except Raised Body

/-! ### The base of the returned URLs -/

/-- `text.replace(old, new, 1)`. -/
def replaceFirst (old new : List Char) : List Char → List Char
  | [] => if old.isEmpty then new else []
  | c :: rest =>
      if old.isPrefixOf (c :: rest) then new ++ (c :: rest).drop old.length
      else c :: replaceFirst old new rest

/-- The base of the URLs in `_ack`, with the scheme that the proxy was asked with. -/
def base (origin : Origin) : String :=
  let proto := origin.forwardedProto.getD origin.scheme
  String.ofList (replaceFirst origin.scheme.toList proto.toList
    (origin.baseUrl.toList.rdropWhile (· = '/')))

/-! ### The endpoints -/

def requireApiKey (expected : String) (xApiKey : Option String) : Option Raised :=
  if expected ≠ "" ∧ xApiKey ≠ some expected then
    some (.http 401 "Invalid or missing API key." none)
  else none

def unknownJob (jobId : JobId) : Raised := .http 404 s!"Unknown job_id: {jobId}" none

def saturated (p : Params) (e : Engine) : Bool := decide (p.settings.maxActiveJobs ≤ e.activeJobs)

def readyz (p : Params) (e : Engine) : Readiness :=
  let ready := e.accepting && !saturated p e
  { statusCode := if ready then 200 else 503
    status := if ready then "ready" else "not_ready"
    accepting := e.accepting
    activeJobs := e.activeJobs
    maxActiveJobs := p.settings.maxActiveJobs
    saturated := saturated p e }

def systemCapacity (p : Params) (e : Engine) : Capacity :=
  { accepting := e.accepting
    activeJobs := e.activeJobs
    maxActiveJobs := p.settings.maxActiveJobs
    queueDepth := e.scheduler.pending
    maxQueueSize := p.settings.maxQueueSize
    inflight := e.metrics.inflight
    concurrencyLimit := e.limiter.limit
    globalMaxConcurrency := p.settings.globalMaxConcurrency
    saturated := saturated p e }

/-- Jobs with later `created_at` come first, equal ones in the order of the store. -/
def newestFirst (jobs : List Job) : List Job :=
  jobs.insertionSort (fun job job' => job'.createdAt ≤ job.createdAt)

def listed (state : Option String) (e : Engine) : List Job :=
  match truthy state with
  | some state => (newestFirst e.store.all).filter (fun job => job.state.value == state)
  | none => newestFirst e.store.all

def summary (job : Job) : JobSummary :=
  { jobId := job.id
    state := job.state
    priority := job.priority
    total := job.total
    completed := job.completed
    succeeded := job.succeeded
    failed := job.failed
    createdAt := job.createdAt }

def listJobs (state : Option String) (window : Window 500) (e : Engine) : JobsListResponse :=
  let jobs := listed state e
  let page := window.of jobs
  { total := jobs.length
    returned := page.length
    limit := window.limit
    offset := window.offset
    jobs := page.map summary }

def status (job : Job) (e : Engine) : Snapshot :=
  job.snapshot (e.scheduler.jobPending job.id) e.wallTime

def jobStatus (jobId : JobId) (e : Engine) : Except Raised Snapshot :=
  match e.store.get jobId with
  | none => .error (unknownJob jobId)
  | some job => .ok (status job e)

def jobResults (jobId : JobId) (window : Window 1000) (e : Engine) :
    Except Raised JobResultsResponse :=
  match e.store.get jobId with
  | none => .error (unknownJob jobId)
  | some job =>
      let page := window.of job.orderedResults
      .ok
        { jobId := job.id
          state := job.state
          total := job.total
          succeeded := job.succeeded
          failed := job.failed
          returned := page.length
          limit := window.limit
          offset := window.offset
          results := page }

def jobDeadLetter (jobId : JobId) (window : Window 1000) (e : Engine) :
    Except Raised DeadLetterResponse :=
  match e.store.get jobId with
  | none => .error (unknownJob jobId)
  | some job =>
      let failed := job.deadLetter
      let page := window.of failed
      .ok
        { jobId := job.id
          failed := failed.length
          returned := page.length
          items := page }

/-- The endpoint catches an overload only; another exception becomes a server error. -/
def replayFailed (p : Params) (base : String) (jobId newId : JobId) (e : Engine) :
    Engine × Except Raised SubmitResponse :=
  match e.store.get jobId with
  | none => (e, .error (unknownJob jobId))
  | some _ =>
      match e.replayFailed p jobId none newId with
      | none => (e, .error (.http 409 "No failed prompts to replay." none))
      | some (_, _, e', .overloaded retryAfter message) =>
          (e', .error (.http 503 message (some retryAfter)))
      | some (_, _, e', .conflict message) => (e', .error (.http 500 message none))
      | some (_, _, e', .job created _) =>
          (e', .ok (Endpoints.ack base (Endpoints.jobOf created e') false))

def cancelJob (jobId : JobId) (e : Engine) : Engine × Except Raised Snapshot :=
  match e.cancel jobId with
  | (e', none) => (e', .error (unknownJob jobId))
  | (e', some false) => (e', .error (.http 409 "Job has already finished." none))
  | (e', some true) => (e', .ok (status (Endpoints.jobOf jobId e') e'))

/-! ### The service as a machine -/

/-- An engine and the API key that the environment holds at the moment. -/
structure State where
  engine : Engine
  apiKey : String

inductive ServiceLabel where
  | engine (label : Label)
  /-- The key is changed while the service runs. -/
  | rotate (apiKey : String)
  | request (origin : Origin) (request : Request)

inductive ServiceEvent where
  | engine (event : Event)
  | answered (origin : Origin) (request : Request) (response : Response)

/-- The readiness probe lies outside the guarded router. -/
def Request.guarded : Request → Bool
  | .readyz => false
  | _ => true

/-- The identity that is drawn if a job is created. -/
def Request.newId? : Request → Option JobId
  | .submitBatch _ _ newId => some newId
  | .uploadBatch _ _ _ newId => some newId
  | .replayFailed _ newId => some newId
  | _ => none

/-- Drawn identities are new. -/
def drawsFresh (request : Request) (e : Engine) : Bool :=
  request.newId?.all (fun newId => !newId.isEmpty && !e.store.jobs.contains newId)

/-- The step of the engine that a request makes, if it makes one. -/
def engineLabel (loads : List UInt8 → Except LoadsError Json) : Request → Option Label
  | .submitBatch payload idempotencyKey newId =>
      some (.submit payload.prompts payload.priority idempotencyKey newId)
  | .uploadBatch raw priority idempotencyKey newId =>
      match Endpoints.readUpload loads raw with
      | .error _ => none
      | .ok prompts => some (.submit prompts priority idempotencyKey newId)
  | .replayFailed jobId newId => some (.replayFailed jobId none newId)
  | .cancelJob jobId => some (.cancel jobId)
  | _ => none

/-- The engine and the response after a request that was let in. -/
def handle (p : Params) (loads : List UInt8 → Except LoadsError Json) (origin : Origin)
    (e : Engine) : Request → Engine × Response
  | .readyz => (e, .ok (.ready (readyz p e)))
  | .systemCapacity => (e, .ok (.capacity (systemCapacity p e)))
  | .listJobs state window => (e, .ok (.jobs (listJobs state window e)))
  | .submitBatch payload idempotencyKey newId =>
      let answer := Endpoints.submitBatch p (base origin) payload idempotencyKey newId e
      (answer.1, answer.2.map .accepted)
  | .uploadBatch raw priority idempotencyKey newId =>
      let answer := Endpoints.uploadBatch p loads (base origin) raw priority idempotencyKey newId e
      (answer.1, answer.2.map .accepted)
  | .jobStatus jobId => (e, (jobStatus jobId e).map .status)
  | .jobResults jobId window => (e, (jobResults jobId window e).map .results)
  | .jobDeadLetter jobId window => (e, (jobDeadLetter jobId window e).map .deadLetter)
  | .replayFailed jobId newId =>
      let answer := replayFailed p (base origin) jobId newId e
      (answer.1, answer.2.map .accepted)
  | .cancelJob jobId =>
      let answer := cancelJob jobId e
      (answer.1, answer.2.map .status)

/-- What the engine shows of a request that was let in. -/
def engineEvents (p : Params) (loads : List UInt8 → Except LoadsError Json) (e : Engine)
    (request : Request) : List Event :=
  (((engineLabel loads request).bind ((engineMachine p).step e)).map Prod.snd).getD []

/-- The router and the middlewares before it. -/
def respond (p : Params) (loads : List UInt8 → Except LoadsError Json) (origin : Origin)
    (request : Request) (s : State) : State × List ServiceEvent :=
  match if request.guarded then requireApiKey s.apiKey origin.xApiKey else none with
  | some raised => (s, [.answered origin request (.error raised)])
  | none =>
      let answer := handle p loads origin s.engine request
      ({ s with engine := answer.1 },
        (engineEvents p loads s.engine request).map .engine ++
          [.answered origin request answer.2])

def serviceMachine (p : Params) (loads : List UInt8 → Except LoadsError Json) (apiKey : String) :
    Machine State ServiceLabel ServiceEvent :=
  { initial :=
      { engine := Engine.new p
        apiKey := apiKey }
    step := fun s label =>
      match label with
      | .engine label =>
          ((engineMachine p).step s.engine label).map (fun next =>
            ({ s with engine := next.1 }, next.2.map .engine))
      | .rotate apiKey => some ({ s with apiKey := apiKey }, [])
      | .request origin request =>
          if s.engine.atAwait && drawsFresh request s.engine then
            some (respond p loads origin request s)
          else none }

/-! ### The service runs the engine -/

def engineEvent : ServiceEvent → Option Event
  | .engine event => some event
  | .answered _ _ _ => none

variable {p : Params} {loads : List UInt8 → Except LoadsError Json} {apiKey : String}

theorem filterMap_engine (events : List Event) :
    (events.map ServiceEvent.engine).filterMap engineEvent = events := by
  rw [List.filterMap_map]
  exact List.filterMap_some

theorem cancelJob_step (jobId : JobId) {e : Engine} (quiet : e.atAwait = true) :
    ∃ emitted, (engineMachine p).step e (.cancel jobId) = some ((cancelJob jobId e).1, emitted) := by
  change ∃ emitted, Engine.step p e (.cancel jobId) = _
  simp only [Engine.step, quiet, if_true, cancelJob]
  rcases e.cancel jobId with ⟨e', _ | _ | _⟩
  · exact ⟨_, rfl⟩
  · exact ⟨_, rfl⟩
  · exact ⟨_, rfl⟩

theorem replayFailed_step (origin : String) (jobId newId : JobId) {e : Engine}
    (guard : (e.atAwait && !newId.isEmpty && !e.store.jobs.contains newId) = true) :
    ∃ emitted, (engineMachine p).step e (.replayFailed jobId none newId) =
      some ((replayFailed p origin jobId newId e).1, emitted) := by
  change ∃ emitted, Engine.step p e (.replayFailed jobId none newId) = _
  simp only [Engine.step, guard, if_true]
  unfold replayFailed Engine.replayFailed
  cases found : e.store.get jobId with
  | none => exact ⟨_, rfl⟩
  | some job =>
      cases empty : job.deadLetter.isEmpty with
      | true =>
          simp only [empty, if_true]
          exact ⟨_, rfl⟩
      | false =>
          simp only [empty, Bool.false_eq_true, if_false]
          rcases e.submitWithIdempotency p (replayPrompts job) (none.getD job.priority) none newId
            with ⟨e', _ | _ | _⟩
          · exact ⟨_, rfl⟩
          · exact ⟨_, rfl⟩
          · exact ⟨_, rfl⟩

theorem fresh_of_drawn {newId : JobId} {e : Engine}
    (drawn : (!newId.isEmpty && !e.store.jobs.contains newId) = true) :
    newId ≠ "" ∧ e.store.get newId = none := by
  simp only [Bool.and_eq_true, Bool.not_eq_true', Dict.contains, Option.isSome_eq_false_iff,
    Option.isNone_iff_eq_none] at drawn
  exact ⟨String.isEmpty_eq_false_iff.mp drawn.1, drawn.2⟩

/-- A request makes one step of the engine or leaves it alone. -/
theorem handle_step (origin : Origin) (request : Request) {e : Engine} (quiet : e.atAwait = true)
    (fresh : drawsFresh request e = true) :
    engineLabel loads request = none ∧ (handle p loads origin e request).1 = e ∨
      ∃ label emitted, engineLabel loads request = some label ∧
        (engineMachine p).step e label = some ((handle p loads origin e request).1, emitted) := by
  cases request with
  | submitBatch payload idempotencyKey newId =>
      obtain ⟨named, absent⟩ := fresh_of_drawn fresh
      exact Or.inr ⟨_, _, rfl, Endpoints.submitBatch_step quiet named absent payload⟩
  | uploadBatch raw priority idempotencyKey newId =>
      obtain ⟨named, absent⟩ := fresh_of_drawn fresh
      cases read : Endpoints.readUpload loads raw with
      | error raised =>
          left
          simp only [engineLabel, handle, Endpoints.uploadBatch, read, and_self]
      | ok prompts =>
          refine Or.inr ⟨.submit prompts priority idempotencyKey newId, _, ?_,
            Endpoints.uploadBatch_step quiet named absent read priority⟩
          simp only [engineLabel, read]
  | replayFailed jobId newId =>
      obtain ⟨named, absent⟩ := fresh_of_drawn fresh
      obtain ⟨emitted, stepped⟩ := replayFailed_step (p := p) (base origin) jobId newId
        (EngineAdmission.guard_of_fresh quiet named absent)
      exact Or.inr ⟨_, emitted, rfl, stepped⟩
  | cancelJob jobId =>
      obtain ⟨emitted, stepped⟩ := cancelJob_step (p := p) jobId quiet
      exact Or.inr ⟨_, emitted, rfl, stepped⟩
  | _ => exact Or.inl ⟨rfl, rfl⟩

/-- A step of the service is a step of its engine or leaves it alone. -/
theorem serviceMachine_step {s s' : State} {label : ServiceLabel} {emitted : List ServiceEvent}
    (stepped : (serviceMachine p loads apiKey).step s label = some (s', emitted)) :
    s'.engine = s.engine ∧ emitted.filterMap engineEvent = [] ∨
      ∃ label, (engineMachine p).step s.engine label =
        some (s'.engine, emitted.filterMap engineEvent) := by
  cases label with
  | engine label =>
      obtain ⟨⟨e', shown⟩, moved, same⟩ := Option.map_eq_some_iff.mp stepped
      obtain ⟨rfl, rfl⟩ := Prod.mk.inj same
      exact Or.inr ⟨label, by rw [filterMap_engine]; exact moved⟩
  | rotate key =>
      obtain ⟨rfl, rfl⟩ := Prod.mk.inj (Option.some.inj stepped)
      exact Or.inl ⟨rfl, rfl⟩
  | request origin request =>
      simp only [serviceMachine] at stepped
      split at stepped
      · rename_i admissible
        obtain ⟨quiet, fresh⟩ := (Bool.and_eq_true _ _).mp admissible
        have answered := Option.some.inj stepped
        unfold respond at answered
        split at answered
        · obtain ⟨rfl, rfl⟩ := Prod.mk.inj answered
          exact Or.inl ⟨rfl, rfl⟩
        · obtain ⟨rfl, rfl⟩ := Prod.mk.inj answered
          rw [List.filterMap_append, filterMap_engine]
          rcases handle_step origin request quiet fresh with
            ⟨reads, same⟩ | ⟨label, shown, writes, moved⟩
          · refine Or.inl ⟨same, ?_⟩
            rw [engineEvents, reads]
            rfl
          · refine Or.inr ⟨label, ?_⟩
            rw [engineEvents, writes, Option.bind_some, moved]
            simp [engineEvent]
      · cases stepped

/-- How a request is answered. -/
inductive Responds (p : Params) (loads : List UInt8 → Except LoadsError Json) (s s' : State)
    (origin : Origin) (request : Request) : List Event → Response → Prop
  | refused (guarded : request.guarded = true) (raised : Raised)
      (refusal : requireApiKey s.apiKey origin.xApiKey = some raised) (same : s' = s) :
      Responds p loads s s' origin request [] (.error raised)
  | served (letIn : request.guarded = true → requireApiKey s.apiKey origin.xApiKey = none)
      (key : s'.apiKey = s.apiKey) (response : Response)
      (handled : handle p loads origin s.engine request = (s'.engine, response)) :
      Responds p loads s s' origin request (engineEvents p loads s.engine request) response

/-- What a step of the service shows: events of the engine, and the response if it is the
step of a request. -/
theorem events_of_step {s s' : State} {label : ServiceLabel} {emitted : List ServiceEvent}
    (stepped : (serviceMachine p loads apiKey).step s label = some (s', emitted)) :
    (∃ events : List Event, emitted = events.map .engine) ∨
      ∃ events origin request response, label = .request origin request ∧
        emitted = events.map .engine ++ [.answered origin request response] ∧
        Responds p loads s s' origin request events response := by
  cases label with
  | engine label =>
      obtain ⟨⟨e', shown⟩, moved, same⟩ := Option.map_eq_some_iff.mp stepped
      obtain ⟨rfl, rfl⟩ := Prod.mk.inj same
      exact Or.inl ⟨shown, rfl⟩
  | rotate key =>
      obtain ⟨rfl, rfl⟩ := Prod.mk.inj (Option.some.inj stepped)
      exact Or.inl ⟨[], rfl⟩
  | request origin request =>
      right
      simp only [serviceMachine] at stepped
      split at stepped
      · have answered := Option.some.inj stepped
        unfold respond at answered
        split at answered
        · rename_i raised refusal
          obtain ⟨rfl, rfl⟩ := Prod.mk.inj answered
          have guarded : request.guarded = true := by
            by_contra open_
            rw [if_neg open_] at refusal
            cases refusal
          rw [if_pos guarded] at refusal
          exact ⟨[], origin, request, _, rfl, rfl, .refused guarded raised refusal rfl⟩
        · rename_i letIn
          obtain ⟨rfl, rfl⟩ := Prod.mk.inj answered
          refine ⟨_, origin, request, _, rfl, rfl, .served ?_ ?_ _ ?_⟩
          · intro guarded
            rwa [if_pos guarded] at letIn
          · rfl
          · rfl
      · cases stepped

/-- So whatever holds in every run of the engine holds behind the service. -/
theorem engine_of_run {ok : State → ServiceLabel → State → Prop} {s s' : State}
    {events : List ServiceEvent} (run : Machine.Run (serviceMachine p loads apiKey) ok s events s') :
    Machine.Run (engineMachine p) Machine.anyStep s.engine (events.filterMap engineEvent)
      s'.engine :=
  run.refines State.engine engineEvent (fun _ stepped => serviceMachine_step stepped)

end Service
end BatchInference
