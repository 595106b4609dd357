/-
Reading long listings page by page.

A client that pages through results, dead letters or jobs sees each page at another
moment. Results arrive out of order and new jobs come first, so items move between the
pages; but they only move on, and a client that reads to the end has seen everything
that was there when it began. For a completed job the pages are its results.
-/

import BatchInference.ServiceReads

set_option autoImplicit false

namespace BatchInference
namespace Service

open Engine EngineItems EngineGrowth EngineCompletion EngineFate

variable {p : Params} {events later : List Event} {e e' : Engine} {jobId : JobId}

/-! ### Pages of a client -/

/-- The window of the page after this one. -/
def Window.next {most : Nat} (window : Window most) : Window most :=
  { window with offset := window.offset + window.limit }

/-- All that a client reads that asks for one page in each of these states. -/
def readPages {Item : Type} {most : Nat} (page : Window most → Engine → List Item) :
    Window most → List Engine → List Item
  | _, [] => []
  | window, e :: later => page window e ++ readPages page window.next later

theorem readPages_eq {Item : Type} {most : Nat} (listing : Engine → List Item)
    (window : Window most) (states : List Engine) :
    readPages (fun window e => window.of (listing e)) window states =
      Pages.read window.limit window.offset (states.map listing) := by
  induction states generalizing window with
  | nil => rfl
  | cons e later ih =>
      rw [readPages, ih]
      rfl

/-- The engine goes on from each state to the next. -/
def Onwards (p : Params) (states : List Engine) : Prop :=
  states.IsChain (fun e e' => ∃ later, Machine.Run (engineMachine p) Machine.anyStep e later e')

/-- Where a listing only grows, a client that reads to its end has missed nothing. -/
theorem readPages_complete {Item : Type} {most : Nat} (listing : Engine → List Item)
    (grows : ∀ {events later : List Event} {e e' : Engine},
      (engineMachine p).Reaches Machine.anyStep events e →
        Machine.Run (engineMachine p) Machine.anyStep e later e' →
          (listing e).Sublist (listing e'))
    (run : (engineMachine p).Reaches Machine.anyStep events e) {states : List Engine}
    (onwards : Onwards p (e :: states)) (window : Window most) (begins : window.offset = 0)
    (ends : (listing ((e :: states).getLast (List.cons_ne_nil _ _))).length ≤
      (states.length + 1) * window.limit) :
    (listing e).Sublist
      (readPages (fun window e => window.of (listing e)) window (e :: states)) := by
  have chain : ((e :: states).map listing).IsChain List.Sublist := by
    clear ends
    induction states generalizing e events with
    | nil => exact List.isChain_singleton _
    | cons next states ih =>
        obtain ⟨⟨later, step⟩, rest⟩ := List.isChain_cons_cons.mp onwards
        exact List.isChain_cons_cons.mpr ⟨grows run step, ih (run.trans step) rest⟩
  rw [readPages_eq, begins]
  refine Pages.sublist_read chain ?_
  have last : ((listing e :: states.map listing).getLast (List.cons_ne_nil _ _)) =
      listing ((e :: states).getLast (List.cons_ne_nil _ _)) := by
    rw [← List.getLast_map (f := listing)]
    rfl
  rw [last, List.length_map]
  exact ends

/-! ### Results and dead letters -/

/-- What the results endpoint lists of a job. -/
def resultsOf (jobId : JobId) (e : Engine) : List InferenceResult :=
  ((e.store.get jobId).map Job.orderedResults).getD []

def lettersOf (jobId : JobId) (e : Engine) : List InferenceResult :=
  ((e.store.get jobId).map Job.deadLetter).getD []

def resultsPage (jobId : JobId) (window : Window 1000) (e : Engine) : List InferenceResult :=
  match jobResults jobId window e with
  | .ok response => response.results
  | .error _ => []

def lettersPage (jobId : JobId) (window : Window 1000) (e : Engine) : List InferenceResult :=
  match jobDeadLetter jobId window e with
  | .ok response => response.items
  | .error _ => []

theorem of_nil {Item : Type} {most : Nat} (window : Window most) :
    window.of ([] : List Item) = [] := by
  simp [Window.of, Pages.page]

theorem resultsPage_eq (jobId : JobId) :
    resultsPage jobId = fun window e => window.of (resultsOf jobId e) := by
  funext window e
  unfold resultsPage jobResults resultsOf
  cases e.store.get jobId with
  | none => exact (of_nil window).symm
  | some job => rfl

theorem lettersPage_eq (jobId : JobId) :
    lettersPage jobId = fun window e => window.of (lettersOf jobId e) := by
  funext window e
  unfold lettersPage jobDeadLetter lettersOf
  cases e.store.get jobId with
  | none => exact (of_nil window).symm
  | some job => rfl

theorem resultsOf_grows (jobId : JobId) (run : (engineMachine p).Reaches Machine.anyStep events e)
    (step : Machine.Run (engineMachine p) Machine.anyStep e later e') :
    (resultsOf jobId e).Sublist (resultsOf jobId e') := by
  unfold resultsOf
  cases present : e.store.get jobId with
  | none => exact List.nil_sublist _
  | some job =>
      obtain ⟨job', present', grows⟩ := grows_of_run run step present
      rw [present']
      exact grows.orderedResults

theorem lettersOf_grows (jobId : JobId) (run : (engineMachine p).Reaches Machine.anyStep events e)
    (step : Machine.Run (engineMachine p) Machine.anyStep e later e') :
    (lettersOf jobId e).Sublist (lettersOf jobId e') := by
  unfold lettersOf
  cases present : e.store.get jobId with
  | none => exact List.nil_sublist _
  | some job =>
      obtain ⟨job', present', grows⟩ := grows_of_run run step present
      rw [present']
      exact grows.deadLetter

/-! ### Jobs -/

/-- The identities that the listing of jobs shows. -/
def idsOf (state : Option String) (e : Engine) : List JobId := (listed state e).map Job.id

def idsPage (state : Option String) (window : Window 500) (e : Engine) : List JobId :=
  (listJobs state window e).jobs.map JobSummary.jobId

theorem idsPage_eq (state : Option String) :
    idsPage state = fun window e => window.of (idsOf state e) := by
  funext window e
  unfold idsPage listJobs idsOf Window.of Pages.page
  rw [List.map_map, ← List.map_drop, ← List.map_take]
  rfl

/-- What the order of the listing looks at. -/
def stamp (job : Job) : JobId × ℚ := (job.id, job.createdAt)

def Newer (stamp stamp' : JobId × ℚ) : Prop := stamp'.2 ≤ stamp.2

instance : DecidableRel Newer := fun stamp stamp' => inferInstanceAs (Decidable (stamp'.2 ≤ stamp.2))

instance : Std.Total Newer := ⟨fun stamp stamp' => le_total stamp'.2 stamp.2⟩

instance : IsTrans (JobId × ℚ) Newer := ⟨fun _ _ _ first second => le_trans second first⟩

theorem stamps_newestFirst (jobs : List Job) :
    (newestFirst jobs).map stamp = (jobs.map stamp).insertionSort Newer :=
  List.map_insertionSort _ _ stamp jobs (fun _ _ _ _ => Iff.rfl)

/-- Jobs keep their identity and their time, and new ones come last in the store. -/
theorem stamps_grow (run : (engineMachine p).Reaches Machine.anyStep events e)
    (step : Machine.Run (engineMachine p) Machine.anyStep e later e') :
    (e.store.all.map stamp).Sublist (e'.store.all.map stamp) := by
  obtain ⟨added, keys⟩ := keys_of_run step
  unfold InMemoryJobStore.all
  rw [← e.store.jobs.filterMap_get?_keys, ← e'.store.jobs.filterMap_get?_keys, ← keys,
    List.map_filterMap, List.map_filterMap, List.filterMap_append]
  have same : e.store.jobs.keys.filterMap (fun jobId => (e.store.jobs.get? jobId).map stamp) =
      e.store.jobs.keys.filterMap (fun jobId => (e'.store.jobs.get? jobId).map stamp) := by
    apply List.filterMap_congr
    intro jobId listed
    obtain ⟨job, present⟩ := (e.store.jobs.mem_keys_iff jobId).mp listed
    obtain ⟨job', present', grows⟩ := grows_of_run run step present
    have read' : e'.store.jobs.get? jobId = some job' := present'
    have sameId : job'.id = job.id := congrArg (fun given => given.1) grows.request
    rw [present, read', Option.map_some, Option.map_some, stamp, stamp, sameId, grows.createdAt]
  rw [same]
  exact List.sublist_append_left _ _

theorem newest_grow (run : (engineMachine p).Reaches Machine.anyStep events e)
    (step : Machine.Run (engineMachine p) Machine.anyStep e later e') :
    ((newestFirst e.store.all).map Job.id).Sublist ((newestFirst e'.store.all).map Job.id) := by
  have sorted := Pages.insertionSort_sublist Newer (stamps_grow run step)
  rw [← stamps_newestFirst, ← stamps_newestFirst] at sorted
  have ids := sorted.map Prod.fst
  rw [List.map_map, List.map_map] at ids
  exact ids

/-- Jobs are not taken off this listing: it has no filter, or asks for ended jobs. -/
def Lasts (state : Option String) : Prop :=
  ∀ text, truthy state = some text → ∀ jobState : JobState, jobState.value = text →
    isOpen jobState = false

/-- The job is shown by the filter. -/
def shownBy (text : String) (e : Engine) (jobId : JobId) : Bool :=
  (e.store.get jobId).any (fun job => job.state.value == text)

theorem filter_newest (kept : Kept e) (text : String) :
    ((newestFirst e.store.all).filter (fun job => job.state.value == text)).map Job.id =
      ((newestFirst e.store.all).map Job.id).filter (shownBy text e) := by
  rw [List.filter_map]
  congr 1
  apply List.filter_congr
  intro job member
  have stored := (List.mem_insertionSort _).mp member
  obtain ⟨jobId, present⟩ := (e.store.jobs.mem_values_iff job).mp stored
  have named := kept.named jobId job present
  subst named
  simp only [shownBy, Function.comp_apply]
  rw [show e.store.get job.id = some job from present, Option.any_some]

theorem idsOf_grows {state : Option String} (lasts : Lasts state)
    (run : (engineMachine p).Reaches Machine.anyStep events e)
    (step : Machine.Run (engineMachine p) Machine.anyStep e later e') :
    (idsOf state e).Sublist (idsOf state e') := by
  unfold idsOf listed
  cases filtered : truthy state with
  | none => exact newest_grow run step
  | some text =>
      simp only
      rw [filter_newest (reachable_kept run), filter_newest (reachable_kept (run.trans step))]
      refine ((newest_grow run step).filter _).trans (List.monotone_filter_right _ ?_)
      intro jobId shown
      obtain ⟨job, present, same⟩ := (Option.any_eq_true _ _).mp shown
      obtain ⟨job', present', grows⟩ := grows_of_run run step present
      have closed := lasts text filtered job.state (beq_iff_eq.mp same)
      rw [shownBy, present', Option.any_some, grows.lasting.state closed]
      exact same

/-- The worker goes on to the second prompt, which is refused. -/
def secondAnswer : List Label :=
  [.work 0 .leave, .work 0 .enter, .work 0 .take, .work 0 .gate,
    .work 0 (.reply (.raised "no") 0)]

def onePerPage : Window 1000 :=
  { limit := 1
    offset := 0
    positive := le_refl 1
    bounded := by decide }

/-- The request reads one job. -/
def Request.reads (jobId : JobId) : Request → Prop
  | .jobStatus asked => asked = jobId
  | .jobResults asked _ => asked = jobId
  | .jobDeadLetter asked _ => asked = jobId
  | _ => False

/-- Of a completed job nothing is waiting, and its end is fixed. -/
theorem status_of_completed (run : (engineMachine p).Reaches Machine.anyStep events e) {job : Job}
    (present : e.store.get jobId = some job) (completed : job.state = .completed) :
    status job e = job.snapshot 0 0 := by
  have named := (reachable_kept run).named jobId job present
  obtain ⟨_, _, account⟩ := (reachable_ledger False
    (fun _ _ _ _ impossible => impossible.elim) run).known jobId job present
  have idle := (free_of_complete account (reachable_finished run present completed)).1
  have none : e.scheduler.jobPending job.id = 0 := by
    rw [named]
    exact List.length_eq_zero_iff.mpr ((Multiset.coe_eq_zero _).mp idle)
  have fate := (reachable_fates run).known jobId job present
  obtain ⟨ended, finished⟩ := Option.ne_none_iff_exists'.mp (fun unfinished => by
    rw [fate.ended.mp unfinished] at completed
    cases completed)
  unfold status Job.snapshot
  rw [none, finished]
  rfl

/-- Once a job is completed, its status, its results and its dead letter are read the same
for ever, whatever the engine does. -/
theorem completed_reads_final (p : Params) (loads : List UInt8 → Except LoadsError Json)
    {events later : List Event} {e e' : Engine}
    (run : (engineMachine p).Reaches Machine.anyStep events e)
    (rest : Machine.Run (engineMachine p) Machine.anyStep e later e') {jobId : JobId} {job : Job}
    (present : e.store.get jobId = some job) (completed : job.state = .completed)
    (origin origin' : Origin) (request : Request) (reads : request.reads jobId) :
    handle p loads origin' e' request = (e', (handle p loads origin e request).2) := by
  have present' := final_of_completed run rest present completed
  cases request with
  | jobStatus asked =>
      cases reads
      simp only [handle, jobStatus, present, present',
        status_of_completed run present completed,
        status_of_completed (run.trans rest) present' completed]
  | jobResults asked window =>
      cases reads
      simp only [handle, jobResults, present, present']
  | jobDeadLetter asked window =>
      cases reads
      simp only [handle, jobDeadLetter, present, present']
  | _ => exact reads.elim

def another : List Label := [.submit [{ id := none, prompt := "more" }] .high none "b"]

def twoJobs (outcome : List Event × Engine) : Bool := decide (outcome.2.store.jobs.size = 2)

def completedAlone (outcome : List Event × Engine) : Bool :=
  (outcome.2.store.get "a").any (fun job => job.state == .completed) &&
    (Machine.exec (engineMachine singleWorker) (fun _ _ _ => true) outcome.2 another).any twoJobs

/-- Another job comes after the first one was completed. -/
theorem completed_reads_final_next :
    ∃ events e later e', (engineMachine singleWorker).Reaches Machine.anyStep events e ∧
      Machine.Run (engineMachine singleWorker) Machine.anyStep e later e' ∧
      (e.store.get "a").any (fun job => job.state == .completed) = true ∧
      e'.store.jobs.size = 2 ∧ handle singleWorker noUpload proxied e' (.jobStatus "a") =
        (e', (handle singleWorker noUpload proxied e (.jobStatus "a")).2) := by
  obtain ⟨events, e, run, tested⟩ := Machine.exists_anyRun_of_exec
    (engineMachine singleWorker) (engineMachine singleWorker).initial allDone completedAlone
    (by decide +kernel)
  obtain ⟨finished, continued⟩ := (Bool.and_eq_true _ _).mp tested
  obtain ⟨later, e', rest, two⟩ := Machine.exists_anyRun_of_exec (engineMachine singleWorker) e
    another twoJobs continued
  obtain ⟨job, present, completed⟩ := (Option.any_eq_true _ _).mp finished
  exact ⟨events, e, later, e', run, rest, finished, of_decide_eq_true two,
    completed_reads_final singleWorker noUpload run rest present (beq_iff_eq.mp completed) proxied
      proxied (.jobStatus "a") rfl⟩

end Service
end BatchInference
