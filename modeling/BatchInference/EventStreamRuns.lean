/-
What a client reads from the event stream of a job.

The counters of a job only grow and its end is for good, so the generator may read
the live job as late as it likes; but the snapshot of the final event was taken
before the last progress event was sent, and the job may have ended since.
-/

import BatchInference.EventStream
import BatchInference.EngineCompletion

set_option autoImplicit false

namespace BatchInference
namespace EventStream

open Engine EngineItems EngineFate EngineCompletion

/-! ### What is promised -/

/-- A final event that tells the truth about the job. -/
structure Final (job : Job) (last : SseEvent) : Prop where
  ended : isOpen job.state = false
  named : last.event = "job_" ++ job.state.value
  state : last.data.state = job.state
  finishedAt : last.data.finishedAt ≠ none
  complete : job.state = .completed →
    last.data.completed = last.data.total ∧
      last.data.succeeded + last.data.failed = last.data.total

/-- Progress events with growing counters. -/
structure Rising (progress : List SseEvent) : Prop where
  named : ∀ sent ∈ progress, sent.event = "progress"
  rising : progress.Pairwise (fun earlier later => earlier.data.completed < later.data.completed)

/-- Nothing after the progress events as long as the stream goes on, and the final
event once it is over. -/
inductive Closing (job : Job) : Stage → List SseEvent → Prop where
  | open_ (stage : Stage) (goesOn : stage.ended = false) : Closing job stage []
  | closed (stage : Stage) (ends : stage.ended = true) (last : SseEvent) (final : Final job last) :
      Closing job stage [last]

/-- One `job_started`, the progress events and the end. -/
inductive Transcript (job : Job) : Stage → List SseEvent → Prop where
  | nothing : Transcript job .created []
  | begun (stage : Stage) (first : SseEvent) (progress closing : List SseEvent)
      (named : first.event = "job_started") (rising : Rising progress)
      (closes : Closing job stage closing) :
      Transcript job stage (first :: (progress ++ closing))

/-- The job ends while the generator is suspended at a progress event. -/
def EndsWhileSending (jobId : JobId) (s s' : Engine × Stage) : Prop :=
  ∃ sent job job', s.2 = .progressed sent ∧ s.1.store.get jobId = some job ∧
    s'.1.store.get jobId = some job' ∧ isOpen job.state = true ∧ isOpen job'.state = false

/-- A final event with a snapshot of the job in another state. -/
def Misreports (job : Job) (emitted : List SseEvent) : Prop :=
  ∃ last, emitted = [last] ∧ last.event = "job_" ++ job.state.value ∧ last.data.state ≠ job.state

/-! ### Snapshots of a job -/

/-- What an older snapshot says about the job as it is now. -/
structure View (job : Job) (sent : Snapshot) : Prop where
  running : isOpen job.state = true → isOpen sent.state = true
  ended : isOpen job.state = false → Final job
    { event := "job_" ++ job.state.value
      data := sent }

theorem view_snapshot {p : Params} {ok : Engine → Label → Engine → Prop} {events : List Event}
    {e : Engine} (run : (engineMachine p).Reaches ok events e) {jobId : JobId} {job : Job}
    (found : e.store.get jobId = some job) : View job (snap jobId e job) := by
  constructor
  · exact id
  · intro ended
    have fate := (reachable_fates run).known jobId job found
    obtain ⟨_, _, account⟩ := (reachable_ledger False
      (fun _ _ _ _ impossible => impossible.elim) run).known jobId job found
    constructor
    · exact ended
    · rfl
    · rfl
    · intro none
      have running := fate.ended.mp none
      rw [running] at ended
      cases ended
    · intro completed
      have enough := reachable_finished run found completed
      have atMost := account.completed_le
      have counted := account.counted.completed
      change job.completed = job.total ∧ job.succeeded + job.failed = job.total
      omega

/-- The final event stays true, since the job stays as it ended. -/
theorem Final.lasts {job job' : Job} {last : SseEvent} (final : Final job last)
    (lasts : Lasting job job') : Final job' last := by
  have same := lasts.state final.ended
  constructor
  · rw [same]
    exact final.ended
  · rw [same]
    exact final.named
  · rw [same]
    exact final.state
  · exact final.finishedAt
  · rw [same]
    exact final.complete

theorem isOpen_of_lasting {job job' : Job} (lasts : Lasting job job')
    (unfinished : isOpen job'.state = true) : isOpen job.state = true := by
  by_contra ended
  rw [Bool.not_eq_true] at ended
  rw [lasts.state ended, ended] at unfinished
  cases unfinished

/-- An older snapshot stays a view of the job unless the job ends meanwhile. -/
theorem View.lasts {job job' : Job} {sent : Snapshot} (view : View job sent)
    (lasts : Lasting job job')
    (undisturbed : ¬(isOpen job.state = true ∧ isOpen job'.state = false)) : View job' sent := by
  constructor
  · intro unfinished
    exact view.running (isOpen_of_lasting lasts unfinished)
  · intro ended'
    have ended : isOpen job.state = false := by
      by_contra unfinished
      rw [Bool.not_eq_false] at unfinished
      exact undisturbed ⟨unfinished, ended'⟩
    have final := (view.ended ended).lasts lasts
    rw [lasts.state ended]
    exact final

theorem completed_le_of_step {e : Engine} {label : Label} {emitted : List Event} {jobId : JobId}
    {job job' : Job} (change : JobStep e label emitted jobId job job') :
    job.completed ≤ job'.completed := by
  cases change with
  | advanced seq result cost silent answered =>
      rw [(advance_fields seq result cost e.wallTime job).2.1]
      exact Nat.le_succ job.completed
  | _ => exact le_refl _

/-! ### The stages of the generator -/

/-- What has been sent when the generator is suspended at this stage. -/
inductive Streaming (job : Job) : Stage → List SseEvent → Prop where
  | created : Streaming job .created []
  | started (first : SseEvent) (named : first.event = "job_started") :
      Streaming job .started [first]
  | idle (stage : Stage) (last : Int) (first : SseEvent) (progress : List SseEvent)
      (at_ : stage = .checking last ∨ stage = .sleeping last)
      (named : first.event = "job_started") (rising : Rising progress)
      (below : ∀ sent ∈ progress, (sent.data.completed : Int) ≤ last)
      (known : last ≤ job.completed) : Streaming job stage (first :: progress)
  | progressed (sent : Snapshot) (first : SseEvent) (progress : List SseEvent)
      (named : first.event = "job_started") (rising : Rising progress)
      (below : ∀ earlier ∈ progress, earlier.data.completed ≤ sent.completed)
      (known : sent.completed ≤ job.completed) (view : View job sent) :
      Streaming job (.progressed sent) (first :: progress)
  | finished (stage : Stage) (first last : SseEvent) (progress : List SseEvent)
      (ends : stage.ended = true) (named : first.event = "job_started") (rising : Rising progress)
      (final : Final job last) : Streaming job stage (first :: (progress ++ [last]))

theorem Streaming.transcript {job : Job} {stage : Stage} {sent : List SseEvent}
    (streaming : Streaming job stage sent) : Transcript job stage sent := by
  have going : ∀ stage first progress, stage.ended = false → first.event = "job_started" →
      Rising progress → Transcript job stage (first :: progress) := by
    intro stage first progress goesOn named rising
    have whole : Transcript job stage (first :: (progress ++ [])) :=
      .begun stage first progress [] named rising (.open_ stage goesOn)
    rw [List.append_nil] at whole
    exact whole
  cases streaming with
  | created => exact .nothing
  | started first named =>
      exact going .started first [] rfl named ⟨fun _ impossible => (by cases impossible), .nil⟩
  | idle stage last first progress at_ named rising below known =>
      refine going stage first progress ?_ named rising
      rcases at_ with rfl | rfl
      · rfl
      · rfl
  | progressed sent first progress named rising below known view =>
      exact going _ first progress rfl named rising
  | finished stage first last progress ends named rising final =>
      exact .begun stage first progress [last] named rising (.closed stage ends last final)

theorem Streaming.engine {job job' : Job} {stage : Stage} {sent : List SseEvent}
    (streaming : Streaming job stage sent) (lasts : Lasting job job')
    (grows : job.completed ≤ job'.completed)
    (undisturbed : ∀ snap, stage = .progressed snap →
      ¬(isOpen job.state = true ∧ isOpen job'.state = false)) :
    Streaming job' stage sent := by
  cases streaming with
  | created => exact .created
  | started first named => exact .started first named
  | idle stage last first progress at_ named rising below known =>
      exact .idle stage last first progress at_ named rising below (by omega)
  | progressed sent first progress named rising below known view =>
      exact .progressed sent first progress named rising below (known.trans grows)
        (view.lasts lasts (undisturbed sent rfl))
  | finished stage first last progress ends named rising final =>
      exact .finished stage first last progress ends named rising (final.lasts lasts)

/-- The end of a turn of the loop: the final event, or a sleep. -/
theorem streaming_conclude {job : Job} {last : Int} {sent : Snapshot} {first : SseEvent}
    {progress : List SseEvent} (view : View job sent) (named : first.event = "job_started")
    (rising : Rising progress) (below : ∀ earlier ∈ progress, (earlier.data.completed : Int) ≤ last)
    (known : last ≤ job.completed) :
    Streaming job (conclude job last sent).1
      (first :: (progress ++ (conclude job last sent).2)) := by
  unfold conclude
  rw [terminal_contains]
  cases unfinished : isOpen job.state with
  | true =>
      change Streaming job (.sleeping last) (first :: (progress ++ []))
      rw [List.append_nil]
      exact .idle _ last first progress (Or.inr rfl) named rising below known
  | false => exact .finished .ending first _ progress rfl named rising (view.ended unfinished)

/-- A turn of the loop sends progress exactly if there is some. -/
theorem streaming_look {job : Job} {last : Int} {sent : Snapshot} {first : SseEvent}
    {progress : List SseEvent} (fresh : sent.completed = job.completed) (view : View job sent)
    (named : first.event = "job_started") (rising : Rising progress)
    (below : ∀ earlier ∈ progress, (earlier.data.completed : Int) ≤ last)
    (known : last ≤ job.completed) :
    Streaming job (look job last sent).1 (first :: (progress ++ (look job last sent).2)) := by
  unfold look
  by_cases more : (job.completed : Int) ≠ last
  · rw [if_pos more]
    have growing : ∀ earlier ∈ progress, earlier.data.completed < sent.completed := by
      intro earlier member
      have bound := below earlier member
      omega
    refine .progressed sent first _ named ?_ ?_ fresh.le view
    · constructor
      · intro event member
        rcases List.mem_append.mp member with old | new
        · exact rising.named event old
        · rw [List.mem_singleton] at new
          rw [new]
      · rw [List.pairwise_append]
        refine ⟨rising.rising, List.pairwise_singleton _ _, ?_⟩
        intro earlier old later new
        rw [List.mem_singleton] at new
        rw [new]
        exact growing earlier old
    · intro earlier member
      rcases List.mem_append.mp member with old | new
      · exact (growing earlier old).le
      · rw [List.mem_singleton] at new
        rw [new]
  · rw [if_neg more]
    exact streaming_conclude view named rising below known

/-- The generator runs from one suspension point to the next. -/
theorem Streaming.resume {e : Engine} {jobId : JobId} {job : Job} {stage stage' : Stage}
    {sent emitted : List SseEvent} (streaming : Streaming job stage sent)
    (found : e.store.get jobId = some job) (fresh : View job (snap jobId e job))
    (resumed : EventStream.resume jobId e stage = some (stage', emitted)) :
    Streaming job stage' (sent ++ emitted) := by
  cases streaming with
  | created =>
      simp only [EventStream.resume, found, Option.map_some, Option.some.injEq,
        Prod.mk.injEq] at resumed
      obtain ⟨rfl, rfl⟩ := resumed
      exact .started _ rfl
  | started first named =>
      simp only [EventStream.resume, Option.some.injEq, Prod.mk.injEq] at resumed
      obtain ⟨rfl, rfl⟩ := resumed
      exact .idle _ (-1) first [] (Or.inl rfl) named
        ⟨fun _ impossible => (by cases impossible), .nil⟩
        (fun _ impossible => (by cases impossible)) (by omega)
  | idle stage last first progress at_ named rising below known =>
      rcases at_ with rfl | rfl
      · simp only [EventStream.resume, found, Option.map_some, Option.some.injEq] at resumed
        have turn := streaming_look rfl fresh named rising below known
        rw [resumed] at turn
        exact turn
      · simp only [EventStream.resume, Option.some.injEq, Prod.mk.injEq] at resumed
        obtain ⟨rfl, rfl⟩ := resumed
        rw [List.append_nil]
        exact .idle _ last first progress (Or.inl rfl) named rising below known
  | progressed snapshot first progress named rising below known view =>
      simp only [EventStream.resume, found, Option.map_some, Option.some.injEq] at resumed
      -- The counter is read again, so it covers what was sent.
      have turn := streaming_conclude view named rising
        (fun earlier member =>
          Int.ofNat_le.mpr ((below earlier member).trans known)) (le_refl (job.completed : Int))
      rw [resumed] at turn
      exact turn
  | finished stage first last progress ends named rising final =>
      cases stage with
      | ending =>
          simp only [EventStream.resume, Option.some.injEq, Prod.mk.injEq] at resumed
          obtain ⟨rfl, rfl⟩ := resumed
          rw [List.append_nil]
          exact .finished .returned first last progress rfl named rising final
      | returned => cases resumed
      | _ => cases ends

/-! ### Runs of engine and generator -/

def EngineOnly : StreamLabel → Prop
  | .engine _ => True
  | .resume => False

variable {p : Params} {jobId : JobId} {opened : Engine}

/-- The generator has been fed by an engine in a reachable state. -/
structure Fed (p : Params) (jobId : JobId) (s : Engine × Stage) (sent : List SseEvent) : Prop where
  reached : ∃ events, (engineMachine p).Reaches Machine.anyStep events s.1
  streaming : ∃ job, s.1.store.get jobId = some job ∧ Streaming job s.2 sent

theorem Fed.next {s s' : Engine × Stage} {label : StreamLabel} {sent emitted : List SseEvent}
    (fed : Fed p jobId s sent) (undisturbed : ¬EndsWhileSending jobId s s')
    (stepped : (streamMachine p jobId opened).step s label = some (s', emitted)) :
    Fed p jobId s' (sent ++ emitted) := by
  obtain ⟨events, run⟩ := fed.reached
  obtain ⟨job, found, streaming⟩ := fed.streaming
  rcases stream_step stepped with ⟨engineLabel, shown, _, moved, stage, rfl⟩ |
    ⟨_, same, resumed⟩
  · obtain ⟨job', found', change⟩ := (step_cases moved).job_stays found
    refine ⟨⟨_, Machine.Run.snoc run engineLabel trivial moved⟩, job', found', ?_⟩
    rw [stage, List.append_nil]
    refine streaming.engine (lasting_of_step change) (completed_le_of_step change) ?_
    rintro snapshot at_ ⟨unfinished, ended⟩
    exact undisturbed ⟨snapshot, job, job', at_, found, found', unfinished, ended⟩
  · constructor
    · rw [same]
      exact ⟨events, run⟩
    · rw [same]
      exact ⟨job, found, streaming.resume found (view_snapshot run found) resumed⟩

/-- While the engine alone goes on, an ended job stays ended and the generator where
it is. -/
theorem ended_stays {s s' : Engine × Stage} {later : List SseEvent} {job : Job}
    (found : s.1.store.get jobId = some job) (ended : isOpen job.state = false)
    (run : Machine.Run (streamMachine p jobId opened) (Machine.onLabels EngineOnly) s later s') :
    s'.2 = s.2 ∧ ∃ job', s'.1.store.get jobId = some job' ∧ isOpen job'.state = false := by
  refine Machine.Run.invariant run (fun _ s' => s'.2 = s.2 ∧
    ∃ job', s'.1.store.get jobId = some job' ∧ isOpen job'.state = false)
    ⟨rfl, job, found, ended⟩ ?_
  rintro _ _ middle last label ⟨stage, job', found', ended'⟩ only stepped
  rcases stream_step stepped with ⟨_, _, _, moved, same, _⟩ | ⟨rfl, _, _⟩
  · obtain ⟨job'', found'', change⟩ := (step_cases moved).job_stays found'
    refine ⟨same.trans stage, job'', found'', ?_⟩
    rw [(lasting_of_step change).state ended']
    exact ended'
  · exact only.elim

/-- A job that ends while a progress event is being sent is misreported. -/
theorem misreported {s s' s'' last : Engine × Stage} {label : StreamLabel}
    {sent emitted emitted' later : List SseEvent} (fed : Fed p jobId s sent)
    (ending : EndsWhileSending jobId s s')
    (stepped : (streamMachine p jobId opened).step s label = some (s', emitted))
    (run : Machine.Run (streamMachine p jobId opened) (Machine.onLabels EngineOnly) s' later s'')
    (resumed : (streamMachine p jobId opened).step s'' .resume = some (last, emitted')) :
    ∃ job, last.1.store.get jobId = some job ∧ Misreports job emitted' := by
  obtain ⟨snapshot, job, job', at_, found, found', unfinished, ended⟩ := ending
  have running : isOpen snapshot.state = true := by
    obtain ⟨known, same, streaming⟩ := fed.streaming
    rw [found, Option.some.injEq] at same
    subst same
    rw [at_] at streaming
    cases streaming with
    | idle _ _ _ _ impossible => simp at impossible
    | progressed _ _ _ _ _ _ _ view => exact view.running unfinished
    | finished _ _ _ _ ends => cases ends
  have sameStage : s'.2 = .progressed snapshot := by
    rcases stream_step stepped with ⟨_, _, _, _, stage, _⟩ | ⟨_, same, _⟩
    · exact stage.trans at_
    · -- The generator does not end the job.
      rw [same, found, Option.some.injEq] at found'
      rw [found', ended] at unfinished
      cases unfinished
  obtain ⟨stage, job'', found'', ended''⟩ := ended_stays found' ended run
  rcases stream_step resumed with ⟨_, _, impossible, _⟩ | ⟨_, same, concluded⟩
  · cases impossible
  · rw [stage, sameStage] at concluded
    simp only [EventStream.resume, found'', Option.map_some, Option.some.injEq, conclude,
      terminal_contains, ended'', Bool.not_false, if_true, Prod.mk.injEq] at concluded
    refine ⟨job'', by rw [same]; exact found'', _, concluded.2.symm, rfl, ?_⟩
    intro equal
    change snapshot.state = job''.state at equal
    rw [equal, ended''] at running
    cases running

def onePrompt : List Label := [.submit [{ id := none, prompt := "x" }] .normal none "a"]

/-- The only worker answers the prompt and ends. -/
def answered : List StreamLabel :=
  [.start, .enter, .take, .gate, .reply (.returned "y") 0, .leave, .enter, .take, .leave].map
    (fun action => .engine (.work 0 action))

/-- The client reads the first progress event before the prompt is answered. -/
def unhurried : List StreamLabel :=
  [.resume, .resume, .resume, .resume] ++ answered ++ [.resume, .resume, .resume]

/-- The prompt is answered while the first progress event is being sent. -/
def hurried : List StreamLabel := [.resume, .resume, .resume] ++ answered ++ [.resume]

def names (sent : List SseEvent) : List String := sent.map SseEvent.event

def endsWhileSending (jobId : JobId) (s s' : Engine × Stage) : Bool :=
  match s.2 with
  | .progressed _ =>
      (s.1.store.get jobId).any (fun job => isOpen job.state) &&
        (s'.1.store.get jobId).any (fun job => !isOpen job.state)
  | _ => false

theorem endsWhileSending_of_check {s s' : Engine × Stage}
    (checked : (!endsWhileSending jobId s s') = true) : ¬EndsWhileSending jobId s s' := by
  rintro ⟨snapshot, job, job', at_, found, found', unfinished, ended⟩
  simp only [endsWhileSending, at_, found, found', Option.any_some, unfinished, ended] at checked
  cases checked

def toldTheTruth (outcome : List SseEvent × (Engine × Stage)) : Bool :=
  outcome.2.2.ended && names outcome.1 == ["job_started", "progress", "progress", "job_completed"]

def reportsRunning (outcome : List SseEvent × (Engine × Stage)) : Bool :=
  outcome.2.2.ended &&
    (outcome.2.1.store.get "a").any (fun job => job.state == .completed) &&
    outcome.1.getLast?.any (fun last => last.event == "job_completed" &&
      last.data.state == .running && last.data.finishedAt == none &&
      last.data.completed == 0 && last.data.total == 1)

end EventStream
end BatchInference
