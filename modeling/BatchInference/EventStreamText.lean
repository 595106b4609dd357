/-
The text of an event stream: `job_events.stream.sse` of app/main.py.

Every event is two lines and a blank one, and the snapshot is written as JSON on one
line, whatever the identity of the job contains. The text of floats is a parameter that
is assumed to be injective, as `float.__repr__` is.
-/

import BatchInference.EventStreamRuns
import BatchInference.Lib.JsonText

set_option autoImplicit false

namespace BatchInference
namespace EventStreamText

open Engine EventStream
open JsonText

/-! ### The text of an event -/

def integer (n : Int) : Value := .number (Number.int n)

def optional (float : ℚ → Number) (x : Option ℚ) : Value :=
  x.elim .null (fun x => .number (float x))

def costValue (float : ℚ → Number) (cost : CostSummary) : Value :=
  .object
    [("input_tokens", integer cost.inputTokens),
      ("output_tokens", integer cost.outputTokens),
      ("total_tokens", integer cost.totalTokens),
      ("estimated_cost_usd", .number (float cost.estimatedCostUsd))]

/-- The dict of `Job.snapshot`, in its order. -/
def snapshotValue (float : ℚ → Number) (snap : Snapshot) : Value :=
  .object
    [("job_id", .string snap.jobId),
      ("state", .string snap.state.value),
      ("priority", .string snap.priority.value),
      ("total", integer snap.total),
      ("completed", integer snap.completed),
      ("succeeded", integer snap.succeeded),
      ("failed", integer snap.failed),
      ("pending", integer snap.pending),
      ("retries", integer snap.retries),
      ("progress", .string snap.progress),
      ("percent", .number (float snap.percent)),
      ("cost", costValue float snap.cost),
      ("created_at", .number (float snap.createdAt)),
      ("started_at", optional float snap.startedAt),
      ("finished_at", optional float snap.finishedAt),
      ("duration_seconds", optional float snap.durationSeconds)]

/-- `sse(event, data)`. -/
def sse (float : ℚ → Number) (sent : SseEvent) : List Char :=
  "event: ".toList ++ (sent.event.toList ++ Char.ofNat 10 ::
    ("data: ".toList ++ (dumps (snapshotValue float sent.data) ++ [Char.ofNat 10, Char.ofNat 10])))

/-! ### Reading it back -/

variable {float : ℚ → Number}

theorem integer_injective {m n : Int} (same : integer m = integer n) : m = n := by
  unfold integer at same
  exact Number.int_injective (Value.number.inj same)

theorem optional_injective (injective : Function.Injective float) {x y : Option ℚ}
    (same : optional float x = optional float y) : x = y := by
  cases x <;> cases y
  · rfl
  · cases same
  · cases same
  · exact congrArg some (injective (Value.number.inj same))

theorem costValue_injective (injective : Function.Injective float) {cost cost' : CostSummary}
    (same : costValue float cost = costValue float cost') : cost = cost' := by
  simp only [costValue, Value.object.injEq, List.cons.injEq, Prod.mk.injEq, Value.number.injEq,
    true_and, and_true] at same
  obtain ⟨input, output, total, usd⟩ := same
  cases cost
  cases cost'
  simp only [CostSummary.mk.injEq]
  exact ⟨integer_injective input, integer_injective output, integer_injective total,
    injective usd⟩

theorem stateValue_injective {state state' : JobState} (same : state.value = state'.value) :
    state = state' := by
  cases state <;> cases state' <;> first | rfl | exact absurd same (by decide)

theorem snapshotValue_injective (injective : Function.Injective float) {snap snap' : Snapshot}
    (same : snapshotValue float snap = snapshotValue float snap') : snap = snap' := by
  simp only [snapshotValue, Value.object.injEq, List.cons.injEq, Prod.mk.injEq,
    Value.number.injEq, Value.string.injEq, true_and, and_true] at same
  obtain ⟨jobId, state, priority, total, completed, succeeded, failed, pending, retries,
    progress, percent, cost, createdAt, startedAt, finishedAt, duration⟩ := same
  cases snap
  cases snap'
  simp only [Snapshot.mk.injEq]
  exact ⟨jobId, stateValue_injective state, Priority.value_injective priority,
    Int.ofNat_inj.mp (integer_injective total), Int.ofNat_inj.mp (integer_injective completed),
    Int.ofNat_inj.mp (integer_injective succeeded), Int.ofNat_inj.mp (integer_injective failed),
    Int.ofNat_inj.mp (integer_injective pending), Int.ofNat_inj.mp (integer_injective retries),
    progress, injective percent, costValue_injective injective cost, injective createdAt,
    optional_injective injective startedAt, optional_injective injective finishedAt,
    optional_injective injective duration⟩

/-- The name of the event fits on a line. -/
def Named (sent : SseEvent) : Prop := sent.event.toList.all printable = true

theorem newline_not_mem {text : List Char} (plain : text.all printable = true) :
    Char.ofNat 10 ∉ text := by
  intro member
  exact absurd (List.all_eq_true.mp plain _ member) (by decide)

theorem sse_splits (injective : Function.Injective float) (sent sent' : SseEvent)
    (rest rest' : List Char) (named : Named sent) (named' : Named sent')
    (same : sse float sent ++ rest = sse float sent' ++ rest') : sent = sent' ∧ rest = rest' := by
  have ends : ∀ more : List Char, Ends (Char.ofNat 10 :: more) := by
    intro more c tail split
    cases split
    decide
  unfold sse at same
  simp only [List.append_assoc, List.cons_append, List.nil_append] at same
  obtain ⟨event, data⟩ := split_at_mark (newline_not_mem named) (newline_not_mem named')
    (List.append_cancel_left same)
  obtain ⟨snapshots, more⟩ := dumps_unique _ _ (ends _) (ends _) (List.append_cancel_left data)
  simp only [List.cons.injEq, true_and] at more
  refine ⟨?_, more⟩
  cases sent
  cases sent'
  simp only [SseEvent.mk.injEq]
  exact ⟨String.toList_injective event, snapshotValue_injective injective snapshots⟩

/-! ### The stream of a run -/

/-- The generator only sends events under the names of the protocol. -/
def eventNames : List String :=
  ["job_started", "progress"] ++ terminal.map (fun state => "job_" ++ state)

theorem named_of_mem {sent : SseEvent} (member : sent.event ∈ eventNames) : Named sent := by
  have all : eventNames.all (fun name => name.toList.all printable) = true := by decide
  exact List.all_eq_true.mp all _ member

theorem names_conclude (job : Job) (last : Int) (snap : Snapshot) :
    ∀ sent ∈ (conclude job last snap).2, sent.event ∈ eventNames := by
  intro sent member
  unfold conclude at member
  split at member
  · rename_i ended
    rw [List.mem_singleton.mp member]
    exact List.mem_append_right _ (List.mem_map_of_mem (List.contains_iff_mem.mp ended))
  · cases member

theorem names_look (job : Job) (last : Int) (snap : Snapshot) :
    ∀ sent ∈ (look job last snap).2, sent.event ∈ eventNames := by
  intro sent member
  unfold look at member
  split at member
  · rw [List.mem_singleton.mp member]
    exact (by decide : "progress" ∈ eventNames)
  · exact names_conclude job last snap sent member

theorem names_resume {jobId : JobId} {e : Engine} {stage stage' : Stage} {emitted : List SseEvent}
    (resumed : resume jobId e stage = some (stage', emitted)) :
    ∀ sent ∈ emitted, sent.event ∈ eventNames := by
  cases stage with
  | created =>
      obtain ⟨job, _, same⟩ := Option.map_eq_some_iff.mp resumed
      obtain ⟨rfl, rfl⟩ := Prod.mk.inj same
      intro sent member
      rw [List.mem_singleton.mp member]
      exact (by decide : "job_started" ∈ eventNames)
  | checking last =>
      obtain ⟨job, _, same⟩ := Option.map_eq_some_iff.mp resumed
      obtain rfl : (look job last (snap jobId e job)).2 = emitted := congrArg Prod.snd same
      exact names_look job last _
  | progressed snap =>
      obtain ⟨job, _, same⟩ := Option.map_eq_some_iff.mp resumed
      obtain rfl : (conclude job job.completed snap).2 = emitted := congrArg Prod.snd same
      exact names_conclude job job.completed snap
  | returned => cases resumed
  | _ =>
      cases resumed
      exact fun _ impossible => by cases impossible

variable {p p' : Params} {jobId jobId' : JobId} {opened opened' : Engine}
  {ok ok' : Engine × Stage → StreamLabel → Engine × Stage → Prop} {sent sent' : List SseEvent}
  {s s' : Engine × Stage}

theorem names_reachable (streamed : (streamMachine p jobId opened).Reaches ok sent s) :
    ∀ event ∈ sent, event.event ∈ eventNames := by
  refine Machine.Run.invariant streamed (fun sent _ => ∀ event ∈ sent, event.event ∈ eventNames)
    (fun _ impossible => by cases impossible) ?_
  intro sent emitted s s' label named _ stepped event member
  rcases List.mem_append.mp member with earlier | now
  · exact named event earlier
  · rcases stream_step stepped with ⟨_, _, _, _, _, rfl⟩ | ⟨_, _, resumed⟩
    · cases now
    · exact names_resume resumed event now

/-- The text that a stream has sent so far. -/
def streamText (float : ℚ → Number) (sent : List SseEvent) : List Char :=
  sent.flatMap (sse float)

theorem sse_ne_nil (sent : SseEvent) : sse float sent ≠ [] := List.cons_ne_nil _ _

/-- The text of a stream can be read in one way only. In every run, whatever the job is
called, each event is written as its name and its snapshot on a line each, in printable
ASCII; and if the text of a stream is at the front of the text of another one, of any job
and engine, the events are. -/
theorem stream_reads_back (injective : Function.Injective float)
    (streamed : (streamMachine p jobId opened).Reaches Machine.anyStep sent s) :
    (∀ event ∈ sent, event.event ∈ eventNames ∧ event.event.toList.all printable = true ∧
        (dumps (snapshotValue float event.data)).all printable = true) ∧
      ∀ p' jobId' opened' sent' s',
        (streamMachine p' jobId' opened').Reaches Machine.anyStep sent' s' →
          streamText float sent <+: streamText float sent' → sent <+: sent' := by
  have named := names_reachable streamed
  refine ⟨fun event member => ⟨named event member, named_of_mem (named event member),
    printable_dumps _⟩, ?_⟩
  intro p' jobId' opened' sent' s' streamed' written
  exact prefix_of_flatMap Named (sse_splits injective) sse_ne_nil
    (fun event member => named_of_mem (named event member))
    (fun event member => named_of_mem (names_reachable streamed' event member)) written

/-- `float.__repr__` of small whole numbers, and a text of its own for every other number. -/
def wholeText (x : ℚ) : Number where
  text :=
    if x.den = 1 then x.num.repr.toList ++ ['.', '0']
    else (Encodable.encode x).repr.toList ++ ['e']
  nonempty := by
    split <;> exact fun empty => List.cons_ne_nil _ _ (List.append_eq_nil_iff.mp empty).2
  numeric := by
    intro c member
    split at member
    · rcases List.mem_append.mp member with digit | point
      · exact (Number.int x.num).numeric c digit
      · exact List.all_eq_true.mp (by decide : ['.', '0'].all isNumeric = true) c point
    · rcases List.mem_append.mp member with digit | mark
      · exact isNumeric_of_repr digit
      · rw [List.mem_singleton.mp mark]
        decide

theorem wholeText_injective : Function.Injective wholeText := by
  intro x y same
  have texts := congrArg Number.text same
  have last := congrArg List.getLast? texts
  unfold wholeText at texts last
  dsimp only at texts last
  split at texts <;> split at texts
  · rename_i whole whole'
    have same := Int.repr_injective (String.toList_injective (List.append_cancel_right texts))
    exact Rat.ext same (whole.trans whole'.symm)
  · rename_i whole broken
    simp [whole, broken] at last
  · rename_i broken whole
    simp [whole, broken] at last
  · exact Encodable.encode_injective
      (Nat.repr_injective (String.toList_injective (List.append_cancel_right texts)))

/-- A job that is called in the way of a frame. -/
def startsOne : List Label := [.submit [{ id := none, prompt := "x" }] .normal none "a\n\"b"]

/-- The client has read one event of the stream, or both that are sent so far. -/
def readFurther (opened : Engine) : Bool :=
  (Machine.exec (streamMachine EngineItems.singleWorker "a\n\"b" opened) (fun _ _ _ => true)
      (opened, .created) [.resume]).any (fun one =>
    (Machine.exec (streamMachine EngineItems.singleWorker "a\n\"b" opened) (fun _ _ _ => true)
        (opened, .created) [.resume, .resume, .resume]).any (fun both =>
      one.1.length == 1 && both.1.length == 2 &&
        (streamText wholeText one.1).isPrefixOf (streamText wholeText both.1)))

theorem stream_reads_back_odd_name :
    ∃ opened sent sent' s s',
      (streamMachine EngineItems.singleWorker "a\n\"b" opened).Reaches Machine.anyStep sent s ∧
      (streamMachine EngineItems.singleWorker "a\n\"b" opened).Reaches Machine.anyStep sent' s' ∧
      sent.length = 1 ∧ sent'.length = 2 ∧ sent <+: sent' := by
  rcases Machine.exists_anyRun_of_exec (engineMachine EngineItems.singleWorker)
      (engineMachine EngineItems.singleWorker).initial startsOne
      (fun outcome => readFurther outcome.2) (by decide +kernel) with ⟨_, opened, _, further⟩
  obtain ⟨sent, s, streamed, both⟩ := Machine.exists_anyRun_of_exec
    (streamMachine EngineItems.singleWorker "a\n\"b" opened) (opened, .created) [.resume] _ further
  obtain ⟨sent', s', streamed', tested⟩ := Machine.exists_anyRun_of_exec
    (streamMachine EngineItems.singleWorker "a\n\"b" opened) (opened, .created)
    [.resume, .resume, .resume] _ both
  simp only [Bool.and_eq_true, beq_iff_eq, List.isPrefixOf_iff_prefix] at tested
  obtain ⟨⟨one, two⟩, written⟩ := tested
  exact ⟨opened, sent, sent', s, s', streamed, streamed', one, two,
    (stream_reads_back wholeText_injective streamed).2 _ _ _ _ _ streamed' written⟩

end EventStreamText
end BatchInference
