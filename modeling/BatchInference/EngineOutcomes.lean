/-
The outcome of a job does not depend on the schedule.

Whatever the other workers, jobs and limiters do, a job holds for each item what
the verdict on the replies to that item says. Two runs in which the replies are
the same therefore end with the same results.
-/

import BatchInference.EngineCompletion
import BatchInference.Verdict
import Mathlib.Algebra.BigOperators.Group.Multiset.Basic

set_option autoImplicit false

namespace BatchInference
namespace EngineOutcomes

open Engine EngineItems EngineCompletion

/-! ### The replies to one item -/

def replyTo (jobId : JobId) (seq : Nat) : Event → Option Reply
  | .replied answered number reply =>
      if answered = jobId ∧ number = seq then some reply else none
  | _ => none

/-- The replies to the calls for one item of a job, in order. -/
def repliesOf (jobId : JobId) (seq : Nat) (events : List Event) : List Reply :=
  events.filterMap (replyTo jobId seq)

/-- The verdict on an item of a job after the events. -/
def verdictOf (s : Settings) (jobId : JobId) (events : List Event) (item : WorkItem) : Verdict :=
  Verdict.ofReplies s item (repliesOf jobId item.seq events)

/-- The retries of all items of a job, by the verdicts on them. -/
def retriesOf (s : Settings) (jobId : JobId) (events : List Event) (prompts : List PromptItem) :
    Nat :=
  Multiset.sum (Multiset.map (fun item => (verdictOf s jobId events item).retries)
    ↑(workItems prompts))

/-- No reply to the job is among the events. -/
def Unanswered (jobId : JobId) (emitted : List Event) : Prop :=
  ∀ seq reply, Event.replied jobId seq reply ∉ emitted

theorem repliesOf_append (jobId : JobId) (seq : Nat) (events emitted : List Event) :
    repliesOf jobId seq (events ++ emitted) =
      repliesOf jobId seq events ++ repliesOf jobId seq emitted :=
  List.filterMap_append

theorem repliesOf_unanswered {jobId : JobId} {emitted : List Event}
    (silent : Unanswered jobId emitted) (seq : Nat) : repliesOf jobId seq emitted = [] := by
  unfold repliesOf
  rw [List.filterMap_eq_nil_iff]
  intro event member
  cases event with
  | replied answered number reply =>
      have other : ¬(answered = jobId ∧ number = seq) := by
        rintro ⟨rfl, _⟩
        exact silent number reply member
      simp only [replyTo, if_neg other]
  | _ => rfl

variable {s : Settings} {events emitted : List Event} {e e' : Engine} {jobId : JobId}

theorem verdictOf_unanswered (silent : Unanswered jobId emitted) (item : WorkItem) :
    verdictOf s jobId (events ++ emitted) item = verdictOf s jobId events item := by
  unfold verdictOf
  rw [repliesOf_append, repliesOf_unanswered silent, List.append_nil]

theorem verdictOf_other (item : WorkItem) {seq : Nat} (reply : Reply) (other : item.seq ≠ seq) :
    verdictOf s jobId (events ++ [.replied jobId seq reply]) item =
      verdictOf s jobId events item := by
  have nothing : repliesOf jobId item.seq [.replied jobId seq reply] = [] := by
    simp [repliesOf, replyTo, Ne.symm other]
  unfold verdictOf
  rw [repliesOf_append, nothing, List.append_nil]

theorem verdictOf_heard {item : WorkItem} {retries : Nat}
    (asking : verdictOf s jobId events item = .asking retries) (reply : Reply) (jitter : ℚ) :
    verdictOf s jobId (events ++ [.replied jobId item.seq reply]) item =
      Verdict.after retries (settle s item (retries + 1) jitter reply) := by
  have one : repliesOf jobId item.seq [.replied jobId item.seq reply] = [reply] := by
    simp [repliesOf, replyTo]
  unfold verdictOf at asking ⊢
  rw [repliesOf_append, one, Verdict.ofReplies_append, asking]
  exact Verdict.hear_asking retries jitter reply

/-! ### Following the verdicts -/

/-- Queue, workers, results and counters of a job stand where the verdicts on its
items stand. -/
structure Tracked (s : Settings) (events : List Event) (e : Engine) (jobId : JobId) (job : Job)
    (prompts : List PromptItem) : Prop where
  unasked : ∀ item ∈ queued jobId e, verdictOf s jobId events item = .asking 0
  asking : ∀ task w f, e.workers.get? task = some w → w.loc.asking = some f → f.jobId = jobId →
    ∃ retries, f.attempt = retries + 1 ∧ verdictOf s jobId events f.item = .asking retries
  answered : ∀ seq result, job.results.get? seq = some result →
    ∃ retries, verdictOf s jobId events { seq := seq, id := result.id, prompt := result.prompt } =
      .settled retries (some result)
  retries : job.retries = retriesOf s jobId events prompts
  inputTokens : job.inputTokens =
    job.results.total (fun _ result => if result.success then result.inputTokens else 0)
  outputTokens : job.outputTokens =
    job.results.total (fun _ result => if result.success then result.outputTokens else 0)

/-- All jobs are tracked, and nothing was asked for a job that is not in the store. -/
structure Followed (s : Settings) (events : List Event) (e : Engine) : Prop where
  known : ∀ jobId job, e.store.get jobId = some job →
    ∃ prompts, submissionOf jobId events = some prompts ∧ Tracked s events e jobId job prompts
  unknown : ∀ jobId, e.store.get jobId = none → Unanswered jobId events

/-- The two versions of a job have the same results and the same counts of them. -/
structure SameTally (job job' : Job) : Prop where
  results : job'.results = job.results
  retries : job'.retries = job.retries
  inputTokens : job'.inputTokens = job.inputTokens
  outputTokens : job'.outputTokens = job.outputTokens

theorem sameTally_of_unanswered {label : Label} {job job' : Job}
    (change : JobStep e label emitted jobId job job') (silent : Unanswered jobId emitted) :
    SameTally job job' := by
  cases change with
  | kept quiet => exact ⟨rfl, rfl, rfl, rfl⟩
  | retried quiet answered =>
      rcases answered with ⟨seq, reply, member⟩
      exact (silent seq reply member).elim
  | advanced seq result cost quiet answered =>
      rcases answered with ⟨seq, reply, member⟩
      exact (silent seq reply member).elim
  | cancelled items unfinished shown => exact ⟨rfl, rfl, rfl, rfl⟩
  | interrupted ending unfinished => exact ⟨rfl, rfl, rfl, rfl⟩

/-- Without a reply to the job, its items may only leave the queue, to be asked
for the first time. -/
theorem Tracked.quiet {job job' : Job} {prompts : List PromptItem}
    (tracked : Tracked s events e jobId job prompts) (silent : Unanswered jobId emitted)
    (same : SameTally job job')
    (queue : ∀ item, item ∈ queued jobId e' → item ∈ queued jobId e)
    (asking : ∀ task w f, e'.workers.get? task = some w → w.loc.asking = some f →
      f.jobId = jobId →
        (∃ task w, e.workers.get? task = some w ∧ w.loc.asking = some f) ∨
          f.item ∈ queued jobId e ∧ f.attempt = 1) :
    Tracked s (events ++ emitted) e' jobId job' prompts := by
  constructor
  · intro item member
    rw [verdictOf_unanswered silent]
    exact tracked.unasked item (queue item member)
  · intro task w f found holds mine
    rw [verdictOf_unanswered silent]
    rcases asking task w f found holds mine with ⟨task', w', found', holds'⟩ | ⟨waited, first⟩
    · exact tracked.asking task' w' f found' holds' mine
    · exact ⟨0, first, tracked.unasked f.item waited⟩
  · intro seq result read
    rw [same.results] at read
    rw [verdictOf_unanswered silent]
    exact tracked.answered seq result read
  · unfold retriesOf
    simp only [verdictOf_unanswered silent]
    exact same.retries.trans tracked.retries
  · rw [same.inputTokens, same.results]
    exact tracked.inputTokens
  · rw [same.outputTokens, same.results]
    exact tracked.outputTokens

/-! ### A reply -/

theorem flight_of_asking {loc : Loc} {f : InFlight} (asking : loc.asking = some f) :
    ∃ g, loc.flight = some g ∧ g.jobId = f.jobId ∧ g.item = f.item := by
  cases loc with
  | backoff g seconds =>
      have same : { g with attempt := g.attempt + 1 } = f := Option.some.inj asking
      exact ⟨g, rfl, by rw [← same], by rw [← same]⟩
  | gating g => exact ⟨f, asking, rfl, rfl⟩
  | tokenSleep g seconds => exact ⟨f, asking, rfl, rfl⟩
  | calling g suspended => exact ⟨f, asking, rfl, rfl⟩
  | created => cases asking
  | acquiring => cases asking
  | waiting => cases asking
  | popping => cases asking
  | releasing again => cases asking
  | done => cases asking

theorem mem_held_of_asking {task : TaskId} {w : Worker} {f : InFlight}
    (found : e.workers.get? task = some w) (asking : w.loc.asking = some f)
    (mine : f.jobId = jobId) : f.item ∈ held jobId e := by
  unfold held
  rw [Dict.mem_total]
  refine ⟨task, w, found, ?_⟩
  rw [← heldBy_asking, asking, heldBy, if_pos mine]
  exact Multiset.mem_singleton_self _

/-- A submitted item is known by its number. -/
theorem same_of_seq {prompts : List PromptItem} {item other : WorkItem}
    (member : item ∈ workItems prompts) (member' : other ∈ workItems prompts)
    (same : item.seq = other.seq) : item = other := by
  have read := workItems_getElem? prompts member
  rw [same, workItems_getElem? prompts member', Option.some.injEq] at read
  exact read.symm

/-- When the verdict on one item changes, its retries change in the sum. -/
theorem retriesOf_heard (s : Settings) (jobId : JobId) (events : List Event)
    {prompts : List PromptItem} {item : WorkItem} (member : item ∈ workItems prompts)
    (reply : Reply) :
    retriesOf s jobId (events ++ [.replied jobId item.seq reply]) prompts +
        (verdictOf s jobId events item).retries =
      retriesOf s jobId events prompts +
        (verdictOf s jobId (events ++ [.replied jobId item.seq reply]) item).retries := by
  have distinct : (↑(workItems prompts) : Multiset WorkItem).Nodup := by
    rw [Multiset.coe_nodup]
    apply List.Nodup.of_map WorkItem.seq
    rw [map_seq_workItems]
    exact List.nodup_range
  have others : Multiset.map
        (fun other => (verdictOf s jobId (events ++ [.replied jobId item.seq reply]) other).retries)
        (Multiset.erase ↑(workItems prompts) item) =
      Multiset.map (fun other => (verdictOf s jobId events other).retries)
        (Multiset.erase ↑(workItems prompts) item) := by
    apply Multiset.map_congr rfl
    intro other remains
    rcases distinct.mem_erase_iff.mp remains with ⟨different, member'⟩
    rw [verdictOf_other other reply (fun same => different (same_of_seq member' member same))]
  have now := Multiset.sum_map_erase (Multiset.mem_coe.mpr member) (f := fun other =>
    (verdictOf s jobId (events ++ [.replied jobId item.seq reply]) other).retries)
  have before := Multiset.sum_map_erase (Multiset.mem_coe.mpr member) (f := fun other =>
    (verdictOf s jobId events other).retries)
  unfold retriesOf
  rw [others] at now
  omega

/-- A reply moves the verdict on one item, together with its worker, its result
and the counters of the job. -/
theorem Tracked.heard {job job' : Job} {prompts : List PromptItem} {lost : Multiset WorkItem}
    (tracked : Tracked s events e jobId job prompts)
    (account : Account False events e jobId job prompts lost) {task : TaskId} {w : Worker}
    {f : InFlight} (found : e.workers.get? task = some w) (asks : w.loc.asking = some f)
    (mine : f.jobId = jobId) {retries : Nat} (attempt : f.attempt = retries + 1)
    (asking : verdictOf s jobId events f.item = .asking retries) {reply : Reply} {jitter : ℚ}
    {settlement : Settlement} (settled : settle s f.item f.attempt jitter reply = settlement)
    (queue : queued jobId e' = queued jobId e)
    (others : ∀ other w', other ≠ task → e'.workers.get? other = some w' →
      e.workers.get? other = some w')
    (next : ∀ w' f', e'.workers.get? task = some w' → w'.loc.asking = some f' →
      f'.item = f.item ∧ ∃ retries', f'.attempt = retries' + 1 ∧
        Verdict.after retries settlement = .asking retries')
    (results : ∀ seq result, job'.results.get? seq = some result →
      job.results.get? seq = some result ∨ seq = f.item.seq ∧ result.id = f.item.id ∧
        result.prompt = f.item.prompt ∧
          ∃ retries', Verdict.after retries settlement = .settled retries' (some result))
    (retried : job'.retries + retries = job.retries + (Verdict.after retries settlement).retries)
    (inputTokens : job'.inputTokens = job'.results.total
      (fun _ result => if result.success then result.inputTokens else 0))
    (outputTokens : job'.outputTokens = job'.results.total
      (fun _ result => if result.success then result.outputTokens else 0)) :
    Tracked s (events ++ [.replied jobId f.item.seq reply]) e' jobId job' prompts := by
  have isHeld := mem_held_of_asking found asks mine
  have heard : verdictOf s jobId (events ++ [.replied jobId f.item.seq reply]) f.item =
      Verdict.after retries settlement := by
    rw [verdictOf_heard asking reply jitter, ← attempt, settled]
  have distinct := account.distinct
  rw [Multiset.map_add, Multiset.map_add] at distinct
  have apart := Multiset.disjoint_of_nodup_add (Multiset.nodup_add.mp distinct).1
  have submitted : f.item ∈ workItems prompts := by
    rw [← Multiset.mem_coe, ← account.items]
    simp only [Multiset.mem_add]
    exact Or.inl (Or.inl (Or.inl (Or.inr isHeld)))
  constructor
  · intro item member
    rw [queue] at member
    have other : item.seq ≠ f.item.seq := by
      intro same
      exact Multiset.disjoint_left.mp apart (Multiset.mem_map_of_mem _ member)
        (same ▸ Multiset.mem_map_of_mem _ isHeld)
    rw [verdictOf_other item reply other]
    exact tracked.unasked item member
  · intro task' w' f' found' asks' mine'
    by_cases own : task' = task
    · subst own
      rcases next w' f' found' asks' with ⟨sameItem, retries', attempt', nowAsking⟩
      rw [sameItem, heard]
      exact ⟨retries', attempt', nowAsking⟩
    · have earlier := others task' w' own found'
      have other : f'.item.seq ≠ f.item.seq := by
        intro same
        rcases flight_of_asking asks with ⟨g, holds, sameJob, sameItem⟩
        rcases flight_of_asking asks' with ⟨g', holds', sameJob', sameItem'⟩
        exact own (account.heldOnce earlier found holds' holds (sameJob'.trans mine')
          (sameJob.trans mine) (by rw [sameItem, sameItem', same]))
      rw [verdictOf_other f'.item reply other]
      exact tracked.asking task' w' f' earlier asks' mine'
  · intro seq result read
    rcases results seq result read with old | ⟨rfl, sameId, samePrompt, retries', isSettled⟩
    · have other : seq ≠ f.item.seq := by
        rintro rfl
        rw [account.unrecorded isHeld] at old
        cases old
      rw [verdictOf_other { seq := seq, id := result.id, prompt := result.prompt } reply other]
      exact tracked.answered seq result old
    · refine ⟨retries', ?_⟩
      rw [sameId, samePrompt]
      exact heard.trans isSettled
  · have sum := retriesOf_heard s jobId events submitted reply
    rw [heard, asking] at sum
    have before := tracked.retries
    change _ + retries = _ at sum
    omega
  · exact inputTokens
  · exact outputTokens

/-! ### Steps -/

/-- Without a reply, a worker only asks for what it asked for before, or for an
item that it takes from the queue. -/
private theorem asking_worked {p : Params} {g : Engine} {task : TaskId} {w : Worker}
    {action : Action} {loc : Loc} (flag : Bool) (stored : e.Stored)
    (found : e.workers.get? task = some w) (work : WorkStep p e task w action g loc emitted)
    (silent : Unanswered jobId emitted) {task' : TaskId} {w' : Worker} {f : InFlight}
    (found' : (g.moveTo task
      { w with cancelRequested := flag } loc).workers.get? task' = some w')
    (asks : w'.loc.asking = some f) (mine : f.jobId = jobId) :
    (∃ task w, e.workers.get? task = some w ∧ w.loc.asking = some f) ∨
      f.item ∈ queued jobId e ∧ f.attempt = 1 := by
  rw [get?_moveTo] at found'
  by_cases own : task' = task
  · rw [if_pos own, Option.some.injEq] at found'
    rw [← found'] at asks
    have now : loc.asking = some f := asks
    have item := itemStep work
    rw [now] at item
    generalize before : w.loc.asking = source at item
    cases item with
    | carry held emitted scheduler store quiet => exact Or.inl ⟨task, w, found, before⟩
    | taken f job popped store read alive first =>
        right
        have queue := queued_pop stored popped jobId
        rw [if_pos mine.symm] at queue
        rw [← queue]
        exact ⟨Multiset.mem_add.mpr (Or.inr (Multiset.mem_singleton_self _)), first⟩
    | retried f reply jitter seconds isReply scheduler store settled =>
        exact (silent f.item.seq reply (mine ▸ List.mem_singleton_self _)).elim
  · rw [if_neg own, work.workers.1] at found'
    exact Or.inl ⟨task', w', found', asks⟩

theorem asking_quiet {p : Params} {label : Label} (stored : e.Stored) (loop : e.EventLoop)
    (step : Step p e label e' emitted) (silent : Unanswered jobId emitted) {task : TaskId}
    {w : Worker} {f : InFlight} (found : e'.workers.get? task = some w)
    (asks : w.loc.asking = some f) (mine : f.jobId = jobId) :
    (∃ task w, e.workers.get? task = some w ∧ w.loc.asking = some f) ∨
      f.item ∈ queued jobId e ∧ f.attempt = 1 := by
  cases step with
  | submitted label prompts priority key newId requested quiet named fresh =>
      rcases submit_cases p prompts priority key newId e with ⟨⟨_, _, same⟩, _⟩ | admitted
      · rw [same] at found
        exact Or.inl ⟨task, w, found, asks⟩
      · rw [admitted.2.2.2.2] at found
        rcases register_spec p prompts priority key newId e loop.numbered with ⟨_, _, _, _, tasks⟩
        rcases (tasks task w).mp found with ⟨known, _⟩ | ⟨_, _, rfl⟩
        · exact Or.inl ⟨task, w, known, asks⟩
        · cases asks
  | worked task action w g flag loc emitted read lowered work =>
      exact asking_worked flag stored read work silent found asks mine
  | graceExpired quiet phase =>
      unfold requestCancels at found
      simp only [Dict.get?_mapValues, Option.map_eq_some_iff] at found
      rcases found with ⟨old, read, rfl⟩
      exact Or.inl ⟨task, old, read, asks⟩
  | shutdownReturned ended phase =>
      rw [(interruptJobs_frame e).2.2.1] at found
      exact Or.inl ⟨task, w, found, asks⟩
  | _ => exact Or.inl ⟨task, w, found, asks⟩

/-- A reply to one of its items moves the job as the verdict moves. -/
private theorem tracked_heard {p : Params} {g : Engine} {task : TaskId} {w : Worker}
    {action : Action} {loc : Loc} {job job' : Job} {prompts : List PromptItem}
    {lost : Multiset WorkItem} (flag : Bool)
    (tracked : Tracked p.settings events e jobId job prompts)
    (account : Account False events e jobId job prompts lost)
    (found : e.workers.get? task = some w) (work : WorkStep p e task w action g loc emitted)
    (present : e.store.get jobId = some job) (present' : g.store.get jobId = some job')
    (heard : ¬Unanswered jobId emitted) :
    Tracked p.settings (events ++ emitted) (g.moveTo task
      { w with cancelRequested := flag } loc) jobId job' prompts := by
  have own : ∀ w', (g.moveTo task
      { w with cancelRequested := flag } loc).workers.get? task = some w' →
        w'.loc.asking = loc.asking := by
    intro w' read
    rw [get?_moveTo, if_pos rfl, Option.some.injEq] at read
    rw [← read]
  have others : ∀ other w', other ≠ task → (g.moveTo task
      { w with cancelRequested := flag } loc).workers.get? other = some w' →
        e.workers.get? other = some w' := by
    intro other w' different read
    rw [get?_moveTo, if_neg different, work.workers.1] at read
    exact read
  have mine : ∀ {f : InFlight} {reply : Reply},
      ¬Unanswered jobId [Event.replied f.jobId f.item.seq reply] → f.jobId = jobId := by
    intro f reply spoken
    by_contra other
    apply spoken
    intro seq reply' member
    rw [List.mem_singleton] at member
    injection member with same
    exact other same.symm
  have sameQueue : g.scheduler = e.scheduler → queued jobId (g.moveTo task
      { w with cancelRequested := flag } loc) = queued jobId e := by
    intro same
    unfold queued
    rw [(moveTo_frame task _ loc g).2.1, same]
  have item := itemStep work
  generalize asks : w.loc.asking = source at item
  generalize now : loc.asking = target at item own
  cases item with
  | carry held emitted scheduler store quiet =>
      apply (heard ?_).elim
      intro seq reply member
      rcases quiet _ member with ⟨_, _, _, impossible⟩
      cases impossible
  | retried f reply jitter seconds isReply scheduler store settled =>
      have sameJob := mine heard
      subst sameJob
      rcases tracked.asking task w f found asks rfl with ⟨retries, attempt, asking⟩
      have once : job' = job.retried := by
        have read : e.store.jobs.get? f.jobId = some job := present
        rw [store, InMemoryJobStore.get, InMemoryJobStore.get?_update, if_pos rfl, read,
          Option.map_some, Option.some.injEq] at present'
        exact present'.symm
      subst once
      refine tracked.heard account found asks rfl attempt asking settled (sameQueue scheduler)
        others ?_ (fun _ _ read => Or.inl read) ?_ tracked.inputTokens tracked.outputTokens
      · intro w' f' read asks'
        rw [own w' read, Option.some.injEq] at asks'
        rw [← asks']
        exact ⟨rfl, retries + 1, by rw [attempt], rfl⟩
      · change job.retries + 1 + retries = job.retries + (retries + 1)
        omega
  | recorded f reply jitter result cost credited exhausted isReply scheduler store settled =>
      have sameJob := mine heard
      subst sameJob
      rcases tracked.asking task w f found asks rfl with ⟨retries, attempt, asking⟩
      rcases settle_record settled with ⟨sameId, samePrompt⟩
      have absent := account.unrecorded (mem_held_of_asking found asks rfl)
      have once : job' = job.advance f.item.seq result cost e.wallTime := by
        have read : e.store.jobs.get? f.jobId = some job := present
        rw [store, InMemoryJobStore.get, (record_jobs f result cost credited exhausted e).2,
          if_pos rfl, read, Option.map_some, Option.some.injEq] at present'
        exact present'.symm
      rcases advance_fields f.item.seq result cost e.wallTime job with
        ⟨_, _, _, _, results, retried, inputTokens, outputTokens⟩
      rw [← once] at results retried inputTokens outputTokens
      refine tracked.heard account found asks rfl attempt asking settled (sameQueue scheduler)
        others ?_ ?_ ?_ ?_ ?_
      · intro w' f' read asks'
        rw [own w' read] at asks'
        cases asks'
      · intro seq result' read
        rw [results, Dict.get?_set] at read
        by_cases same : seq = f.item.seq
        · rw [if_pos same, Option.some.injEq] at read
          rw [← read]
          exact Or.inr ⟨same, sameId, samePrompt, retries, rfl⟩
        · rw [if_neg same] at read
          exact Or.inl read
      · rw [retried]
        rfl
      · rw [inputTokens, results, tracked.inputTokens]
        exact (Dict.total_set_of_get?_none _ _ _ absent).symm
      · rw [outputTokens, results, tracked.outputTokens]
        exact (Dict.total_set_of_get?_none _ _ _ absent).symm
  | forgotten f reply jitter isReply scheduler store settled =>
      have sameJob := mine heard
      subst sameJob
      rcases tracked.asking task w f found asks rfl with ⟨retries, attempt, asking⟩
      have once : job' = job := by
        rw [store, present, Option.some.injEq] at present'
        exact present'.symm
      subst once
      generalize outcome : settle p.settings f.item f.attempt jitter reply = settlement at settled
      have gone : Verdict.after retries settlement = .settled retries none := by
        rcases settled with ⟨_, rfl⟩ | rfl
        · rfl
        · rfl
      refine tracked.heard account found asks rfl attempt asking outcome (sameQueue scheduler)
        others ?_ (fun _ _ read => Or.inl read) ?_ tracked.inputTokens tracked.outputTokens
      · intro w' f' read asks'
        rw [own w' read] at asks'
        cases asks'
      · rw [gone]
        rfl
  | _ => exact (heard (fun _ _ member => by cases member)).elim

private theorem tracked_new {p : Params} {prompts : List PromptItem} {priority : Priority}
    {key : Option String} {now : Engine} (silent : Unanswered jobId events)
    (idle : ∀ task w f, e.workers.get? task = some w → w.loc.asking = some f →
      f.jobId = jobId → f.attempt = 1) :
    Tracked s events e jobId (now.admittedJob p prompts priority key jobId) prompts := by
  have unasked : ∀ item, verdictOf s jobId events item = .asking 0 := by
    intro item
    unfold verdictOf
    rw [repliesOf_unanswered silent]
    rfl
  constructor
  · intro item _
    exact unasked item
  · intro task w f found asks mine
    exact ⟨0, idle task w f found asks mine, unasked f.item⟩
  · intro seq result read
    cases read
  · unfold retriesOf
    simp only [unasked]
    exact Multiset.sum_map_zero.symm
  · rfl
  · rfl

private theorem answered_known {p : Params} {label : Label} (ledger : Ledger False events e)
    (step : Step p e label e' emitted) {seq : Nat} {reply : Reply}
    (shown : Event.replied jobId seq reply ∈ emitted) : ∃ job, e.store.get jobId = some job := by
  have holder : ∀ {task : TaskId} {w : Worker} {f : InFlight}, e.workers.get? task = some w →
      w.loc.asking = some f → f.jobId = jobId → ∃ job, e.store.get jobId = some job := by
    intro task w f found asks mine
    exact ledger.job_of_held (mem_held_of_asking found asks mine)
  cases step with
  | worked task action w g flag loc emitted found lowered work =>
      have item := itemStep work
      generalize asks : w.loc.asking = source at item
      generalize loc.asking = target at item
      cases item with
      | carry held emitted scheduler store quiet =>
          rcases quiet _ shown with ⟨_, _, _, impossible⟩
          cases impossible
      | retried f reply jitter seconds isReply scheduler store settled =>
          rw [List.mem_singleton] at shown
          injection shown with same
          exact holder found asks same.symm
      | recorded f reply jitter result cost credited exhausted isReply scheduler store settled =>
          rw [List.mem_singleton] at shown
          injection shown with same
          exact holder found asks same.symm
      | forgotten f reply jitter isReply scheduler store settled =>
          rw [List.mem_singleton] at shown
          injection shown with same
          exact holder found asks same.symm
      | _ => cases shown
  | _ => simp at shown

theorem Followed.next {p : Params} {label : Label} (followed : Followed p.settings events e)
    (ledger : Ledger False events e) (stored : e.Stored) (loop : e.EventLoop)
    (step : Step p e label e' emitted) : Followed p.settings (events ++ emitted) e' where
  known := by
    intro jobId job' found'
    rcases step.job found' with ⟨job, found, change⟩ | ⟨fresh, prompts, priority, key, rfl, rfl⟩
    · rcases followed.known jobId job found with ⟨prompts, submitted, tracked⟩
      refine ⟨prompts, submissionOf_append submitted emitted, ?_⟩
      by_cases silent : Unanswered jobId emitted
      · refine tracked.quiet silent (sameTally_of_unanswered change silent) ?_ ?_
        · intro item member
          exact Multiset.mem_of_le (queued_shrinks stored step found) member
        · intro task w f read asks mine
          exact asking_quiet stored loop step silent read asks mine
      · rcases ledger.known jobId job found with ⟨prompts', lost, account⟩
        have same := account.submitted
        rw [submitted, Option.some.injEq] at same
        subst same
        cases step with
        | worked task action w g flag loc emitted read lowered work =>
            exact tracked_heard flag tracked account read work found found' silent
        | _ => exact (silent (fun _ _ member => by simp at member)).elim
    · -- The prompts of a new job are those of its admission.
      rcases ledger.unknown jobId fresh with ⟨unsubmitted, nothingHeld, _⟩
      have quiet : Unanswered jobId
          [Event.submitted prompts priority key (.job jobId false)] := by
        intro seq reply member
        simp at member
      refine ⟨prompts, ?_, tracked_new ?_ ?_⟩
      · unfold submissionOf at unsubmitted ⊢
        rw [List.findSome?_append, unsubmitted]
        simp [submission]
      · intro seq reply member
        rcases List.mem_append.mp member with earlier | now
        · exact followed.unknown jobId fresh seq reply earlier
        · exact quiet seq reply now
      · intro task w f read asks mine
        rcases asking_quiet stored loop step quiet read asks mine with
          ⟨task', w', read', asks'⟩ | ⟨_, first⟩
        · have impossible := mem_held_of_asking read' asks' mine
          rw [nothingHeld] at impossible
          exact (Multiset.notMem_zero _ impossible).elim
        · exact first
  unknown := by
    intro jobId missing' seq reply member
    cases found : e.store.get jobId with
    | some job =>
        rcases step.job_stays found with ⟨job', found', _⟩
        have missing : e'.store.jobs.get? jobId = none := missing'
        rw [missing] at found'
        cases found'
    | none =>
        rcases List.mem_append.mp member with earlier | now
        · exact followed.unknown jobId found seq reply earlier
        · rcases answered_known ledger step now with ⟨job, present⟩
          rw [found] at present
          cases present

theorem reachable_followed {p : Params} {ok : Engine → Label → Engine → Prop}
    (run : (engineMachine p).Reaches ok events e) :
    Ledger False events e ∧ Followed p.settings events e := by
  have facts := run.along Engine.Stored (fun earlier => reachable_stored earlier)
  refine run_invariant facts (fun events e => Ledger False events e ∧ Followed p.settings events e)
    ?_ ?_
  · refine ⟨ledger_new False p, ?_, ?_⟩
    · intro _ _ impossible
      cases impossible
    · intro _ _ _ _ impossible
      cases impossible
  · intro _ _ _ _ _ before loop admissible step
    exact ⟨ledger_step before.1 admissible.2 loop (fun impossible => impossible.elim) step,
      before.2.next before.1 admissible.2 loop step⟩

/-- The induction rule for runs, with the ledger and the verdicts at hand. -/
theorem followed_invariant {p : Params} {ok : Engine → Label → Engine → Prop}
    (run : (engineMachine p).Reaches ok events e) (holds : List Event → Engine → Prop)
    (start : holds [] (Engine.new p))
    (next : ∀ {events emitted : List Event} {e e' : Engine} {label : Label},
      holds events e → Ledger False events e → Followed p.settings events e → e.EventLoop →
        ok e label e' → Step p e label e' emitted → holds (events ++ emitted) e') :
    holds events e := by
  have facts := run.along Engine.Stored (fun earlier => reachable_stored earlier)
  have whole := run_invariant facts
    (fun events e => (Ledger False events e ∧ Followed p.settings events e) ∧ holds events e) ?_ ?_
  · exact whole.2
  · have origin : (engineMachine p).Reaches ok [] (Engine.new p) := .refl
    exact ⟨reachable_followed origin, start⟩
  · intro _ _ _ _ _ before loop admissible step
    exact ⟨⟨ledger_step before.1.1 admissible.2 loop (fun impossible => impossible.elim) step,
      before.1.2.next before.1.1 admissible.2 loop step⟩,
      next before.2 before.1.1 before.1.2 loop admissible.1 step⟩

/-! ### Completed jobs -/

theorem verdict_of_complete {job : Job} {prompts : List PromptItem} {lost : Multiset WorkItem}
    (tracked : Tracked s events e jobId job prompts)
    (account : Account False events e jobId job prompts lost)
    (all : job.total ≤ job.completed) {item : WorkItem} (member : item ∈ workItems prompts) :
    ∃ retries result, job.results.get? item.seq = some result ∧
      verdictOf s jobId events item = .settled retries (some result) := by
  obtain ⟨result, read, same⟩ := account.result_of_complete all member
  obtain ⟨retries, settled⟩ := tracked.answered item.seq result read
  rw [← same] at settled
  exact ⟨retries, result, read, settled⟩

/-- Failed results have no price. -/
theorem Tracked.free {job : Job} {prompts : List PromptItem}
    (tracked : Tracked s events e jobId job prompts) :
    ∀ result ∈ job.results.values, result.success = false → result.withoutCost = result := by
  intro result member failed
  rcases (job.results.mem_values_iff result).mp member with ⟨seq, read⟩
  rcases tracked.answered seq result read with ⟨_, settled⟩
  exact Verdict.failure_withoutCost settled failed

/-- The results of a completed job are numbered without a gap. -/
theorem keys_of_complete {job : Job} {prompts : List PromptItem} {lost : Multiset WorkItem}
    (account : Account False events e jobId job prompts lost)
    (all : job.total ≤ job.completed) : job.results.keys.Perm (List.range prompts.length) := by
  rw [← Multiset.coe_eq_coe, ← map_seq_recorded, account.complete all, Multiset.map_coe,
    map_seq_workItems]

/-- A sum over the results of a job is a sum over the listed results. -/
theorem total_orderedResults {M : Type} [AddCommMonoid M] (job : Job)
    (amount : InferenceResult → M) :
    job.results.total (fun _ result => amount result) = (job.orderedResults.map amount).sum := by
  rw [(job.orderedResults_perm.map amount).sum_eq]
  unfold Dict.total Dict.values
  rw [List.map_map]
  rfl

/-- Jobs with the same results apart from prices agree on sums in which prices do
not count. -/
theorem total_of_results {M : Type} [AddCommMonoid M] {job job' : Job}
    (results : job.orderedResults.map InferenceResult.withoutCost =
      job'.orderedResults.map InferenceResult.withoutCost)
    (amount : InferenceResult → M)
    (free : ∀ result, amount result.withoutCost = amount result) :
    job.results.total (fun _ result => amount result) =
      job'.results.total (fun _ result => amount result) := by
  have apart : ∀ listed : List InferenceResult,
      ((listed.map InferenceResult.withoutCost).map amount).sum = (listed.map amount).sum := by
    intro listed
    rw [List.map_map]
    congr 1
    exact List.map_congr_left (fun result _ => free result)
  rw [total_orderedResults, total_orderedResults, ← apart, results, apart]

/-- The dead letters can be read off the results apart from prices. -/
theorem deadLetter_withoutCost {job : Job}
    (free : ∀ result ∈ job.results.values, result.success = false →
      result.withoutCost = result) :
    job.deadLetter = (job.orderedResults.map InferenceResult.withoutCost).filter
      (fun result => !result.success) := by
  unfold Job.deadLetter
  rw [List.filter_map]
  have unchanged : ∀ result ∈ job.orderedResults.filter (fun result => !result.success),
      InferenceResult.withoutCost result = id result := by
    intro result member
    rcases List.mem_filter.mp member with ⟨listed, failed⟩
    apply free result (job.orderedResults_perm.mem_iff.mp listed)
    simpa using failed
  have same := List.map_congr_left unchanged
  rw [List.map_id] at same
  exact same.symm

/-! ### Two runs -/

/-- The two jobs have the same result for the item, apart from prices. -/
def Agree (job job' : Job) (item : WorkItem) : Prop :=
  (job.results.get? item.seq).map InferenceResult.withoutCost =
    (job'.results.get? item.seq).map InferenceResult.withoutCost

/-- On replies fixed in advance the verdicts of two completed jobs agree. -/
theorem agree_of_script {s s' : Settings} (limit : s.maxRetries = s'.maxRetries)
    (estimator : s.charsPerToken = s'.charsPerToken) {events events' : List Event}
    {e e' : Engine} {jobId jobId' : JobId} {job job' : Job} {prompts : List PromptItem}
    {lost lost' : Multiset WorkItem} (tracked : Tracked s events e jobId job prompts)
    (account : Account False events e jobId job prompts lost) (all : job.total ≤ job.completed)
    (tracked' : Tracked s' events' e' jobId' job' prompts)
    (account' : Account False events' e' jobId' job' prompts lost')
    (all' : job'.total ≤ job'.completed) {item : WorkItem} {stream : Nat → Reply}
    (follows : Verdict.Follows stream (repliesOf jobId item.seq events))
    (follows' : Verdict.Follows stream (repliesOf jobId' item.seq events'))
    (member : item ∈ workItems prompts) :
    Agree job job' item ∧
      (verdictOf s jobId events item).retries = (verdictOf s' jobId' events' item).retries := by
  rcases verdict_of_complete tracked account all member with ⟨retries, result, read, settled⟩
  rcases verdict_of_complete tracked' account' all' member with
    ⟨retries', result', read', settled'⟩
  have same := Verdict.settled_same limit estimator follows follows' settled settled'
  injection same with sameRetries sameResult
  constructor
  · unfold Agree
    rw [read, read']
    exact sameResult
  · rw [settled, settled']
    exact sameRetries

theorem orderedResults_of_agree {events events' : List Event} {e e' : Engine}
    {jobId jobId' : JobId} {job job' : Job} {prompts : List PromptItem}
    {lost lost' : Multiset WorkItem} (account : Account False events e jobId job prompts lost)
    (all : job.total ≤ job.completed)
    (account' : Account False events' e' jobId' job' prompts lost')
    (all' : job'.total ≤ job'.completed)
    (agree : ∀ item ∈ workItems prompts, Agree job job' item) :
    job.orderedResults.map InferenceResult.withoutCost =
      job'.orderedResults.map InferenceResult.withoutCost := by
  rw [job.orderedResults_of_range (keys_of_complete account all),
    job'.orderedResults_of_range (keys_of_complete account' all'), List.map_filterMap,
    List.map_filterMap]
  apply List.filterMap_congr
  intro seq inside
  rw [← map_seq_workItems, List.mem_map] at inside
  rcases inside with ⟨item, member, rfl⟩
  exact agree item member

def twoPrompts : List PromptItem :=
  [{ id := some "x", prompt := "hello" }, { id := none, prompt := "again" }]

/-- The first prompt is answered; the second meets a 429 and then fails. -/
def twoReplies : Nat → Nat → Reply
  | 0, _ => .returned "hi"
  | _, 0 => .rateLimited 0
  | _, _ => .raised "no"

/-- One worker takes the prompts one after the other. -/
def inOrder : List Label :=
  [.submit twoPrompts .normal none "a", .work 0 .start, .work 0 .enter, .work 0 .take,
    .work 0 .gate, .work 0 (.reply (.returned "hi") 0), .work 0 .leave, .work 0 .enter,
    .work 0 .take, .work 0 .gate, .work 0 (.reply (.rateLimited 0) 0), .work 0 .backoffWake,
    .work 0 .gate, .work 0 (.reply (.raised "no") 0)]

/-- Two workers with other prices and another job; the second prompt ends first. -/
def overlapping : List Label :=
  [.submit [{ id := none, prompt := "other" }] .high none "b",
    .submit twoPrompts .low none "c", .cancel "b", .work 0 .start, .work 0 .enter, .work 0 .take,
    .work 0 .gate, .work 0 .suspend, .work 1 .start, .work 1 .enter, .work 1 .take, .work 1 .gate,
    .work 1 (.reply (.rateLimited 0) 1), .work 1 .backoffWake, .work 1 .gate,
    .work 1 (.reply (.raised "no") 0), .work 1 .leave, .work 1 .enter, .work 1 .take,
    .work 1 .leave, .work 0 (.reply (.returned "hi") 0)]

def dearWorkers : Params :=
  { settings := { workerPoolSize := 2, costPer1kInputTokens := 1 }
    fingerprint := fun _ _ => "" }

/-- Both prompts were asked for, with the replies of `twoReplies`, and the job is
completed. -/
def playsTwoReplies (jobId : JobId) (outcome : List Event × Engine) : Bool :=
  outcome.1.all (fun event =>
      match event with
      | .replied _ seq _ => decide (seq < 2)
      | _ => true) &&
    (repliesOf jobId 0 outcome.1 == (List.range 1).map (twoReplies 0) &&
      repliesOf jobId 1 outcome.1 == (List.range 2).map (twoReplies 1)) &&
    submissionOf jobId outcome.1 == some twoPrompts &&
    (outcome.2.store.get jobId).any (fun job => job.state == .completed)

theorem follows_of_plays {outcome : List Event × Engine}
    (plays : playsTwoReplies jobId outcome = true) :
    (∀ seq, Verdict.Follows (twoReplies seq) (repliesOf jobId seq outcome.1)) ∧
      submissionOf jobId outcome.1 = some twoPrompts ∧
      ∃ job, outcome.2.store.get jobId = some job ∧ job.state = .completed := by
  unfold playsTwoReplies at plays
  simp only [Bool.and_eq_true, beq_iff_eq, List.all_eq_true] at plays
  rcases plays with ⟨⟨⟨numbered, first, second⟩, submitted⟩, completed⟩
  rcases (Option.any_eq_true _ _).mp completed with ⟨job, found, state⟩
  refine ⟨?_, submitted, job, found, by simpa using state⟩
  intro seq
  match seq with
  | 0 =>
      rw [first]
      exact Verdict.follows_range _ _
  | 1 =>
      rw [second]
      exact Verdict.follows_range _ _
  | seq + 2 =>
      have none : repliesOf jobId (seq + 2) outcome.1 = [] := by
        unfold repliesOf
        rw [List.filterMap_eq_nil_iff]
        intro event member
        have inside := numbered event member
        cases event with
        | replied answered number reply =>
            have small := of_decide_eq_true inside
            have other : ¬(answered = jobId ∧ number = seq + 2) := by omega
            simp only [replyTo, if_neg other]
        | _ => rfl
      rw [none]
      intro k reply impossible
      cases impossible

end EngineOutcomes
end BatchInference
