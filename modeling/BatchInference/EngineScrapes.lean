/-
What a scrape of the registry shows: `Histogram` and `Counter` of app/metrics.py over
the runs of the engine.

Every histogram is that of the observations made so far, so its buckets are cumulative
and end with the count; the durations are those of the completed jobs in the store, and
from one scrape to the next nothing that counts goes back.
-/

import BatchInference.EngineTallies
import BatchInference.EngineGrowth

set_option autoImplicit false

namespace BatchInference

/-! ### Histograms -/

namespace Histogram

/-- The bucket lines of `render`, with no edge for `+Inf`. -/
def samples (h : Histogram) : List (Option ℚ × Nat) :=
  (h.buckets.zip h.counts).map (fun line => (some line.1, line.2)) ++ [(none, h.count)]

/-- The histogram of these observations. -/
def holding (buckets values : List ℚ) : Histogram :=
  { buckets := buckets
    counts := buckets.map (fun edge => values.countP (fun value => decide (value ≤ edge)))
    sum := values.sum
    count := values.length }

theorem observe_holding (buckets values : List ℚ) (value : ℚ) :
    (holding buckets values).observe value = holding buckets (values ++ [value]) := by
  unfold observe holding
  simp only [List.sum_append, List.sum_singleton, List.length_append, List.length_singleton,
    Histogram.mk.injEq, true_and, and_true]
  induction buckets with
  | nil => rfl
  | cons edge buckets ih =>
      rw [List.map_cons, List.map_cons, List.zipWith_cons_cons, ih, List.countP_append,
        List.countP_singleton]
      by_cases within : value ≤ edge
      · simp only [within, if_true, decide_true]
      · simp only [within, if_false, decide_false, Bool.false_eq_true, Nat.add_zero]

/-- Observations one after another. -/
def observeAll (values : List ℚ) (h : Histogram) : Histogram :=
  values.foldl (fun h value => h.observe value) h

theorem observeAll_holding (buckets values more : List ℚ) :
    (holding buckets values).observeAll more = holding buckets (values ++ more) := by
  induction more generalizing values with
  | nil =>
      rw [List.append_nil]
      rfl
  | cons value more ih =>
      change ((holding buckets values).observe value).observeAll more = _
      rw [observe_holding, ih, List.append_assoc, List.singleton_append]

theorem observeAll_append (values more : List ℚ) (h : Histogram) :
    h.observeAll (values ++ more) = (h.observeAll values).observeAll more :=
  List.foldl_append

theorem samples_holding (buckets values : List ℚ) : (holding buckets values).samples =
    buckets.map (fun edge => (some edge, values.countP (fun value => decide (value ≤ edge)))) ++
      [(none, values.length)] := by
  unfold samples holding
  dsimp only
  congr 1
  induction buckets with
  | nil => rfl
  | cons edge buckets ih =>
      rw [List.map_cons, List.zip_cons_cons, List.map_cons, ih, List.map_cons]

/-- The lines are cumulative: they do not fall, and end with the count. -/
theorem samples_rising {buckets : List ℚ} (sorted : buckets.Pairwise (· ≤ ·))
    (values : List ℚ) : ((holding buckets values).samples.map Prod.snd).Pairwise (· ≤ ·) := by
  rw [samples_holding, List.map_append, List.map_map, List.pairwise_append]
  refine ⟨?_, List.pairwise_singleton _ _, ?_⟩
  · rw [List.pairwise_map]
    refine sorted.imp (fun {edge edge'} below => ?_)
    refine List.countP_mono_left (fun value _ within => ?_)
    rw [decide_eq_true_eq] at within ⊢
    exact le_trans within below
  · intro count member total last
    obtain ⟨edge, _, rfl⟩ := List.mem_map.mp member
    rw [List.mem_singleton.mp last]
    exact List.countP_le_length

/-- More observations raise every line. -/
theorem samples_grow (buckets values more : List ℚ) : List.Forall₂ (· ≤ ·)
    ((holding buckets values).samples.map Prod.snd)
    ((holding buckets (values ++ more)).samples.map Prod.snd) := by
  rw [samples_holding, samples_holding, List.map_append, List.map_append, List.map_map,
    List.map_map]
  refine List.rel_append ?_ (.cons ?_ .nil)
  · rw [List.forall₂_map_left_iff, List.forall₂_map_right_iff, List.forall₂_same]
    intro edge _
    dsimp only [Function.comp_apply]
    rw [List.countP_append]
    exact Nat.le_add_right _ _
  · rw [List.length_append]
    exact Nat.le_add_right _ _

end Histogram

namespace EngineScrapes

open Engine EngineItems EngineOutcomes EngineGrowth EngineTallies

/-! ### Durations -/

/-- What `_finalize` observes of a completed job. -/
def durationOf (job : Job) : Option ℚ :=
  job.finishedAt.bind (fun finished => job.startedAt.map (fun started => finished - started))

/-- A job is timed once it is completed. -/
def timed (job : Job) : Multiset ℚ :=
  if job.state = .completed then (durationOf job).elim 0 (fun seconds => {seconds}) else 0

def durations (e : Engine) : Multiset ℚ := e.store.jobs.total (fun _ job => timed job)

theorem timed_record (seq : Nat) (result : InferenceResult) (cost : ℚ) (job : Job) :
    timed (job.record seq result cost) = timed job := by
  unfold Job.record
  dsimp only
  split <;> rfl

theorem timed_of_open {job : Job} (unfinished : isOpen job.state = true) : timed job = 0 := by
  unfold timed
  rw [if_neg]
  intro completed
  rw [completed] at unfinished
  cases unfinished

/-- The counters of events. -/
inductive Series where
  | jobsSubmitted
  | jobsRejected
  | jobsCompleted
  | jobsCancelled
  | promptsCompleted
  | promptsSucceeded
  | promptsFailed
  | inferenceRetries
  | inferenceRateLimited
  | retriesExhausted
  | idempotentReuse

def Series.value (m : Metrics) : Series → Nat
  | .jobsSubmitted => m.jobsSubmitted
  | .jobsRejected => m.jobsRejected
  | .jobsCompleted => m.jobsCompleted
  | .jobsCancelled => m.jobsCancelled
  | .promptsCompleted => m.promptsCompleted
  | .promptsSucceeded => m.promptsSucceeded
  | .promptsFailed => m.promptsFailed
  | .inferenceRetries => m.inferenceRetries
  | .inferenceRateLimited => m.inferenceRateLimited
  | .retriesExhausted => m.retriesExhausted
  | .idempotentReuse => m.idempotentReuse

/-- What happened between two scrapes: the latencies and durations that were observed. -/
structure Between (e e' : Engine) (latencies ended : List ℚ) : Prop where
  latency : e'.metrics.inferenceLatency = e.metrics.inferenceLatency.observeAll latencies
  duration : e'.metrics.jobDuration = e.metrics.jobDuration.observeAll ended
  prompts : e'.metrics.promptsCompleted = e.metrics.promptsCompleted + latencies.length
  jobs : e'.metrics.jobsCompleted = e.metrics.jobsCompleted + ended.length
  timed : durations e' = durations e + (ended : Multiset ℚ)
  forward : ∀ seconds ∈ latencies, 0 ≤ seconds
  counters : ∀ series : Series, series.value e.metrics ≤ series.value e'.metrics

theorem Between.refl (e : Engine) : Between e e [] [] where
  latency := rfl
  duration := rfl
  prompts := rfl
  jobs := rfl
  timed := (add_zero _).symm
  forward := fun _ impossible => by cases impossible
  counters := fun _ => Nat.le_refl _

theorem Between.trans {e e' e'' : Engine} {latencies latencies' ended ended' : List ℚ}
    (first : Between e e' latencies ended) (second : Between e' e'' latencies' ended') :
    Between e e'' (latencies ++ latencies') (ended ++ ended') where
  latency := by rw [second.latency, first.latency, Histogram.observeAll_append]
  duration := by rw [second.duration, first.duration, Histogram.observeAll_append]
  prompts := by rw [second.prompts, first.prompts, List.length_append, Nat.add_assoc]
  jobs := by rw [second.jobs, first.jobs, List.length_append, Nat.add_assoc]
  timed := by rw [second.timed, first.timed, add_assoc, Multiset.coe_add]
  forward := by
    intro seconds member
    exact (List.mem_append.mp member).elim (first.forward seconds) (second.forward seconds)
  counters := fun series => Nat.le_trans (first.counters series) (second.counters series)

/-! ### One step -/

variable {p : Params} {events emitted : List Event} {e e' g : Engine} {label : Label}

/-- What `_finalize` relies on: every job was started when it was registered, and no call
began in the future. -/
structure Begun (e : Engine) : Prop where
  started : ∀ jobId job, e.store.get jobId = some job → job.startedAt ≠ none
  past : ∀ task w f, e.workers.get? task = some w → w.loc.asking = some f → f.start ≤ e.loopTime

theorem start_of_work {task : TaskId} {w : Worker} {action : Action} {loc : Loc} {f : InFlight}
    (work : WorkStep p e task w action g loc emitted) (asks : loc.asking = some f) :
    (∃ f', w.loc.asking = some f' ∧ f'.start = f.start) ∨ f.start = e.loopTime := by
  cases work with
  | taken => 
      cases asks
      exact Or.inr rfl
  | left again at_ => cases again <;> cases asks
  | called f' at_ =>
      cases asks
      exact Or.inl ⟨f, by rw [at_]; rfl, rfl⟩
  | throttled f' at_ =>
      cases asks
      exact Or.inl ⟨f, by rw [at_]; rfl, rfl⟩
  | tokenWoken f' seconds at_ =>
      cases asks
      exact Or.inl ⟨f, by rw [at_]; rfl, rfl⟩
  | suspended f' at_ =>
      cases asks
      exact Or.inl ⟨f, by rw [at_]; rfl, rfl⟩
  | retried f' before at_ =>
      cases asks
      exact Or.inl ⟨f', by rw [at_]; rfl, rfl⟩
  | backoffEnded f' seconds at_ =>
      cases asks
      exact Or.inl ⟨_, by rw [at_]; rfl, rfl⟩
  | _ => cases asks

theorem loopTime_of_work {task : TaskId} {w : Worker} {action : Action} {loc : Loc}
    (work : WorkStep p e task w action g loc emitted) : g.loopTime = e.loopTime := by
  cases work with
  | recorded => simp
  | _ => rfl

theorem startedAt_of_step {job job' : Job} {jobId : JobId}
    (change : JobStep e label emitted jobId job job') : job'.startedAt = job.startedAt := by
  cases change with
  | advanced seq result cost silent answered =>
      exact congrArg (fun given => given.2.2.2.2) (request_advance seq result cost e.wallTime job)
  | _ => rfl

theorem Begun.next (begun : Begun e) (loop : e.EventLoop) (step : Step p e label e' emitted) :
    Begun e' := by
  constructor
  · intro jobId job' found'
    rcases step.job found' with ⟨job, found, change⟩ | ⟨_, prompts, priority, key, _, rfl⟩
    · rw [startedAt_of_step change]
      exact begun.started jobId job found
    · exact Option.some_ne_none _
  · intro task w f found asks
    cases step with
    | tick loopTime wallTime later => exact le_trans (begun.past task w f found asks) later
    | submitted label prompts priority key newId requested quiet named fresh =>
        rcases submit_cases p prompts priority key newId e with ⟨⟨_, _, same⟩, _⟩ | admitted
        · rw [same] at found ⊢
          exact begun.past task w f found asks
        · rw [admitted.2.2.2.2] at found ⊢
          obtain ⟨_, _, _, _, tasks⟩ :=
            register_spec p prompts priority key newId e loop.numbered
          rcases (tasks task w).mp found with ⟨known, _⟩ | ⟨_, _, rfl⟩
          · simp only [register_frame]
            exact begun.past task w f known asks
          · cases asks
    | worked task' action w' g flag loc emitted read lowered work =>
        rw [get?_moveTo, work.workers.1] at found
        change f.start ≤ g.loopTime
        rw [loopTime_of_work work]
        by_cases own : task = task'
        · rw [if_pos own, Option.some.injEq] at found
          subst found
          rcases start_of_work work asks with ⟨f', asked, same⟩ | now
          · rw [← same]
            exact begun.past task' w' f' read asked
          · exact le_of_eq now
        · rw [if_neg own] at found
          exact begun.past task w f found asks
    | cancelled jobId job quiet present unfinished =>
        rw [(cancelOpen_frame jobId e).2.2.2.2.2.1] at found
        simp only [cancelOpen_frame]
        exact begun.past task w f found asks
    | graceExpired quiet phase =>
        unfold requestCancels at found
        simp only [Dict.get?_mapValues, Option.map_eq_some_iff] at found
        obtain ⟨old, present, rfl⟩ := found
        exact begun.past task old f present asks
    | shutdownReturned ended phase =>
        rw [(interruptJobs_frame e).2.2.1] at found
        rw [(interruptJobs_frame e).2.2.2.2.2.2]
        exact begun.past task w f found asks
    | _ => exact begun.past task w f found asks

/-- Nothing was observed. -/
theorem between_quiet (timed : durations e' = durations e)
    (latency : e'.metrics.inferenceLatency = e.metrics.inferenceLatency)
    (duration : e'.metrics.jobDuration = e.metrics.jobDuration)
    (prompts : e'.metrics.promptsCompleted = e.metrics.promptsCompleted)
    (jobs : e'.metrics.jobsCompleted = e.metrics.jobsCompleted)
    (counters : ∀ series : Series, series.value e.metrics ≤ series.value e'.metrics) :
    Between e e' [] [] where
  latency := latency
  duration := duration
  prompts := prompts
  jobs := jobs
  timed := timed.trans (add_zero _).symm
  forward := fun _ impossible => by cases impossible
  counters := counters

theorem between_same (store : e'.store = e.store) (metrics : e'.metrics = e.metrics) :
    Between e e' [] [] := by
  refine between_quiet ?_ ?_ ?_ ?_ ?_ ?_
  · unfold durations
    rw [store]
  all_goals rw [metrics]
  exact fun _ => Nat.le_refl _

theorem Between.congr {latencies ended : List ℚ} (between : Between e g latencies ended)
    (store : e'.store = g.store) (metrics : e'.metrics = g.metrics) :
    Between e e' latencies ended := by
  have all := between.trans (between_same store metrics)
  rwa [List.append_nil, List.append_nil] at all

theorem between_submit (prompts : List PromptItem) (priority : Priority) (key : Option String)
    {newId : JobId} (fresh : e.store.jobs.get? newId = none) :
    Between e (e.submitWithIdempotency p prompts priority key newId).1 [] [] := by
  have admitted : Between e (e.register p prompts priority key newId) [] [] := by
    have metrics : (e.register p prompts priority key newId).metrics =
        { e.metrics with
          jobsSubmitted := e.metrics.jobsSubmitted + 1
          queueDepth := (e.register p prompts priority key newId).metrics.queueDepth
          activeJobs := (e.register p prompts priority key newId).metrics.activeJobs
          concurrencyLimit := e.limiter.limit } := by
      unfold register ensureWorkers
      simp only [spawn_metrics]
      rfl
    refine between_quiet ?_ ?_ ?_ ?_ ?_ ?_
    · unfold durations
      rw [register_store, InMemoryJobStore.total_create _ e.store _ fresh]
      exact add_zero _
    all_goals rw [metrics]
    intro series
    cases series with
    | jobsSubmitted => exact Nat.le_succ _
    | _ => exact Nat.le_refl _
  have rejected : Between e e.reject [] [] := by
    refine between_quiet rfl rfl rfl rfl rfl ?_
    intro series
    cases series with
    | jobsRejected => exact Nat.le_succ _
    | _ => exact Nat.le_refl _
  unfold submitWithIdempotency
  dsimp only
  split
  · exact .refl e
  · split
    · split
      · exact .refl e
      · refine between_quiet rfl rfl rfl rfl rfl ?_
        intro series
        cases series with
        | idempotentReuse => exact Nat.le_succ _
        | _ => exact Nat.le_refl _
    · split
      · exact rejected
      · split
        · exact rejected
        · exact admitted

/-- The end of one job moves the durations by its own. -/
theorem durations_finalize {jobId : JobId} {job : Job} (found : e.store.get jobId = some job)
    (unfinished : isOpen job.state = true) (state : JobState) :
    durations (e.finalize jobId state) =
      durations e + timed (job.finish state e.wallTime) := by
  have moved := InMemoryJobStore.total_update (fun _ job => timed job) e.store found
    (Job.finish state e.wallTime)
  rw [timed_of_open unfinished, add_zero] at moved
  unfold durations
  rw [(finalize_frame jobId state e).1]
  exact moved

theorem between_abandoned {jobId : JobId} {job : Job} (found : e.store.get jobId = some job)
    (unfinished : isOpen job.state = true) :
    Between e (e.finalize jobId .cancelled) [] [] := by
  have same : (e.finalize jobId .cancelled).metrics = e.metrics := rfl
  refine between_quiet ?_ ?_ ?_ ?_ ?_ ?_
  · rw [durations_finalize found unfinished]
    exact add_zero _
  all_goals rw [same]
  exact fun _ => Nat.le_refl _

/-- A completed job is observed, since it was started. -/
theorem between_completed {jobId : JobId} {job : Job} (found : e.store.get jobId = some job)
    (unfinished : isOpen job.state = true) (started : job.startedAt ≠ none) :
    ∃ seconds, Between e (e.finalize jobId .completed) [] [seconds] := by
  obtain ⟨start, begins⟩ := Option.ne_none_iff_exists'.mp started
  have after : (e.finalize jobId .completed).store.get jobId =
      some (job.finish .completed e.wallTime) := by
    have read : e.store.jobs.get? jobId = some job := found
    rw [(finalize_frame jobId .completed e).1]
    unfold InMemoryJobStore.get
    rw [InMemoryJobStore.get?_update, if_pos rfl, read, Option.map_some]
  have taken : durationOf (job.finish .completed e.wallTime) =
      some (job.finishedAt.getD e.wallTime - start) := by
    unfold durationOf Job.finish
    simp only [Option.bind_some, begins, Option.map_some]
  have metrics : (e.finalize jobId .completed).metrics =
      { e.metrics with
        jobsCompleted := e.metrics.jobsCompleted + 1
        jobDuration := e.metrics.jobDuration.observe (job.finishedAt.getD e.wallTime - start) } := by
    have read : ((e.finalize jobId .completed).store.get jobId).bind durationOf =
        some (job.finishedAt.getD e.wallTime - start) := by
      rw [after, Option.bind_some, taken]
    unfold finalize at read ⊢
    unfold durationOf at read
    simp only [read, if_true]
  refine ⟨job.finishedAt.getD e.wallTime - start, ?_, ?_, ?_, ?_, ?_, ?_, ?_⟩
  · rw [metrics]
    rfl
  · rw [metrics]
    rfl
  · rw [metrics]
    rfl
  · rw [metrics]
    rfl
  · rw [durations_finalize found unfinished]
    congr 1
    unfold timed
    rw [taken]
    rfl
  · exact fun _ impossible => by cases impossible
  · intro series
    rw [metrics]
    cases series with
    | jobsCompleted => exact Nat.le_succ _
    | _ => exact Nat.le_refl _

theorem between_gauges (e : Engine) : Between e e.refreshGauges [] [] := by
  refine between_quiet rfl rfl rfl rfl rfl ?_
  intro series
  cases series <;> exact Nat.le_refl _

theorem between_filed {task : TaskId} {w : Worker} {f : InFlight} {job : Job} (begun : Begun e)
    (read : e.workers.get? task = some w) (asks : w.loc.asking = some f)
    (found : e.store.get f.jobId = some job) (result : InferenceResult) (cost : ℚ)
    (credited exhausted : Bool) :
    Between e (e.fileResult f result cost credited exhausted) [e.loopTime - f.start] [] where
  latency := rfl
  duration := rfl
  prompts := rfl
  jobs := rfl
  timed := by
    have moved := InMemoryJobStore.total_update (fun _ job => timed job) e.store found
      (Job.record f.item.seq result cost)
    rw [timed_record] at moved
    exact (add_right_cancel moved).trans (add_zero _).symm
  forward := by
    intro seconds member
    rw [List.mem_singleton.mp member]
    exact sub_nonneg.mpr (begun.past task w f read asks)
  counters := by
    intro series
    cases series with
    | promptsCompleted => exact Nat.le_succ _
    | promptsSucceeded => exact Nat.le_add_right _ _
    | promptsFailed => exact Nat.le_add_right _ _
    | retriesExhausted => exact Nat.le_add_right _ _
    | _ => exact Nat.le_refl _

theorem between_recorded {task : TaskId} {w : Worker} {f : InFlight} {job : Job} (begun : Begun e)
    (read : e.workers.get? task = some w) (asks : w.loc.asking = some f)
    (found : e.store.get f.jobId = some job) (result : InferenceResult) (cost : ℚ)
    (credited exhausted : Bool) :
    ∃ ended, Between e (e.record f result cost credited exhausted) [e.loopTime - f.start] ended := by
  have filed := between_filed begun read asks found result cost credited exhausted
  rcases record_cases f result cost credited exhausted e with same | ⟨running, ended⟩
  · rw [same]
    exact ⟨[], filed⟩
  · have recorded : (e.fileResult f result cost credited exhausted).store.get f.jobId =
        some (job.record f.item.seq result cost) := by
      have present : e.store.jobs.get? f.jobId = some job := found
      unfold fileResult InMemoryJobStore.get
      rw [InMemoryJobStore.get?_update, if_pos rfl, present, Option.map_some]
    have kept : (job.record f.item.seq result cost).state = job.state ∧
        (job.record f.item.seq result cost).startedAt = job.startedAt := by
      unfold Job.record
      dsimp only
      split <;> exact ⟨rfl, rfl⟩
    have state : job.state = .running := by
      have present : e.store.jobs.get? f.jobId = some job := found
      unfold stateOf at running
      rw [present, Option.map_some, Option.some.injEq] at running
      exact running
    obtain ⟨seconds, completed⟩ := between_completed recorded
      (by rw [kept.1, state]; rfl) (by rw [kept.2]; exact begun.started f.jobId job found)
    have all := (filed.trans completed).trans (between_gauges _)
    rw [ended]
    rw [List.append_nil, List.append_nil] at all
    exact ⟨[seconds], all⟩

theorem between_interrupted (e : Engine) : Between e e.interruptJobs [] [] := by
  have one : ∀ (e : Engine) (jobId : JobId), Between e (e.interruptJob jobId) [] [] := by
    intro e jobId
    unfold interruptJob
    split
    · exact .refl e
    · rename_i job found
      split
      · rename_i unfinished
        exact between_abandoned found unfinished
      · exact .refl e
  have all : ∀ (jobIds : List JobId) (e : Engine),
      Between e (jobIds.foldl interruptJob e) [] [] := by
    intro jobIds
    induction jobIds with
    | nil => exact .refl
    | cons jobId jobIds ih =>
        intro e
        exact (one e jobId).trans (ih (e.interruptJob jobId))
  exact (all e.store.jobs.keys e).congr rfl rfl

/-- Every step observes what it moves. -/
theorem between_of_step (begun : Begun e) (ledger : Ledger False events e)
    (step : Step p e label e' emitted) : ∃ latencies ended, Between e e' latencies ended := by
  cases step with
  | submitted label prompts priority key newId requested quiet named fresh =>
      exact ⟨[], [], between_submit prompts priority key fresh⟩
  | cancelled jobId job quiet found unfinished =>
      have ends := @between_abandoned { e with scheduler := (e.scheduler.removeJob jobId).1 }
        jobId job found unfinished
      have dropped : Between e { e with scheduler := (e.scheduler.removeJob jobId).1 } [] [] :=
        between_same rfl rfl
      have counted : Between (({ e with scheduler := (e.scheduler.removeJob jobId).1 } :
          Engine).finalize jobId .cancelled) (e.cancelOpen jobId) [] [] := by
        refine between_quiet rfl rfl rfl rfl rfl ?_
        intro series
        cases series with
        | jobsCancelled => exact Nat.le_succ _
        | _ => exact Nat.le_refl _
      exact ⟨[], [], (dropped.trans ends).trans counted⟩
  | worked task action w g flag loc emitted found lowered work =>
      suffices moved : ∃ latencies ended, Between e g latencies ended by
        obtain ⟨latencies, ended, between⟩ := moved
        exact ⟨latencies, ended, between.congr rfl rfl⟩
      cases work with
      | retried f before at_ alone reply jitter seconds settled =>
          refine ⟨[], [], between_quiet ?_ rfl rfl rfl rfl ?_⟩
          · exact InMemoryJobStore.total_update_same _ e.store f.jobId _ (fun _ => rfl)
          · intro series
            cases series with
            | inferenceRetries => exact Nat.le_succ _
            | inferenceRateLimited => exact Nat.le_succ _
            | _ => exact Nat.le_refl _
      | recorded f before at_ alone reply jitter result cost credited exhausted settled =>
          have asks : w.loc.asking = some f := by
            rw [at_]
            rfl
          obtain ⟨job, present⟩ := ledger.job_of_held (mem_held_of_asking found asks rfl)
          obtain ⟨ended, between⟩ :=
            between_recorded begun found asks present result cost credited exhausted
          exact ⟨_, ended, between⟩
      | _ =>
          refine ⟨[], [], between_quiet rfl rfl rfl rfl rfl ?_⟩
          intro series
          cases series <;> exact Nat.le_refl _
  | shutdownReturned ended phase => exact ⟨[], [], between_interrupted e⟩
  | _ => exact ⟨[], [], between_same rfl rfl⟩

/-! ### Scrapes of a run -/

theorem reachable_begun {ok : Engine → Label → Engine → Prop}
    (run : (engineMachine p).Reaches ok events e) : Begun e := by
  refine run_invariant run (fun _ e => Begun e) ?_ ?_
  · exact
      { started := fun _ _ impossible => by cases impossible
        past := fun _ _ _ impossible => by cases impossible }
  · intro _ _ _ _ _ begun loop _ step
    exact begun.next loop step

theorem between_of_run {ok : Engine → Label → Engine → Prop} {later : List Event}
    (before : (engineMachine p).Reaches ok events e)
    (run : Machine.Run (engineMachine p) ok e later e') :
    ∃ latencies ended, Between e e' latencies ended := by
  induction run with
  | refl => exact ⟨[], [], .refl e⟩
  | tail earlier admissible stepped ih =>
      obtain ⟨latencies, ended, between⟩ := ih
      have reached := before.trans earlier
      have ledger := reachable_ledger False (fun _ _ _ _ impossible => impossible.elim) reached
      obtain ⟨latencies', ended', last⟩ :=
        between_of_step (reachable_begun reached) ledger (step_cases stepped)
      exact ⟨_, _, between.trans last⟩

def durationBuckets : List ℚ := [1 / 10, 5 / 10, 1, 2, 5, 10, 30, 60, 120, 300]

/-- The histograms and the counters that belong to them: one latency for each prompt, and
the durations of the completed jobs of the store. -/
structure Scrape (e : Engine) (latencies ended : List ℚ) : Prop where
  latency : e.metrics.inferenceLatency = .holding defaultBuckets latencies
  prompts : e.metrics.promptsCompleted = latencies.length
  forward : ∀ seconds ∈ latencies, 0 ≤ seconds
  duration : e.metrics.jobDuration = .holding durationBuckets ended
  jobs : e.metrics.jobsCompleted = ended.length
  stored : durations e = (ended : Multiset ℚ)

theorem Scrape.next {latencies ended latencies' ended' : List ℚ} (scrape : Scrape e latencies ended)
    (between : Between e e' latencies' ended') :
    Scrape e' (latencies ++ latencies') (ended ++ ended') where
  latency := by rw [between.latency, scrape.latency, Histogram.observeAll_holding]
  prompts := by rw [between.prompts, scrape.prompts, List.length_append]
  forward := by
    intro seconds member
    exact (List.mem_append.mp member).elim (scrape.forward seconds) (between.forward seconds)
  duration := by rw [between.duration, scrape.duration, Histogram.observeAll_holding]
  jobs := by rw [between.jobs, scrape.jobs, List.length_append]
  stored := by rw [between.timed, scrape.stored, Multiset.coe_add]

theorem scrape_new (p : Params) : Scrape (Engine.new p) [] [] where
  latency := rfl
  prompts := rfl
  forward := fun _ impossible => by cases impossible
  duration := rfl
  jobs := rfl
  stored := rfl

/-- The lines of a histogram in the exposition do not fall and end with the count. -/
def Cumulative (h : Histogram) : Prop :=
  (h.samples.map Prod.snd).Pairwise (· ≤ ·) ∧ h.samples.getLast? = some (none, h.count)

theorem cumulative_holding {buckets : List ℚ} (sorted : buckets.Pairwise (· ≤ ·))
    (values : List ℚ) : Cumulative (.holding buckets values) :=
  ⟨Histogram.samples_rising sorted values, List.getLast?_concat⟩

theorem defaultBuckets_sorted : defaultBuckets.Pairwise (· ≤ ·) := by decide +kernel

theorem durationBuckets_sorted : durationBuckets.Pairwise (· ≤ ·) := by decide +kernel

/-- Every scrape of every run is sound, and the next one never goes back. The latencies are
one for each prompt and none is negative, the durations are those of the completed jobs, and
both histograms are cumulative; a later scrape has the same observations and more, so no
counter of events and no line of a histogram falls, nor does the sum of the latencies. -/
theorem scrapes_agree (p : Params) {events : List Event} {e : Engine}
    (run : (engineMachine p).Reaches Machine.anyStep events e) :
    ∃ latencies ended, Scrape e latencies ended ∧
      Cumulative e.metrics.inferenceLatency ∧ Cumulative e.metrics.jobDuration ∧
      ∀ later e', Machine.Run (engineMachine p) Machine.anyStep e later e' →
        (∃ latencies' ended', Scrape e' (latencies ++ latencies') (ended ++ ended')) ∧
        (∀ series : Series, series.value e.metrics ≤ series.value e'.metrics) ∧
        List.Forall₂ (· ≤ ·) (e.metrics.inferenceLatency.samples.map Prod.snd)
          (e'.metrics.inferenceLatency.samples.map Prod.snd) ∧
        List.Forall₂ (· ≤ ·) (e.metrics.jobDuration.samples.map Prod.snd)
          (e'.metrics.jobDuration.samples.map Prod.snd) ∧
        e.metrics.inferenceLatency.sum ≤ e'.metrics.inferenceLatency.sum := by
  obtain ⟨latencies, ended, between⟩ := between_of_run .refl run
  have scrape := (scrape_new p).next between
  rw [List.nil_append, List.nil_append] at scrape
  refine ⟨latencies, ended, scrape, ?_, ?_, ?_⟩
  · rw [scrape.latency]
    exact cumulative_holding defaultBuckets_sorted latencies
  · rw [scrape.duration]
    exact cumulative_holding durationBuckets_sorted ended
  · intro later e' more
    obtain ⟨latencies', ended', between'⟩ := between_of_run run more
    have scrape' := scrape.next between'
    refine ⟨⟨latencies', ended', scrape'⟩, between'.counters, ?_, ?_, ?_⟩
    · rw [scrape.latency, scrape'.latency]
      exact Histogram.samples_grow _ _ _
    · rw [scrape.duration, scrape'.duration]
      exact Histogram.samples_grow _ _ _
    · rw [scrape.latency, scrape'.latency]
      unfold Histogram.holding
      rw [List.sum_append]
      exact le_add_of_nonneg_right (List.sum_nonneg between'.forward)

/-- Two prompts, the first one answered after a second. -/
def oneAnswered : List Label :=
  [.submit [{ id := none, prompt := "x" }, { id := none, prompt := "y" }] .normal none "a",
    .work 0 .start, .work 0 .enter, .work 0 .take, .work 0 .gate, .work 0 .suspend, .tick 1 1,
    .work 0 (.reply (.returned "z") 0), .work 0 .leave]

/-- The other one is answered in time and completes the job. -/
def otherAnswered : List Label :=
  [.work 0 .enter, .work 0 .take, .work 0 .gate, .work 0 (.reply (.returned "z") 0)]

def scrapedTwice (opened : Engine) : Bool :=
  (Machine.exec (engineMachine singleWorker) (fun _ _ _ => true) opened otherAnswered).any
    (fun outcome => opened.metrics.inferenceLatency.counts == [0, 0, 0, 0, 0, 0, 0, 1, 1, 1, 1] &&
      outcome.2.metrics.inferenceLatency.counts == [1, 1, 1, 1, 1, 1, 1, 2, 2, 2, 2] &&
      opened.metrics.jobDuration.count == 0 && outcome.2.metrics.jobDuration.count == 1)

theorem scrapes_agree_twice :
    ∃ events e later e', (engineMachine singleWorker).Reaches Machine.anyStep events e ∧
      Machine.Run (engineMachine singleWorker) Machine.anyStep e later e' ∧
      e.metrics.inferenceLatency.counts = [0, 0, 0, 0, 0, 0, 0, 1, 1, 1, 1] ∧
      e'.metrics.jobDuration.count = 1 ∧ Cumulative e.metrics.inferenceLatency ∧
      List.Forall₂ (· ≤ ·) (e.metrics.inferenceLatency.samples.map Prod.snd)
        (e'.metrics.inferenceLatency.samples.map Prod.snd) := by
  rcases Machine.exists_anyRun_of_exec (engineMachine singleWorker)
      (engineMachine singleWorker).initial oneAnswered (fun outcome => scrapedTwice outcome.2)
      (by decide +kernel) with ⟨events, e, run, tested⟩
  obtain ⟨later, e', more, checked⟩ := Machine.exists_anyRun_of_exec
    (engineMachine singleWorker) e otherAnswered _ tested
  simp only [Bool.and_eq_true, beq_iff_eq] at checked
  obtain ⟨⟨⟨first, _⟩, _⟩, completed⟩ := checked
  obtain ⟨_, _, _, cumulative, _, goesOn⟩ := scrapes_agree singleWorker run
  obtain ⟨_, _, rising, _⟩ := goesOn later e' more
  exact ⟨events, e, later, e', run, more, first, completed, cumulative, rising⟩

end EngineScrapes
end BatchInference
