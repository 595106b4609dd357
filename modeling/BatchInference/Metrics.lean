/-
The metric registry of app/metrics.py, without the exposition texts.

Counters of events are natural numbers. The registry is one object for the
whole process; the model starts it afresh together with the engine.
-/

import Mathlib.Algebra.Order.Field.Rat

set_option autoImplicit false

namespace BatchInference

/-- Every bucket whose edge is not below the value counts the observation. -/
structure Histogram where
  buckets : List ℚ
  counts : List Nat
  sum : ℚ := 0
  count : Nat := 0

def Histogram.new (buckets : List ℚ) : Histogram :=
  { buckets := buckets
    counts := buckets.map (fun _ => 0) }

def Histogram.observe (value : ℚ) (h : Histogram) : Histogram :=
  { h with
    sum := h.sum + value
    count := h.count + 1
    counts := List.zipWith (fun edge old => if value ≤ edge then old + 1 else old)
      h.buckets h.counts }

def defaultBuckets : List ℚ :=
  [5 / 1000, 1 / 100, 25 / 1000, 5 / 100, 1 / 10, 25 / 100, 5 / 10, 1, 25 / 10, 5, 10]

structure Metrics where
  jobsSubmitted : Nat := 0
  jobsRejected : Nat := 0
  jobsCompleted : Nat := 0
  jobsCancelled : Nat := 0
  promptsCompleted : Nat := 0
  promptsSucceeded : Nat := 0
  promptsFailed : Nat := 0
  inferenceRetries : Nat := 0
  inferenceRateLimited : Nat := 0
  retriesExhausted : Nat := 0
  idempotentReuse : Nat := 0
  costUsd : ℚ := 0
  tokens : Int := 0
  queueDepth : Int := 0
  activeJobs : Int := 0
  inflight : Int := 0
  concurrencyLimit : Int := 0
  inferenceLatency : Histogram := Histogram.new defaultBuckets
  jobDuration : Histogram := Histogram.new [1 / 10, 5 / 10, 1, 2, 5, 10, 30, 60, 120, 300]

end BatchInference
