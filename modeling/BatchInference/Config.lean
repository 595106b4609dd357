/-
The settings of app/config.py that the modelled functions read.

Environment variables parse to integers and floats without any validation, so
every integer and every rational is possible for its field.
-/

import Mathlib.Algebra.Order.Field.Rat

set_option autoImplicit false

namespace BatchInference

structure Settings where
  workerPoolSize : Int := 16
  maxQueueSize : Int := 10000
  globalMaxConcurrency : Int := 64
  adaptiveMinConcurrency : Int := 4
  adaptiveIncreaseAfter : Int := 5
  adaptiveDecreaseFactor : ℚ := 4 / 5
  providerMaxRps : ℚ := 0
  providerBurst : ℚ := 0
  costPer1kInputTokens : ℚ := 15 / 100000
  costPer1kOutputTokens : ℚ := 6 / 10000
  charsPerToken : ℚ := 4
  maxActiveJobs : Int := 50
  overloadRetryAfterSeconds : Int := 5
  maxRetries : Int := 5
  backoffBaseSeconds : ℚ := 1 / 5
  backoffMaxSeconds : ℚ := 10
  backoffJitter : ℚ := 1 / 10

end BatchInference
