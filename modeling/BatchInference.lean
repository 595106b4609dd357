import BatchInference.SchedulerThroughput
import BatchInference.SchedulerStarvation
import BatchInference.EngineRate
import BatchInference.EngineConserving
import BatchInference.EngineItems
import BatchInference.EngineIdempotency
import BatchInference.EngineCompletion
import BatchInference.EngineOutcomes
import BatchInference.RetryLoop
import BatchInference.TokenBucketRuns
import BatchInference.LimiterStreak
import BatchInference.SchedulerContents
import BatchInference.SchedulerRemoval
import BatchInference.EngineRoster
import BatchInference.EngineAdmission
import BatchInference.EngineShutdown
import BatchInference.EngineAccounting
import BatchInference.EngineThrottles
import BatchInference.EventStreamRuns
import BatchInference.EngineOrigins
import BatchInference.EngineAttempts
import BatchInference.EngineIsolation
import BatchInference.EngineCancel
import BatchInference.EngineTallies
import BatchInference.EngineReplay
import BatchInference.EngineLimitGauge
import BatchInference.BackoffOverflow
import BatchInference.Endpoints
import BatchInference.PromptIds
import BatchInference.SelfTestReport
import BatchInference.EngineWinddown
import BatchInference.EngineCalls
import BatchInference.Lib.Pages
import BatchInference.Service
import BatchInference.ServiceReads
import BatchInference.ServiceListings
import BatchInference.ServiceAccess
import BatchInference.ServiceSnapshots
import BatchInference.Providers
import BatchInference.ProvidersRuns
import BatchInference.Lib.RoundRobin
import BatchInference.SchedulerRounds
import BatchInference.Lib.JsonText
import BatchInference.Fingerprint
import BatchInference.EventStreamText
import BatchInference.EngineScrapes
