import CacheSim.Simulation
import CacheSim.Trace.FileName

/-!
# Configurations

A `Config` says what is simulated: the caches, the policy, the trace and where the results go.
`Config.check` refuses configurations that cannot lead to a meaningful simulation; where several
things are wrong, it reports the first one in the order in which they are listed in `ConfigError`.
-/

namespace CacheSim

/-- Which trace is read, and how. -/
structure TraceSettings where
  /-- The file. -/
  path : Option String := none
  /-- The format; if it is not given, the file name tells. -/
  format : Option Trace.Format := none
  /-- Whether malformed lines are skipped. -/
  skipMalformed : Bool := false
  /-- The fraction of objects whose requests are simulated. -/
  samplingRatio : Option Float := none

/-- Where results go. -/
structure OutputSettings where
  /-- The file for the results. -/
  resultsPath : Option String := none
  /-- The file for the metrics. -/
  metricsPath : Option String := none

/-- What is simulated. -/
structure Config where
  simulation : SimulationSettings := {}
  policy : PolicySettings := {}
  trace : TraceSettings := {}
  output : OutputSettings := {}

/-- What is wrong with a configuration. -/
inductive ConfigError where
  | noCacheSizes
  | zeroCacheSize
  | noWorkers
  | zeroGhostBudget
  | badSamplingRatio (ratio : Float)
  | badPolicyParameter (name : String) (value : Float)
  | noTrace

namespace ConfigError

/-- The text of the error. -/
def message : ConfigError → String
  | noCacheSizes => "No cache sizes configured"
  | zeroCacheSize => "Cache size must be positive"
  | noWorkers => "Worker count must be positive"
  | zeroGhostBudget => "History budget must be positive"
  | badSamplingRatio ratio => (BadRatio.mk ratio).message
  | badPolicyParameter name value =>
    "Policy parameter " ++ name ++ " must be in [0, 1], got " ++ Decimal.positional value
  | noTrace => "No trace file given (use --trace or trace.path)"

end ConfigError

namespace Config

/-- Fails with an error unless a condition holds. -/
def require (holds : Bool) (e : ConfigError) : Except ConfigError Unit :=
  if holds then .ok () else .error e

/-- Checks that a configuration can be simulated. -/
def check (c : Config) : Except ConfigError Unit := do
  require (!c.simulation.cacheSizes.isEmpty) .noCacheSizes
  require (!c.simulation.cacheSizes.contains 0) .zeroCacheSize
  require (c.simulation.workers != some 0) .noWorkers
  require (c.simulation.ghostBudget != some 0) .zeroGhostBudget
  match c.trace.samplingRatio with
  | some ratio => require (Sample.isRatio ratio) (.badSamplingRatio ratio)
  | none => .ok ()
  require (isFraction c.policy.countPercentile)
    (.badPolicyParameter "count_percentile" c.policy.countPercentile)
  require (isFraction c.policy.agePercentile)
    (.badPolicyParameter "age_percentile" c.policy.agePercentile)
  require c.trace.path.isSome .noTrace

end Config

end CacheSim
