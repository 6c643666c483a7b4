import CacheSim.Metrics
import CacheSim.Simulation

/-!
# Simulations at several cache sizes

A sweep simulates every configured cache size by itself.  The simulations may finish in any
order; they are reported in the order of their cache sizes.

The simulations are shared out among workers.  How many workers there are makes no difference to
the report, but a sweep with more of them than can be counted does not start.
-/

namespace CacheSim

/-- A finished simulation. -/
structure Finished where
  /-- The id of the simulation. -/
  runId : String := "-"
  /-- The nominal cache size. -/
  cacheSize : UInt64
  /-- The counters, or why there are none. -/
  outcome : Except RunError Tally
  /-- How long it took. -/
  elapsedMs : UInt64 := 0

/-- What is reported of one simulation. -/
structure RunReport where
  /-- The id of the simulation. -/
  runId : String
  /-- The policy. -/
  policy : String
  /-- The nominal cache size. -/
  cacheSize : UInt64
  /-- The sampling ratio of the trace. -/
  samplingRatio : Option Float
  /-- The counters, if there are any. -/
  tally : Option Tally
  /-- The error, if there is one. -/
  error : Option String
  /-- How long it took. -/
  elapsedMs : UInt64

namespace RunReport

/-- The line that reports a simulation. -/
def line (r : RunReport) : Option String :=
  match r.tally, r.error with
  | some tally, _ => some (Text.padRight 16 r.policy ++ " " ++ tally.report)
  | none, some error =>
    some (Text.padRight 16 r.policy ++ " cache size " ++ Text.padLeft 12 (toString r.cacheSize) ++
      ", failed: " ++ error)
  | none, none => none

/-- The report as a JSON object. -/
def toJson (r : RunReport) : Json.Value :=
  .object [
    ("run_id", .ofText r.runId),
    ("policy", .ofText r.policy),
    ("cache_size", .ofWord r.cacheSize),
    ("sampling_ratio", .ofOption .ofFloat r.samplingRatio),
    ("stats", .ofOption Tally.toJson r.tally),
    ("error", .ofOption .ofText r.error),
    ("elapsed_ms", .ofWord r.elapsedMs)]

end RunReport

/-- What a sweep results in. -/
structure SweepReport where
  /-- The simulations, smallest cache first. -/
  runs : List RunReport
  /-- The counters of all simulations with a result. -/
  metrics : Metrics

/-- The largest number of workers that can be counted. -/
def Sweep.maxWorkers : Nat := 1 <<< 61 - 1

/-- Why a sweep does not start. -/
inductive SweepError where
  /-- There are more workers than can be counted. -/
  | tooManyWorkers
  deriving DecidableEq

namespace SweepError

/-- The text of the error. -/
def message : SweepError → String
  | tooManyWorkers =>
    "a semaphore may not have more than MAX_PERMITS permits (" ++ toString Sweep.maxWorkers ++ ")"

end SweepError

namespace Sweep

/-- Checks that the workers can be counted. -/
def checkWorkers (settings : SimulationSettings) : Except SweepError Unit :=
  match settings.workers with
  | none => .ok ()
  | some workers => if workers.toNat ≤ maxWorkers then .ok () else .error .tooManyWorkers

/-- What is reported of a finished simulation. -/
def report (policy : Policy) (samplingRatio : Option Float) (f : Finished) : RunReport where
  runId := f.runId
  policy := policy.name
  cacheSize := f.cacheSize
  samplingRatio := samplingRatio
  tally := f.outcome.toOption
  error :=
    match f.outcome with
    | .ok _ => none
    | .error e => some e.message
  elapsedMs := f.elapsedMs

/-- Adds a finished simulation to the metrics, if it has a result. -/
def recordFinished (policy : Policy) (m : Metrics) (f : Finished) : Metrics :=
  match f.outcome with
  | .ok tally => m.record policy.name tally
  | .error _ => m

/-- The report on simulations that finished in a given order. -/
def collect (policy : Policy) (samplingRatio : Option Float) (finished : List Finished) :
    SweepReport where
  runs := (finished.map (report policy samplingRatio)).mergeSort fun a b =>
    decide (a.cacheSize ≤ b.cacheSize)
  metrics := finished.foldl (recordFinished policy) .empty

/-- The report on all configured cache sizes. -/
def run (settings : SimulationSettings) (policy : PolicySettings) (sample : Option Sample)
    (requests : List Request) : Except SweepError SweepReport := do
  checkWorkers settings
  .ok <| collect policy.policy (sample.map Sample.ratio) <|
    settings.cacheSizes.map fun size =>
      { cacheSize := size, outcome := Simulation.run settings policy sample requests size }

end Sweep

end CacheSim
