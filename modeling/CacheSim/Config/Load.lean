import CacheSim.Config.Basic
import CacheSim.Json.Fields
import CacheSim.Json.Parser

/-!
# Configuration files

A configuration file is a JSON record of four records.  What is missing keeps its default.
-/

namespace CacheSim.Config

open Json (Value)
open Json.Value

/-- The simulation settings of a record. -/
def simulation? (v : Value) : Option SimulationSettings := do
  let fields ← v.fields?
    ["cache_sizes", "workers", "history_budget", "ignore_obj_size", "report_interval"]
  let standard : SimulationSettings := {}
  let cacheSizes ← getOr? (list? word?) standard.cacheSizes fields[0]?
  let workers ← getOr? (fun w => some <$> word? w) standard.workers fields[1]?
  let ghostBudget ← getOr? (nullable? word?) standard.ghostBudget fields[2]?
  let unitSizes ← getOr? bool? standard.unitSizes fields[3]?
  let reportInterval ← getOr? word? standard.reportInterval fields[4]?
  some ⟨cacheSizes, workers, ghostBudget, unitSizes, reportInterval⟩

/-- The policy settings of a record. -/
def policy? (v : Value) : Option PolicySettings := do
  let fields ← v.fields? ["kind", "count_percentile", "age_percentile", "history_window"]
  let standard : PolicySettings := {}
  let policy ← getOr? (name? Policy.ofName?) standard.policy fields[0]?
  let countPercentile ← getOr? float? standard.countPercentile fields[1]?
  let agePercentile ← getOr? float? standard.agePercentile fields[2]?
  let ghostWindow ← getOr? (nullable? word?) standard.ghostWindow fields[3]?
  some ⟨policy, countPercentile, agePercentile, ghostWindow⟩

/-- The trace settings of a record. -/
def trace? (v : Value) : Option TraceSettings := do
  let fields ← v.fields? ["path", "format", "skip_malformed", "sampling_ratio"]
  let standard : TraceSettings := {}
  let path ← getOr? (nullable? text?) standard.path fields[0]?
  let format ← getOr? (nullable? (name? Trace.Format.ofName?)) standard.format fields[1]?
  let skipMalformed ← getOr? bool? standard.skipMalformed fields[2]?
  let samplingRatio ← getOr? (nullable? float?) standard.samplingRatio fields[3]?
  some ⟨path, format, skipMalformed, samplingRatio⟩

/-- The output settings of a record. -/
def output? (v : Value) : Option OutputSettings := do
  let fields ← v.fields? ["results_path", "metrics_path"]
  let standard : OutputSettings := {}
  let resultsPath ← getOr? (nullable? text?) standard.resultsPath fields[0]?
  let metricsPath ← getOr? (nullable? text?) standard.metricsPath fields[1]?
  some ⟨resultsPath, metricsPath⟩

/-- The configuration of a record. -/
def ofJson? (v : Value) : Option Config := do
  let fields ← v.fields? ["simulation", "policy", "trace", "output"]
  let simulation ← getOr? simulation? {} fields[0]?
  let policy ← getOr? policy? {} fields[1]?
  let trace ← getOr? trace? {} fields[2]?
  let output ← getOr? output? {} fields[3]?
  some ⟨simulation, policy, trace, output⟩

/-- The configuration that a text stands for. -/
def parse? (text : String) : Option Config :=
  Json.parse? text >>= ofJson?

end CacheSim.Config
