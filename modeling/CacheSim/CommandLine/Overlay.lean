import CacheSim.CommandLine.Grammar
import CacheSim.Config.Basic

/-!
# Command lines over configurations
-/

namespace CacheSim.CommandLine

/-- The configuration with everything that the command line says in the place of what it said
before. -/
def Arguments.overlay (a : Arguments) (c : Config) : Config where
  simulation := { c.simulation with
    cacheSizes := if a.cacheSizes.isEmpty then c.simulation.cacheSizes else a.cacheSizes
    workers := a.workers.or c.simulation.workers
    unitSizes := a.ignoreObjSize || c.simulation.unitSizes }
  policy := { c.policy with policy := a.policy.getD c.policy.policy }
  trace := { c.trace with
    path := a.trace.or c.trace.path
    format := a.format.or c.trace.format
    samplingRatio := (a.samplingRatio.map Float.ofBits).or c.trace.samplingRatio }
  output := {
    resultsPath := a.output.or c.output.resultsPath
    metricsPath := a.metricsOut.or c.output.metricsPath }

end CacheSim.CommandLine
