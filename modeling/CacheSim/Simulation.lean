import CacheSim.Cache
import CacheSim.Sampling

/-!
# Simulations

A simulation builds a cache from settings and replays a trace on it.  If the trace is a sample,
the capacity and an explicit budget for ghosts are scaled by the sampling ratio.  Without an
explicit budget, ghosts may take as many bytes as the cache.
-/

namespace CacheSim

/-- How caches are simulated. -/
structure SimulationSettings where
  /-- The cache sizes to be simulated, in bytes. -/
  cacheSizes : List UInt64 := [0x4000000, 0x10000000, 0x40000000]
  /-- How many simulations may run at once; if it is not given, as many as there are processors. -/
  workers : Option UInt64 := none
  /-- The bytes of evicted objects that are remembered. -/
  ghostBudget : Option UInt64 := none
  /-- Whether every object counts as one byte. -/
  unitSizes : Bool := false
  /-- After how many requests progress is reported; zero for never. -/
  reportInterval : UInt64 := 0

/-- Why a simulation has no result. -/
inductive RunError where
  /-- It cannot be set up. -/
  | setup (e : SetupError)
  /-- The cache cannot go on. -/
  | refused (r : Refusal)

namespace RunError

/-- The text of the error. -/
def message : RunError → String
  | setup e => "Engine error: " ++ e.message
  | refused (.fault f) => "Simulation task failed: " ++ f.message
  | refused r => r.message

end RunError

namespace Simulation

/-- A size to be simulated in place of a nominal one. -/
def scaled (sample : Option Sample) (size : UInt64) : UInt64 :=
  match sample with
  | none => size
  | some s => s.scale size

/-- The cache that simulates a nominal size. -/
def build (settings : SimulationSettings) (policy : PolicySettings) (sample : Option Sample)
    (cacheSize : UInt64) : Except SetupError Cache := do
  let capacity := scaled sample cacheSize
  let ghostBudget := (settings.ghostBudget.map (scaled sample)).getD capacity
  let scorer ← policy.scorer
  let roster ← Roster.new scorer ghostBudget
  .ok ((Cache.new capacity roster settings.unitSizes).withNominalSize cacheSize)

/-- The counters after a trace has been replayed at one cache size. -/
def run (settings : SimulationSettings) (policy : PolicySettings) (sample : Option Sample)
    (requests : List Request) (cacheSize : UInt64) : Except RunError Tally := do
  let cache ← (build settings policy sample cacheSize).mapError .setup
  let cache ← (cache.replay requests).mapError .refused
  .ok cache.tally

end Simulation

end CacheSim
