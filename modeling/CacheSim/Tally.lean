import CacheSim.Decimal.Fixed
import CacheSim.Json.Printer
import CacheSim.Text.Padding
import CacheSim.Word

/-!
# Counters of a simulated cache

A `Tally` counts the requests, misses, evictions and bytes of one simulated cache.  Counting is
exact: a counter that would leave the range of a word stops the run.
-/

namespace CacheSim

/-- The counters of one simulated cache. -/
structure Tally where
  /-- The cache size that is reported on. -/
  cacheSize : UInt64 := 0
  /-- The capacity that is simulated; it differs from `cacheSize` when the trace is sampled. -/
  simulatedSize : UInt64 := 0
  /-- The requests. -/
  requests : UInt64 := 0
  /-- The requests for objects that were not cached. -/
  misses : UInt64 := 0
  /-- The bytes of all requests. -/
  requestBytes : UInt64 := 0
  /-- The bytes of all misses. -/
  missBytes : UInt64 := 0
  /-- The evicted objects. -/
  evictions : UInt64 := 0
  /-- The misses for objects that are larger than the whole cache and are never admitted. -/
  bypasses : UInt64 := 0
  deriving DecidableEq

namespace Tally

/-- Counts a request of `size` bytes. -/
def countRequest (t : Tally) (size : UInt64) : Except Fault Tally := do
  let requests ← Word.add t.requests 1
  let requestBytes ← Word.add t.requestBytes size
  .ok { t with requests := requests, requestBytes := requestBytes }

/-- Counts a miss of `size` bytes. -/
def countMiss (t : Tally) (size : UInt64) : Except Fault Tally := do
  let misses ← Word.add t.misses 1
  let missBytes ← Word.add t.missBytes size
  .ok { t with misses := misses, missBytes := missBytes }

/-- Counts a miss whose object is not admitted. -/
def countBypass (t : Tally) : Except Fault Tally := do
  let bypasses ← Word.add t.bypasses 1
  .ok { t with bypasses := bypasses }

/-- Counts an eviction. -/
def countEviction (t : Tally) : Except Fault Tally := do
  let evictions ← Word.add t.evictions 1
  .ok { t with evictions := evictions }

/-- The quotient of two counters as a float, or zero if nothing was counted. -/
def ratio (part whole : UInt64) : Float :=
  if whole = 0 then 0.0 else part.toFloat / whole.toFloat

/-- The fraction of requests that missed. -/
def missRatio (t : Tally) : Float :=
  ratio t.misses t.requests

/-- The fraction of requested bytes that missed. -/
def byteMissRatio (t : Tally) : Float :=
  ratio t.missBytes t.requestBytes

/-- The line that reports the counters. -/
def report (t : Tally) : String :=
  "cache size " ++ Text.padLeft 12 (toString t.cacheSize) ++
    ", req " ++ Text.padLeft 10 (toString t.requests) ++
    ", miss " ++ Text.padLeft 10 (toString t.misses) ++
    ", miss ratio " ++ Decimal.fixed 4 t.missRatio ++
    ", byte miss ratio " ++ Decimal.fixed 4 t.byteMissRatio

/-- The counters as a JSON object. -/
def toJson (t : Tally) : Json.Value :=
  .object [
    ("cache_size", .ofWord t.cacheSize),
    ("simulated_size", .ofWord t.simulatedSize),
    ("n_req", .ofWord t.requests),
    ("n_miss", .ofWord t.misses),
    ("n_req_byte", .ofWord t.requestBytes),
    ("n_miss_byte", .ofWord t.missBytes),
    ("n_evictions", .ofWord t.evictions),
    ("n_bypass", .ofWord t.bypasses)]

end Tally

end CacheSim
