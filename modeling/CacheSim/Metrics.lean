import Std.Data.TreeMap
import CacheSim.Hash.Fnv
import CacheSim.Tally

/-!
# Metrics

The counters of finished simulations, added up per policy and cache size, and their text in the
Prometheus exposition format.  Sums wrap around.

A series is found by the hash of its label values run together: the policy, then the cache size in
decimal.  Simulations whose label values share a hash share a series, under the label values that
came first.
-/

namespace CacheSim

/-- The sums of one series, and the miss ratio of the simulation recorded last. -/
structure SeriesTotals where
  requests : UInt64 := 0
  misses : UInt64 := 0
  requestBytes : UInt64 := 0
  missBytes : UInt64 := 0
  evictions : UInt64 := 0
  missRatio : Float := 0.0

namespace SeriesTotals

/-- The sums with a further simulation. -/
def add (s : SeriesTotals) (t : Tally) : SeriesTotals where
  requests := s.requests + t.requests
  misses := s.misses + t.misses
  requestBytes := s.requestBytes + t.requestBytes
  missBytes := s.missBytes + t.missBytes
  evictions := s.evictions + t.evictions
  missRatio := t.missRatio

end SeriesTotals

/-- The simulations of one policy at one cache size. -/
structure Series where
  /-- The policy. -/
  policy : String
  /-- The cache size in decimal. -/
  cacheSize : String
  /-- The sums. -/
  totals : SeriesTotals

namespace Series

/-- Whether a series is listed before another: by the text of the cache size, then by the policy. -/
def isListedBefore (a b : Series) : Bool :=
  ((compare a.cacheSize b.cacheSize).then (compare a.policy b.policy)).isLE

end Series

/-- The recorded simulations by series. -/
structure Metrics where
  /-- The series by the hashes of their label values. -/
  series : Std.TreeMap UInt64 Series

namespace Metrics

/-- No simulations. -/
def empty : Metrics := ⟨∅⟩

/-- The hash by which a series is found. -/
def seriesHash (policy cacheSize : String) : UInt64 :=
  fnv (policy ++ cacheSize).toUTF8.toList

/-- Adds the counters of a simulation. -/
def record (m : Metrics) (policy : String) (t : Tally) : Metrics :=
  let cacheSize := toString t.cacheSize
  let key := seriesHash policy cacheSize
  let series := (m.series[key]?).getD ⟨policy, cacheSize, {}⟩
  ⟨m.series.insert key { series with totals := series.totals.add t }⟩

/-- What a family of series shows. -/
structure Family where
  /-- The name of the metric. -/
  name : String
  /-- What it means. -/
  help : String
  /-- Its kind. -/
  kind : String
  /-- The value of a series. -/
  value : SeriesTotals → Float

/-- The families in the order of their names. -/
def families : List Family := [
  ⟨"evict_sim_evictions_total", "Objects evicted", "counter", fun t => t.evictions.toFloat⟩,
  ⟨"evict_sim_miss_bytes_total", "Bytes that missed", "counter", fun t => t.missBytes.toFloat⟩,
  ⟨"evict_sim_miss_ratio", "Final request miss ratio", "gauge", fun t => t.missRatio⟩,
  ⟨"evict_sim_misses_total", "Requests that missed", "counter", fun t => t.misses.toFloat⟩,
  ⟨"evict_sim_request_bytes_total", "Bytes requested", "counter",
    fun t => t.requestBytes.toFloat⟩,
  ⟨"evict_sim_requests_total", "Requests replayed", "counter", fun t => t.requests.toFloat⟩]

/-- The series in the order in which they are listed. -/
def listed (m : Metrics) : List Series :=
  m.series.values.mergeSort Series.isListedBefore

/-- The number of families that have any series. -/
def familyCount (m : Metrics) : Nat :=
  if m.series.isEmpty then 0 else families.length

/-- A character as it stands in a label value. -/
def escapeChar (c : Char) : List Char :=
  if c = '\\' then ['\\', '\\']
  else if c = '\x22' then ['\\', '\x22']
  else if c = '\n' then ['\\', 'n']
  else [c]

/-- A label with its value. -/
def label (name value : String) : String :=
  name ++ "=" ++ String.ofList ('\x22' :: value.toList.flatMap escapeChar ++ ['\x22'])

/-- The line of a series in a family. -/
def Family.line (f : Family) (s : Series) : String :=
  f.name ++ "\x7b" ++ label "cache_size" s.cacheSize ++ "," ++ label "policy" s.policy ++ "\x7d " ++
    Decimal.positional (f.value s.totals) ++ "\n"

/-- The lines of a family. -/
def Family.text (f : Family) (series : List Series) : String :=
  "# HELP " ++ f.name ++ " " ++ f.help ++ "\n# TYPE " ++ f.name ++ " " ++ f.kind ++ "\n" ++
    String.join (series.map f.line)

/-- The text of all families that have any series. -/
def text (m : Metrics) : String :=
  if m.series.isEmpty then "" else String.join (families.map fun f => f.text m.listed)

end Metrics

end CacheSim
