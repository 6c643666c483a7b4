import CacheSim.RankTree.Basic
import CacheSim.Word

/-!
# Ages of a population

The ages of a population at a given time, read off the times at which its members entered.  The
oldest member entered first, so percentile `p` of the ages is taken at percentile `1 - p` of the
entry times.
-/

namespace CacheSim

/-- The entry times of a population, seen from a point in time. -/
structure Ages where
  /-- When the members entered. -/
  entered : RankTree UInt64
  /-- The time the ages refer to. -/
  now : UInt64

namespace Ages

/-- The number of members. -/
def size (a : Ages) : Nat :=
  a.entered.size

/-- Whether there are no members. -/
def isEmpty (a : Ages) : Bool :=
  a.entered.isEmpty

/-- The age at percentile `p`.  Members that enter after `now` have age zero, and without members
the answer is `now` itself. -/
def percentile (a : Ages) (p : Float) : UInt64 :=
  Word.monus a.now (a.entered.percentile (clampUnit (1.0 - p)))

end Ages

end CacheSim
