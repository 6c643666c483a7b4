import CacheSim.Ages
import CacheSim.GhostLog
import CacheSim.Resident
import CacheSim.Text.Quoted
import CacheSim.VictimQueue

/-!
# Scoring

An eviction policy is a function from the features of one object, seen against the whole cached
population and the ghosts of evicted objects, to an integer priority.  Priorities are computed
when an object is admitted or hit, and are not recomputed in between.

Composite policies divide the integers into bands of width `2 ^ 64`.  The band carries the coarse
decision of the policy and the offset within the band is the time of the last access, so that
objects of one band are evicted in order of recency.
-/

namespace CacheSim

/-- What a scorer looks at. -/
structure Scene where
  /-- The time. -/
  now : UInt64
  /-- The object to be scored. -/
  id : ObjectId
  /-- Its features. -/
  profile : Profile
  /-- The access counts of all cached objects. -/
  counts : RankTree UInt32
  /-- The admission times of all cached objects. -/
  entered : RankTree UInt64
  /-- The sizes of all cached objects. -/
  sizes : RankTree UInt64
  /-- The objects evicted before. -/
  ghosts : GhostLog

namespace Scene

/-- The ages of all cached objects. -/
def ages (s : Scene) : Ages := ⟨s.entered, s.now⟩

end Scene

/-- A named priority function. -/
structure Scorer where
  /-- The name of the policy. -/
  name : String
  /-- The priority of the object of a scene. -/
  priority : Scene → Except Fault Priority

/-- The priority at offset `time` of a band. -/
def banded (band : Int) (time : UInt64) : Int :=
  band * UInt64.size + time.toNat

/-- The width of a band is `2 ^ 64`. -/
theorem banded_eq (band : Int) (time : UInt64) :
    banded band time = 18446744073709551616 * band + time.toNat := by
  rw [Int.mul_comm]
  rfl

/-- Of two banded priorities the one in the lower band is smaller; within a band the earlier one
is. -/
theorem banded_lt_banded_iff {b b' : Int} {t t' : UInt64} :
    banded b t < banded b' t' ↔ b < b' ∨ b = b' ∧ t.toNat < t'.toNat := by
  have h := t.toNat_lt
  have h' := t'.toNat_lt
  rw [banded_eq, banded_eq]
  omega

namespace Scorer

/-- A description of a scorer that is not in the catalogue. -/
def describe (s : Scorer) : String :=
  "FnScorer \x7b name: " ++ Text.quoted s.name ++ " \x7d"

/-- Least recently used first. -/
def lru : Scorer :=
  ⟨"lru", fun s => .ok s.profile.lastAccess.toNat⟩

/-- Most recently used first. -/
def mru : Scorer :=
  ⟨"mru", fun s => .ok (-s.profile.lastAccess.toNat)⟩

/-- In order of admission. -/
def fifo : Scorer :=
  ⟨"fifo", fun s => .ok s.profile.entered.toNat⟩

/-- Least frequently used first. -/
def lfu : Scorer :=
  ⟨"lfu", fun s => .ok s.profile.accesses.toNat⟩

/-- Least frequently used first, and among equal counts the least recently used. -/
def lfuLru : Scorer :=
  ⟨"lfu-lru", fun s => .ok (banded s.profile.accesses.toNat s.profile.lastAccess)⟩

/-- Objects with fewer accesses than percentile `p` of the population first. -/
def percentileLfu (p : Float) : Scorer :=
  ⟨"percentile-lfu", fun s =>
    .ok (banded (if s.profile.accesses < s.counts.percentile p then 0 else 1)
      s.profile.lastAccess)⟩

/-- Whether an object comes back shortly after its eviction: within the last `window` bytes of
evictions, or, without a window, while its ghost is remembered. -/
def isReturning (window : Option UInt64) (s : Scene) : Except Fault Bool :=
  match window with
  | some bytes => s.ghosts.withinLast s.id bytes
  | none => .ok (s.ghosts.contains s.id)

/-- Objects that did not come back shortly after an eviction first. -/
def ghostLru (window : Option UInt64) : Scorer :=
  ⟨"ghost-lru", fun s => do
    let returning ← isReturning window s
    .ok (banded (if returning then 1 else 0) s.profile.lastAccess)⟩

/-- The number of classes into which sizes are divided. -/
def sizeClasses : Nat := 10

/-- The size class of an object: the tenth of the population below it, from 0 to 9. -/
def sizeClass (sizes : RankTree UInt64) (size : UInt64) : Nat :=
  min (sizes.rank size * sizeClasses / max sizes.size 1) (sizeClasses - 1)

/-- Objects of larger size classes first. -/
def largestFirst : Scorer :=
  ⟨"largest-first", fun s =>
    .ok (banded (sizeClasses - 1 - sizeClass s.sizes s.profile.size) s.profile.lastAccess)⟩

/-- Objects at least as old as percentile `p` of the ages first. -/
def ageGated (p : Float) : Scorer :=
  ⟨"age-gated", fun s =>
    .ok (banded (if s.ages.percentile p ≤ s.profile.age s.now then 0 else 1)
      s.profile.lastAccess)⟩

end Scorer

end CacheSim
