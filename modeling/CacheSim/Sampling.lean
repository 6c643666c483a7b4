import CacheSim.Decimal.Positional
import CacheSim.Hash.SplitMix

/-!
# Spatial sampling

A sample keeps the requests of some objects and drops those of all others.  An object belongs to
the sample if the low 24 bits of its hash lie below a threshold in proportion to the sampling
ratio; so either all requests of an object are kept or none.  Cache sizes are scaled by the same
ratio.
-/

namespace CacheSim

/-- A sample of the objects of a trace. -/
structure Sample where
  /-- The fraction of objects that are kept. -/
  ratio : Float
  /-- The hashes, of `2 ^ 24`, that are kept. -/
  threshold : UInt64

/-- A sampling ratio outside of `(0, 1]`. -/
structure BadRatio where
  /-- The ratio. -/
  ratio : Float

namespace BadRatio

/-- The text of the error. -/
def message (e : BadRatio) : String :=
  "Sampling ratio must be in (0, 1], got " ++ Decimal.positional e.ratio

end BadRatio

namespace Sample

/-- Whether a float lies in `(0, 1]`; a NaN does not. -/
def isRatio (ratio : Float) : Bool :=
  decide (0.0 < ratio) && decide (ratio ≤ 1.0)

/-- The number of hashes an object can have. -/
def modulus : UInt64 := 0x1000000

/-- The sample of a ratio. -/
def new (ratio : Float) : Except BadRatio Sample :=
  if isRatio ratio then .ok ⟨ratio, (ratio * modulus.toFloat + 0.5).toUInt64⟩
  else .error ⟨ratio⟩

/-- Whether an object belongs to the sample. -/
def keeps (s : Sample) (id : UInt64) : Bool :=
  splitMix id &&& (modulus - 1) < s.threshold

/-- The cache size, at least one, to be simulated in place of a nominal one. -/
def scale (s : Sample) (size : UInt64) : UInt64 :=
  max (size.toFloat * s.ratio).toUInt64 1

end Sample

end CacheSim
