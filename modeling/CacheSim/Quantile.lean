/-!
# Positions of percentiles

A percentile of a sorted population is the element at a position computed from a binary64
fraction. The fraction may be any float: values outside `[0, 1]` are clamped and a NaN means the
first position.
-/

namespace CacheSim

/-- A fraction moved into `[0, 1]`; a NaN stays a NaN. -/
def clampUnit (p : Float) : Float :=
  if p < 0.0 then 0.0 else if 1.0 < p then 1.0 else p

/-- Whether a float lies in `[0, 1]`; a NaN does not. -/
def isFraction (p : Float) : Bool :=
  decide (0.0 ≤ p) && decide (p ≤ 1.0)

/-- The position of percentile `p` among `n` sorted elements: `p` times `n`, rounded towards zero
and never beyond the last element. -/
def quantileIndex (p : Float) (n : Nat) : Nat :=
  min (clampUnit p * (UInt64.ofNat n).toFloat).toUInt64.toNat (n - 1)

theorem quantileIndex_lt (p : Float) {n : Nat} (h : 0 < n) : quantileIndex p n < n := by
  unfold quantileIndex
  omega

end CacheSim
