/-!
# The SplitMix64 finaliser

A fixed scrambling of 64-bit words: an offset, two multiplications by odd constants and three
xor-shifts.  Every step can be undone, so no two words share a hash.  Tree balance and trace
sampling both draw their well-spread bits from here, which makes them the same in every run.
-/

namespace CacheSim

/-- The SplitMix64 finaliser of a word. -/
def splitMix (x : UInt64) : UInt64 :=
  let z := x + 0x9E3779B97F4A7C15
  let z := (z ^^^ (z >>> 30)) * 0xBF58476D1CE4E5B9
  let z := (z ^^^ (z >>> 27)) * 0x94D049BB133111EB
  z ^^^ (z >>> 31)

end CacheSim
