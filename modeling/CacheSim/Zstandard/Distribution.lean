import CacheSim.Zstandard.Bits

/-!
# Distributions of symbols

A distribution shares out `2 ^ log` points among symbols: the more points, the more often a symbol
is expected.  A rare symbol has less than one point, written as -1, but takes up a whole one.

In bytes, the points of the symbols stand one after the other.  As many bits are used as the points
that are left can need.  After a symbol without points comes the number of further ones.
-/

namespace CacheSim.Zstandard

/-- A distribution of symbols. -/
structure Distribution where
  /-- The points are shared out to `2 ^ log`. -/
  log : Nat
  /-- The points of each symbol, or -1. -/
  points : List Int

namespace Distribution

/-- A number of at most `most`.  The lowest numbers take one bit less than the others, so that no
bit pattern is left over. -/
def readAtMost? (most : Nat) (bits : UpwardBits) : Option (Nat × UpwardBits) := do
  let width := Nat.log2 most
  let half := 1 <<< width
  let short := 2 * half - 1 - most
  let (low, bits) ← bits.read? width
  if low < short then some (low, bits)
  else
    let (high, bits) ← bits.read? 1
    let n := low + half * high
    some (if n < half then n else n - short, bits)

/-- How many symbols without points follow, of at most `room`: three for every full pair of bits,
and as many as the last pair says. -/
def readGap? : Nat → UpwardBits → Option (Nat × UpwardBits)
  | room, bits => do
    let (n, bits) ← bits.read? 2
    if n < 3 then some (n, bits)
    else
      match room with
      | room + 3 =>
        let (more, bits) ← readGap? room bits
        some (more + 3, bits)
      | _ => none

/-- The points of at most `room` symbols that share `left` points, behind those that have been
read, latest first. -/
def readPoints? (room left : Nat) (read : List Int) (bits : UpwardBits) :
    Option (List Int × UpwardBits) :=
  match room with
  | 0 => none
  | room + 1 => do
    let (n, bits) ← readAtMost? (left + 1) bits
    let points : Int := n - 1
    let read := points :: read
    if left ≤ points.natAbs then some (read.reverse, bits)
    else if points = 0 then
      let (gap, bits) ← readGap? room bits
      readPoints? (room - gap) left (List.replicate gap 0 ++ read) bits
    else readPoints? room (left - points.natAbs) read bits
  termination_by room

/-- The distribution of at most `symbols` symbols at the start of bytes, and the bytes behind it. -/
def read? (maxLog symbols : Nat) (bytes : List UInt8) :
    Option (Distribution × List UInt8) := do
  let (n, bits) ← UpwardBits.read? 4 ⟨bytes, 0⟩
  let log := n + 5
  if maxLog < log then none
  else
    let (points, bits) ← readPoints? symbols (1 <<< log) [] bits
    some (⟨log, points⟩, bits.untouched)

end Distribution

end CacheSim.Zstandard
