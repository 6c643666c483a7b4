import CacheSim.LittleEndian
import CacheSim.Text.Pieces

/-!
# The XXH64 hash

A hash of bytes in one word.  Stripes of four words are taken into four lanes, one word each; the
lanes are mixed into one word, the bytes that make no stripe follow, and a last scrambling spreads
the bits.  Sums and products wrap around.
-/

namespace CacheSim.Xxh64

/-- The five primes of the hash. -/
def prime1 : UInt64 := 0x9E3779B185EBCA87

@[inherit_doc prime1]
def prime2 : UInt64 := 0xC2B2AE3D27D4EB4F

@[inherit_doc prime1]
def prime3 : UInt64 := 0x165667B19E3779F9

@[inherit_doc prime1]
def prime4 : UInt64 := 0x85EBCA77C2B2AE63

@[inherit_doc prime1]
def prime5 : UInt64 := 0x27D4EB2F165667C5

/-- The word of some bytes. -/
def word (bytes : List UInt8) : UInt64 :=
  UInt64.ofNat (LittleEndian.toNat bytes)

/-- Turns the bits of a word around by `n` places. -/
def rotate (x n : UInt64) : UInt64 :=
  (x <<< n) ||| (x >>> (64 - n))

/-- A lane with one more word. -/
def pushWord (lane x : UInt64) : UInt64 :=
  rotate (lane + x * prime2) 31 * prime1

/-- The four lanes. -/
structure Lanes where
  first : UInt64 := prime1 + prime2
  second : UInt64 := prime2
  third : UInt64 := 0
  fourth : UInt64 := 0 - prime1

/-- The lanes with one more stripe of 32 bytes. -/
def Lanes.push (lanes : Lanes) (stripe : List UInt8) : Lanes where
  first := pushWord lanes.first (word (stripe.take 8))
  second := pushWord lanes.second (word ((stripe.drop 8).take 8))
  third := pushWord lanes.third (word ((stripe.drop 16).take 8))
  fourth := pushWord lanes.fourth (word (stripe.drop 24))

/-- Mixes the lanes into one word. -/
def Lanes.mixed (lanes : Lanes) : UInt64 :=
  let sum := rotate lanes.first 1 + rotate lanes.second 7 + rotate lanes.third 12 +
    rotate lanes.fourth 18
  [lanes.first, lanes.second, lanes.third, lanes.fourth].foldl
    (fun hash lane => (hash ^^^ pushWord 0 lane) * prime1 + prime4) sum

/-- Takes in the bytes that make no stripe: words first, then four bytes, then single bytes. -/
def pushRest (hash : UInt64) (bytes : List UInt8) : UInt64 :=
  let (words, bytes) := Text.chunks 8 bytes
  let hash := words.foldl
    (fun hash w => rotate (hash ^^^ pushWord 0 (word w)) 27 * prime1 + prime4) hash
  let (halves, bytes) := Text.chunks 4 bytes
  let hash := halves.foldl
    (fun hash h => rotate (hash ^^^ (word h * prime1)) 23 * prime2 + prime3) hash
  bytes.foldl (fun hash b => rotate (hash ^^^ (b.toUInt64 * prime5)) 11 * prime1) hash

/-- Spreads the bits of a word. -/
def scramble (x : UInt64) : UInt64 :=
  let x := (x ^^^ (x >>> 33)) * prime2
  let x := (x ^^^ (x >>> 29)) * prime3
  x ^^^ (x >>> 32)

/-- The XXH64 hash of bytes. -/
def hash (bytes : List UInt8) : UInt64 :=
  let (stripes, rest) := Text.chunks 32 bytes
  let start := if stripes.isEmpty then prime5 else (stripes.foldl Lanes.push {}).mixed
  scramble (pushRest (start + UInt64.ofNat bytes.length) rest)

end CacheSim.Xxh64
