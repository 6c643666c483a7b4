import CacheSim.LittleEndian
import CacheSim.Zstandard.StateTable

/-!
# Huffman codes

Every byte has a code of its own length, and no code begins another.  A code is given by weights:
a byte of weight `w` takes `2 ^ (w - 1)` of the `2 ^ log` patterns of `log` bits, namely those that
begin with its code; a byte of weight zero has none.  Patterns are shared out from weight one
upwards, and from the lowest byte upwards within a weight.
-/

namespace CacheSim.Zstandard

/-- A byte with the length of its code. -/
structure Leaf where
  byte : UInt8
  length : Nat

/-- A Huffman code. -/
structure Huffman where
  /-- The length of the longest code. -/
  log : Nat
  /-- What every pattern of `log` bits begins with. -/
  leaves : Array Leaf

namespace Huffman

/-- The largest weight, and the length that no code exceeds. -/
def maxLog : Nat := 12

/-- The patterns of a byte. -/
def share (weight : Nat) : Nat :=
  1 <<< weight / 2

/-- The patterns of all bytes. -/
def allShares (weights : List Nat) : Nat :=
  weights.foldl (fun total weight => total + share weight) 0

/-- The weight of the last byte, which makes the patterns complete.  It is not written. -/
def lastWeight? (weights : List Nat) : Option Nat :=
  let total := allShares weights
  let log := Nat.log2 total + 1
  let rest := 1 <<< log - total
  if total = 0 ∨ maxLog < log ∨ 1 <<< Nat.log2 rest ≠ rest then none
  else some (Nat.log2 rest + 1)

/-- The code of weights, which are those of the bytes from zero upwards. -/
def ofWeights? (weights : List Nat) : Option Huffman := do
  let last ← lastWeight? weights
  let weights := weights ++ [last]
  if weights.any (maxLog < ·) || weights.count 1 < 2 then none
  else
    let log := Nat.log2 (allShares weights)
    let leaves := (List.range log).flatMap fun w =>
      weights.zipIdx.flatMap fun (weight, byte) =>
        if weight = w + 1 then List.replicate (share weight) ⟨UInt8.ofNat byte, log - w⟩ else []
    some ⟨log, leaves.toArray⟩

/-- Weights that are written in half a byte each, the upper half first. -/
def halves (bytes : List UInt8) : List Nat :=
  bytes.flatMap fun byte => [byte.toNat / 16, byte.toNat % 16]

/-- Weights that are written as the ways of two machines, which take turns.  When there are not
enough bits for one of them to go on, the symbol of the other one is the last.  There may be as
many weights as `room`. -/
def readWeights? (t : StateTable) : Nat → State → State → DownwardBits → Option (List Nat)
  | room + 2, turn, other, bits =>
    match t.next? turn bits with
    | none => some [turn.symbol, other.symbol]
    | some (next, bits) => do
      let more ← readWeights? t (room + 1) other next bits
      some (turn.symbol :: more)
  | _, _, _, _ => none

/-- The weights behind a distribution that is written in front of them. -/
def compressedWeights? (bytes : List UInt8) : Option (List Nat) := do
  let (d, bytes) ← Distribution.read? 6 256 bytes
  let t := StateTable.ofDistribution d
  let bits ← DownwardBits.ofBytes? bytes
  let (first, bits) ← t.start? bits
  let (second, bits) ← t.start? bits
  readWeights? t 255 first second bits

/-- The code at the start of bytes, and the bytes behind it.  The first byte tells how the weights
are written, and in how many bytes. -/
def read? : List UInt8 → Option (Huffman × List UInt8)
  | [] => none
  | head :: bytes => do
    let count := head.toNat - 127
    let length := if 128 ≤ head then (count + 1) / 2 else head.toNat
    if bytes.length < length then none
    else
      let body := bytes.take length
      let weights ← if 128 ≤ head then some ((halves body).take count) else compressedWeights? body
      let code ← ofWeights? weights
      some (code, bytes.drop length)

/-- Decodes as many bytes as are asked for, behind those that have been decoded, latest first.  No
bit may be left. -/
def decodeOn? (code : Huffman) : Nat → List UInt8 → DownwardBits → Option (List UInt8)
  | 0, done, bits => if bits.isEmpty then some done.reverse else none
  | count + 1, done, bits => do
    let leaf ← code.leaves[DownwardBits.peek code.log bits]?
    if (bits.take leaf.length).length < leaf.length then none
    else decodeOn? code count (leaf.byte :: done) (bits.drop leaf.length)

/-- Decodes a stream of `count` bytes. -/
def decode? (code : Huffman) (count : Nat) (stream : List UInt8) : Option (List UInt8) := do
  decodeOn? code count [] (← DownwardBits.ofBytes? stream)

/-- Decodes four streams that hold a quarter of the bytes each; what the first three have more
than a quarter, the last has less.  The lengths of the first three stand in front of them. -/
def decodeFour? (code : Huffman) (count : Nat) (bytes : List UInt8) : Option (List UInt8) := do
  let quarter := (count + 3) / 4
  let lengths := [0, 2, 4].map fun i => LittleEndian.toNat ((bytes.drop i).take 2)
  let streams := bytes.drop 6
  if bytes.length < 10 ∨ count < 3 * quarter ∨ streams.length < lengths.foldl Nat.add 0 then none
  else
    let (rest, done) ← lengths.foldlM
      (fun (rest, done) length => do
        let part ← code.decode? quarter (rest.take length)
        some (rest.drop length, done ++ part))
      (streams, [])
    let last ← code.decode? (count - 3 * quarter) rest
    some (done ++ last)

end Huffman

end CacheSim.Zstandard
