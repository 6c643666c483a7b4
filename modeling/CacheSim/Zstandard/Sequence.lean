import CacheSim.LittleEndian
import CacheSim.Zstandard.Error
import CacheSim.Zstandard.StateTable

/-!
# Sequences of a block

A sequence copies some literals, and then a match: bytes that were decoded before, found at some
offset back from the end.  Its three numbers are written as symbols, each of which stands for a
range of numbers, and as the bits that choose a number from the range.  The symbols of each kind
are the ways of a machine of their own.
-/

namespace CacheSim.Zstandard

/-- The numbers from `low` on that bits of some width can choose. -/
structure NumberRange where
  low : Nat
  width : Nat

namespace NumberRange

/-- The ranges of some widths that follow each other without gaps. -/
def row (low : Nat) : List Nat → List NumberRange
  | [] => []
  | width :: widths => ⟨low, width⟩ :: row (low + 1 <<< width) widths

/-- The next number of a range. -/
def read? (r : NumberRange) (bits : DownwardBits) : Option (Nat × DownwardBits) := do
  let (n, bits) ← DownwardBits.read? r.width bits
  some (r.low + n, bits)

end NumberRange

/-- The symbols of one kind. -/
structure Alphabet where
  /-- The ranges that the symbols stand for. -/
  ranges : Array NumberRange
  /-- The largest `log` of a distribution of these symbols. -/
  maxLog : Nat
  /-- The distribution that need not be written. -/
  standard : Distribution

namespace Alphabet

/-- The symbols for the number of literals. -/
def literals : Alphabet where
  ranges := (NumberRange.row 0 (List.replicate 16 0 ++
    [1, 1, 1, 1, 2, 2, 3, 3, 4, 6, 7, 8, 9, 10, 11, 12, 13, 14, 15, 16])).toArray
  maxLog := 9
  standard := ⟨6, [4, 3, 2, 2, 2, 2, 2, 2, 2, 2, 2, 2, 2, 1, 1, 1, 2, 2, 2, 2, 2, 2, 2, 2, 2, 3,
    2, 1, 1, 1, 1, 1, -1, -1, -1, -1]⟩

/-- The symbols for offsets. -/
def offsets : Alphabet where
  ranges := (NumberRange.row 1 (List.range 32)).toArray
  maxLog := 8
  standard := ⟨5, [1, 1, 1, 1, 1, 1, 2, 2, 2, 1, 1, 1, 1, 1, 1, 1, 1, 1, 1, 1, 1, 1, 1, 1,
    -1, -1, -1, -1, -1]⟩

/-- The symbols for the lengths of matches. -/
def lengths : Alphabet where
  ranges := (NumberRange.row 3 (List.replicate 32 0 ++
    [1, 1, 1, 1, 2, 2, 3, 3, 4, 4, 5, 7, 8, 9, 10, 11, 12, 13, 14, 15, 16])).toArray
  maxLog := 9
  standard := ⟨6, [1, 4, 3, 2, 2, 2, 2, 2, 2] ++ List.replicate 37 1 ++ List.replicate 7 (-1)⟩

/-- The number that a state stands for. -/
def number? (a : Alphabet) (s : State) (bits : DownwardBits) : Option (Nat × DownwardBits) := do
  (← a.ranges[s.symbol]?).read? bits

/-- The table of a block, and the bytes behind it.  It is the standard one, one of a single
symbol, one with a distribution, or that of an earlier block. -/
def readTable? (a : Alphabet) (kind : Nat) (earlier : Option StateTable) (bytes : List UInt8) :
    Option (StateTable × List UInt8) :=
  match kind, bytes with
  | 0, _ => some (.ofDistribution a.standard, bytes)
  | 1, [] => none
  | 1, symbol :: rest =>
    if symbol.toNat < a.ranges.size then some (.single symbol.toNat, rest) else none
  | 2, _ => do
    let (d, rest) ← Distribution.read? a.maxLog a.ranges.size bytes
    some (.ofDistribution d, rest)
  | _, _ => earlier.map (·, bytes)

end Alphabet

/-- The tables of a block. -/
structure SequenceTables where
  literals : StateTable
  offsets : StateTable
  lengths : StateTable

namespace SequenceTables

/-- The tables at the start of bytes, and the bytes behind them.  A first byte tells which kinds of
tables they are. -/
def read? (earlier : Option SequenceTables) : List UInt8 → Option (SequenceTables × List UInt8)
  | [] => none
  | kinds :: bytes => do
    let kinds := kinds.toNat
    if kinds % 4 ≠ 0 then none
    else
      let (l, bytes) ← Alphabet.literals.readTable? (kinds / 64) (earlier.map (·.literals)) bytes
      let (o, bytes) ← Alphabet.offsets.readTable? (kinds / 16 % 4) (earlier.map (·.offsets)) bytes
      let (m, bytes) ← Alphabet.lengths.readTable? (kinds / 4 % 4) (earlier.map (·.lengths)) bytes
      some (⟨l, o, m⟩, bytes)

end SequenceTables

/-- The number of sequences at the start of bytes, and the bytes behind it. -/
def readSequenceCount (bytes : List UInt8) : Except Error (Nat × List UInt8) :=
  match bytes with
  | [] => .error .shortSection
  | a :: rest =>
    if a < 128 then .ok (a.toNat, rest)
    else
      match rest with
      | [] => .error .shortSection
      | b :: rest =>
        if a < 255 then .ok ((a.toNat - 128) * 256 + b.toNat, rest)
        else
          match rest with
          | [] => .error .shortSection
          | c :: rest => .ok (b.toNat + 256 * c.toNat + 0x7F00, rest)

/-- The offsets that were used last. -/
structure RecentOffsets where
  first : Nat := 1
  second : Nat := 4
  third : Nat := 8

namespace RecentOffsets

/-- The offset that a number stands for, and the offsets used last after it.  The numbers 1 to 3
stand for recent offsets; without literals in front, they stand for the next one each, and the last
one for one less than the first.  Larger numbers stand for the offset that is 3 less. -/
def use (r : RecentOffsets) (number literals : Nat) : Nat × RecentOffsets :=
  if 3 < number then (number - 3, ⟨number - 3, r.first, r.second⟩)
  else
    match if literals = 0 then number else number - 1 with
    | 0 => (r.first, r)
    | 1 => (r.second, ⟨r.second, r.first, r.third⟩)
    | 2 => (r.third, ⟨r.third, r.first, r.second⟩)
    | _ => (r.first - 1, ⟨r.first - 1, r.first, r.second⟩)

end RecentOffsets

/-- A sequence. -/
structure Sequence where
  /-- How many literals are copied. -/
  literals : Nat
  /-- How far back the match is. -/
  offset : Nat
  /-- How many bytes are matched. -/
  length : Nat

/-- Three machines on their ways. -/
structure SequenceReader where
  literals : State
  offset : State
  length : State
  /-- The bits that are left. -/
  bits : DownwardBits
  /-- The offsets used last. -/
  recent : RecentOffsets

namespace SequenceReader

/-- The machines of some tables at their start. -/
def start? (t : SequenceTables) (recent : RecentOffsets) (bytes : List UInt8) :
    Option SequenceReader := do
  let bits ← DownwardBits.ofBytes? bytes
  let (l, bits) ← t.literals.start? bits
  let (o, bits) ← t.offsets.start? bits
  let (m, bits) ← t.lengths.start? bits
  some ⟨l, o, m, bits, recent⟩

/-- The sequence where the machines are. -/
def current? (r : SequenceReader) : Option (Sequence × SequenceReader) := do
  let (number, bits) ← Alphabet.offsets.number? r.offset r.bits
  let (length, bits) ← Alphabet.lengths.number? r.length bits
  let (literals, bits) ← Alphabet.literals.number? r.literals bits
  let (offset, recent) := r.recent.use number literals
  some (⟨literals, offset, length⟩, { r with bits, recent })

/-- The machines one step further. -/
def step? (t : SequenceTables) (r : SequenceReader) : Option SequenceReader := do
  let (l, bits) ← t.literals.next? r.literals r.bits
  let (m, bits) ← t.lengths.next? r.length bits
  let (o, bits) ← t.offsets.next? r.offset bits
  some { r with literals := l, offset := o, length := m, bits }

end SequenceReader

/-- Bytes that are put together from literals and matches. -/
structure Assembly where
  /-- What has been decoded of the frame. -/
  done : Array UInt8
  /-- The literals that are left. -/
  literals : List UInt8

namespace Assembly

/-- Copies bytes from some offset back, one by one, so that a match can overlap itself. -/
def copyBack (offset : Nat) : Nat → Array UInt8 → Array UInt8
  | 0, done => done
  | length + 1, done => copyBack offset length (done.push (done.getD (done.size - offset) 0))

/-- Carries out a sequence, if at most `size` bytes are there after it. -/
def run (size : Nat) (s : Sequence) (a : Assembly) : Except Error Assembly :=
  let copied := a.literals.take s.literals
  let done := a.done.appendList copied
  if size < a.done.size + s.literals + s.length then .error .noRoom
  else if copied.length < s.literals then .error .corrupted
  else if s.offset = 0 ∨ done.size < s.offset then .error .corrupted
  else .ok ⟨copyBack s.offset s.length done, a.literals.drop s.literals⟩

/-- Copies the literals that are left. -/
def finish (size : Nat) (a : Assembly) : Except Error (Array UInt8) :=
  if size < a.done.size + a.literals.length then .error .noRoom
  else .ok (a.done.appendList a.literals)

/-- Carries out as many sequences as there are.  The machines do not go on behind the last one, and
no bit may be left. -/
def runAll (size : Nat) (t : SequenceTables) :
    Nat → SequenceReader → Assembly → Except Error (Assembly × RecentOffsets)
  | 0, r, a => if r.bits.isEmpty then .ok (a, r.recent) else .error .corrupted
  | count + 1, r, a =>
    match r.current? with
    | none => .error .corrupted
    | some (s, r) => do
      let a ← a.run size s
      match if count = 0 then some r else r.step? t with
      | none => .error .corrupted
      | some r => runAll size t count r a

end Assembly

end CacheSim.Zstandard
