import CacheSim.Zstandard.Literals
import CacheSim.Zstandard.Sequence

/-!
# Blocks of a frame

A block stands in the data with a header of three bytes in front.  Its content is written as it is,
or as one byte that is repeated, or in a compressed form, which consists of literals and sequences.
-/

namespace CacheSim.Zstandard

/-- How the content of a block is written. -/
inductive BlockKind where
  | raw
  | repeated
  | compressed
  | reserved
  deriving DecidableEq

/-- The header of a block. -/
structure BlockHeader where
  /-- Whether it is the last block of its frame. -/
  isLast : Bool
  /-- How its content is written. -/
  kind : BlockKind
  /-- The bytes of the content; in a compressed block, those that it takes up. -/
  size : Nat

namespace BlockHeader

/-- The header in three bytes. -/
def ofBytes (a b c : UInt8) : BlockHeader :=
  let n := LittleEndian.toNat [a, b, c]
  { isLast := n % 2 == 1
    kind :=
      match n / 2 % 4 with
      | 0 => .raw
      | 1 => .repeated
      | 2 => .compressed
      | _ => .reserved
    size := n / 8 }

/-- The number of bytes behind the header that belong to the block. -/
def stored (h : BlockHeader) : Nat :=
  if h.kind = .repeated then 1 else h.size

end BlockHeader

/-- What the blocks of a frame hand on to the next. -/
structure Decoding where
  /-- The bytes of the frame so far. -/
  done : Array UInt8 := #[]
  /-- The last Huffman code. -/
  code : Option Huffman := none
  /-- The last tables for sequences. -/
  tables : Option SequenceTables := none
  /-- The offsets used last. -/
  recent : RecentOffsets := {}

namespace Decoding

/-- Goes on with bytes as they are. -/
def push (d : Decoding) (room : Nat) (bytes : List UInt8) : Except Error Decoding :=
  if room < bytes.length then .error .noRoom
  else .ok { d with done := d.done.appendList bytes }

/-- Goes on with a compressed block. -/
def pushCompressed (d : Decoding) (bounds : Bounds) (bytes : List UInt8) :
    Except Error Decoding := do
  let size := d.done.size + bounds.room
  let literals ← Literals.read bounds d.code bytes
  let (count, rest) ← readSequenceCount literals.rest
  let start : Assembly := ⟨d.done, literals.bytes⟩
  if count = 0 then
    if rest.isEmpty then .ok { d with done := ← start.finish size, code := literals.code }
    else .error .corrupted
  else if rest.isEmpty then .error .shortSection
  else
    match SequenceTables.read? d.tables rest with
    | none => .error .corrupted
    | some (tables, rest) =>
      match SequenceReader.start? tables d.recent rest with
      | none => .error .corrupted
      | some reader =>
        let (assembly, recent) ← start.runAll size tables count reader
        .ok { done := ← assembly.finish size, code := literals.code, tables := some tables, recent }

/-- Goes on with the content of a block. -/
def pushBlock (d : Decoding) (bounds : Bounds) (header : BlockHeader) (content : List UInt8) :
    Except Error Decoding :=
  match header.kind with
  | .raw => d.push bounds.room content
  | .repeated => d.push bounds.room (content.flatMap (List.replicate header.size))
  | .compressed => d.pushCompressed bounds content
  | .reserved => .error .corrupted

end Decoding

end CacheSim.Zstandard
