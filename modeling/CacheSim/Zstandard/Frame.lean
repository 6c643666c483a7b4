import CacheSim.Hash.Xxh64
import CacheSim.Zstandard.Block

/-!
# Frames

A frame consists of a header, of blocks, and of a checksum if the header says so.  The blocks are
decoded one after the other, and what they hold is handed over in pieces.  If a frame is broken,
the piece that is being filled is lost; if the data ends too early, nothing is lost.

A frame that announces no more bytes than fit into one piece, and that is there to its end, is
decoded at once.  The width of its window does not matter then.
-/

namespace CacheSim.Zstandard

/-- The largest piece in which bytes are handed over. -/
def pieceSize : Nat := 8192

/-- No block holds more bytes than this. -/
def maxBlockSize : Nat := 1 <<< 17

/-- The widest window for which the bytes are kept. -/
def maxWindow : Nat := 1 <<< 27 + 1

/-- The header of a frame. -/
structure FrameHeader where
  /-- How far back matches reach. -/
  window : Nat
  /-- How many bytes the frame holds, if it is announced. -/
  contentSize : Option Nat
  /-- Whether the frame cannot be read without a dictionary. -/
  needsDictionary : Bool
  /-- Whether a checksum follows the blocks. -/
  hasChecksum : Bool

namespace FrameHeader

/-- The width of a window by its byte: a power of two, and some eighths of it. -/
def windowOf (byte : Nat) : Nat :=
  let base := 1 <<< (10 + byte / 8)
  base + base / 8 * (byte % 8)

/-- How many bytes tell the number of the dictionary, by the lowest two bits of the header. -/
def dictionaryLength (flags : Nat) : Nat :=
  if flags % 4 = 3 then 4 else flags % 4

/-- How many bytes tell the size of the content, by the highest two bits of the header.  A frame
without a window of its own always tells it. -/
def sizeLength (flags : Nat) (hasWindow : Bool) : Nat :=
  if flags / 64 = 0 then if hasWindow then 0 else 1 else 1 <<< (flags / 64)

/-- The size of the content.  In two bytes, counting begins at 256; the largest number of eight
bytes stands for an unknown size. -/
def sizeOf? (bytes : List UInt8) : Option Nat :=
  let n := LittleEndian.toNat bytes
  match bytes.length with
  | 0 => none
  | 2 => some (n + 256)
  | _ => if n = UInt64.size - 1 then none else some n

/-- The header at the start of bytes, and the bytes behind it. -/
def read : List UInt8 → Except Error (FrameHeader × List UInt8)
  | [] => .error .incomplete
  | flags :: bytes =>
    let flags := flags.toNat
    let hasWindow := flags / 32 % 2 == 0
    let windowLength := if hasWindow then 1 else 0
    let dictionary := (bytes.drop windowLength).take (dictionaryLength flags)
    let behind := bytes.drop (windowLength + dictionaryLength flags)
    let size := behind.take (sizeLength flags hasWindow)
    if bytes.length < windowLength + dictionaryLength flags + sizeLength flags hasWindow then
      .error .incomplete
    else if flags / 8 % 2 = 1 then .error .reservedBit
    else
      let window :=
        if hasWindow then windowOf (LittleEndian.toNat (bytes.take 1))
        else LittleEndian.toNat size + if size.length = 2 then 256 else 0
      if hasWindow ∧ UInt32.size ≤ window then .error .wideWindow
      else
        .ok (⟨window, sizeOf? size, LittleEndian.toNat dictionary != 0, flags / 4 % 2 == 1⟩,
          behind.drop size.length)

/-- No block of the frame holds more bytes than this. -/
def blockLimit (h : FrameHeader) : Nat :=
  min h.window maxBlockSize

/-- The width of the window for which the bytes are kept. -/
def keptWindow (h : FrameHeader) : Nat :=
  max h.window 1024

/-- The size of a ring of bytes that is wide enough for any frame with the same window: for the
window, for two blocks, and for a margin. -/
def ringSize (h : FrameHeader) : Nat :=
  h.keptWindow + 2 * min h.keptWindow maxBlockSize + 64

/-- Whether the content of the frame, as it is announced, fits into the ring. -/
def fitsRing (h : FrameHeader) : Bool :=
  h.contentSize.any (· ≤ h.ringSize)

/-- The room for the bytes of the frame. -/
def room (h : FrameHeader) : Nat :=
  match h.contentSize with
  | none => h.ringSize
  | some size => min size h.ringSize

/-- Whether a number of bytes is not the announced one. -/
def isBelied (h : FrameHeader) (size : Nat) : Bool :=
  h.contentSize.any (· != size)

/-- The bytes behind the checksum, if it is that of the content.  It is the lower half of a hash. -/
def checkEnd (h : FrameHeader) (content : Array UInt8) (bytes : List UInt8) :
    Except Error (List UInt8) :=
  if !h.hasChecksum then .ok bytes
  else if bytes.length < 4 then .error .incomplete
  else if LittleEndian.toNat (bytes.take 4) ≠ (Xxh64.hash content.toList).toNat % UInt32.size then
    .error .wrongChecksum
  else .ok (bytes.drop 4)

end FrameHeader

/-- What reading some data gives. -/
structure Reading where
  /-- The bytes that are handed over. -/
  content : List UInt8
  /-- The data that is left, or why reading cannot go on. -/
  rest : Except Error (List UInt8)

/-- A frame that is being read. -/
structure FrameReader where
  /-- The header of the frame. -/
  header : FrameHeader
  /-- What has been decoded. -/
  decoding : Decoding := {}
  /-- How many of the last bytes are in the piece that is being filled. -/
  held : Nat := 0
  /-- Where the next byte goes in the room for the frame. -/
  place : Nat := 0

namespace FrameReader

/-- How much the next block can hold. -/
def bounds (r : FrameReader) : Bounds :=
  ⟨r.header.blockLimit, r.header.room - r.place⟩

/-- Goes on behind a block.  When the block is too much for the piece that is being filled, it is
handed over to its end.  In a ring, the next block goes to the front if the back might be too
small for it. -/
def goOn (r : FrameReader) (d : Decoding) : FrameReader :=
  let size := d.done.size - r.decoding.done.size
  let held := r.held + size
  let place := r.place + size
  { r with
    decoding := d
    held := if pieceSize < held then 0 else held
    place :=
      if !r.header.fitsRing && r.header.room < place + r.header.blockLimit then 0 else place }

/-- Hands over everything. -/
def handOver (r : FrameReader) (rest : Except Error (List UInt8)) : Reading :=
  ⟨r.decoding.done.toList, rest⟩

/-- Stops, and loses the piece that is being filled. -/
def stop (r : FrameReader) (e : Error) : Reading :=
  ⟨r.decoding.done.toList.take (r.decoding.done.size - r.held), .error e⟩

/-- Reads what follows the last block. -/
def finish (r : FrameReader) (bytes : List UInt8) : Reading :=
  match r.header.checkEnd r.decoding.done bytes with
  | .error .wrongChecksum => r.stop .wrongChecksum
  | rest => r.handOver rest

/-- Reads a block that is not there to its end.  Raw bytes are handed over as they come. -/
def readPart (r : FrameReader) (header : BlockHeader) (bytes : List UInt8) : Reading :=
  if header.kind = .raw then
    match r.decoding.push r.bounds.room bytes with
    | .error e => r.stop e
    | .ok d => (r.goOn d).handOver (.error .incomplete)
  else r.handOver (.error .incomplete)

/-- Reads the blocks of a frame.  A block that takes up no bytes holds none, whatever its kind. -/
def readBlocks (r : FrameReader) : List UInt8 → Reading
  | a :: b :: c :: bytes =>
    let header := BlockHeader.ofBytes a b c
    let size := header.stored
    if header.kind = .reserved ∨ r.header.blockLimit < size then r.stop .corrupted
    else if size = 0 then if header.isLast then r.finish bytes else readBlocks r bytes
    else if bytes.length < size then r.readPart header bytes
    else
      match r.decoding.pushBlock r.bounds header (bytes.take size) with
      | .error e => r.stop e
      | .ok d =>
        if r.decoding.done.size + r.header.blockLimit < d.done.size then r.stop .corrupted
        else if !header.isLast then readBlocks (r.goOn d) (bytes.drop size)
        else if r.header.isBelied d.done.size then r.stop .corrupted
        else (r.goOn d).finish (bytes.drop size)
  | _ => r.handOver (.error .incomplete)
  termination_by bytes => bytes.length
  decreasing_by all_goals simp only [List.length_cons, List.length_drop]; omega

end FrameReader

namespace FrameHeader

/-- Whether all blocks of a frame are there, and its checksum. -/
def isWhole (h : FrameHeader) : List UInt8 → Bool
  | a :: b :: c :: bytes =>
    let header := BlockHeader.ofBytes a b c
    let rest := bytes.drop header.stored
    if header.kind = .reserved ∨ bytes.length < header.stored then false
    else if header.isLast then !h.hasChecksum || 4 ≤ rest.length
    else isWhole h rest
  | _ => false
  termination_by bytes => bytes.length
  decreasing_by simp only [List.length_cons, List.length_drop]; omega

/-- Decodes at once the blocks of a frame that is there to its end. -/
def decodeWhole (h : FrameHeader) (d : Decoding) : List UInt8 → Except Error Reading
  | a :: b :: c :: bytes => do
    let header := BlockHeader.ofBytes a b c
    let size := header.stored
    if header.kind = .compressed ∧ h.blockLimit < size then .error .shortSection
    else
      let bounds : Bounds := ⟨h.blockLimit, pieceSize - d.done.size⟩
      let d ← d.pushBlock bounds header (bytes.take size)
      if !header.isLast then decodeWhole h d (bytes.drop size)
      else if h.isBelied d.done.size then .error .corrupted
      else .ok ⟨d.done.toList, .ok (← h.checkEnd d.done (bytes.drop size))⟩
  | _ => .error .incomplete
  termination_by bytes => bytes.length
  decreasing_by simp only [List.length_cons, List.length_drop]; omega

/-- Reads the frame behind a header. -/
def readFrame (h : FrameHeader) (bytes : List UInt8) : Reading :=
  if h.needsDictionary then ⟨[], .error .needsDictionary⟩
  else if h.contentSize.any (· ≤ pieceSize) && h.isWhole bytes then
    match h.decodeWhole {} bytes with
    | .error e => ⟨[], .error e⟩
    | .ok reading => reading
  else if maxWindow < h.keptWindow then ⟨[], .error .wideWindow⟩
  else FrameReader.readBlocks { header := h } bytes

end FrameHeader

end CacheSim.Zstandard
