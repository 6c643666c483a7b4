import CacheSim.Zstandard.Frame

/-!
# Decompression

Compressed data is a row of frames.  A frame begins with a mark of four bytes.  Besides the frames
that are decoded there are frames to be skipped, with a mark and a length of their own, and frames
of former formats: those of three formats are refused, and those of the four formats after them are
never read to their end.
-/

namespace CacheSim.Zstandard

/-- What decompressing some data gives. -/
structure Decompressed where
  /-- The bytes that could be read. -/
  bytes : List UInt8
  /-- Why they are not all, if reading failed. -/
  failure : Option Error

/-- What a frame is, by its mark. -/
inductive Mark where
  /-- A frame to be decoded. -/
  | frame
  /-- A frame to be skipped. -/
  | skippable
  /-- A frame of a former format that is refused. -/
  | refused
  /-- A frame of a former format that is not read to its end. -/
  | unread
  deriving DecidableEq

namespace Mark

/-- The marks with their meanings. -/
def all : List (List UInt8 × Mark) :=
  [([0x28, 0xB5, 0x2F, 0xFD], .frame)] ++
  (List.range 16).map (fun n => ([0x50 + UInt8.ofNat n, 0x2A, 0x4D, 0x18], .skippable)) ++
  [0x1E, 0x22, 0x23].map (fun b => ([b, 0xB5, 0x2F, 0xFD], .refused)) ++
  [0x24, 0x25, 0x26, 0x27].map (fun b => ([b, 0xB5, 0x2F, 0xFD], .unread))

/-- Whether a few bytes are the start of a frame that is decoded or skipped. -/
def isBegun (bytes : List UInt8) : Bool :=
  all.any fun (mark, m) => (m == .frame || m == .skippable) && (bytes.take 4).isPrefixOf mark

end Mark

/-- Skips a frame behind its mark. -/
def skipFrame (bytes : List UInt8) : Reading :=
  let size := LittleEndian.toNat (bytes.take 4)
  let body := bytes.drop 4
  if bytes.length < 4 ∨ body.length < size then ⟨[], .error .incomplete⟩
  else ⟨[], .ok (body.drop size)⟩

/-- Reads the first frame of some data.  Nothing is read before a fifth byte is there, but a wrong
mark is seen at once. -/
def readFirst (bytes : List UInt8) : Reading :=
  if bytes.length < 5 then
    ⟨[], .error (if Mark.isBegun bytes then .incomplete else .unknownMark)⟩
  else
    match Mark.all.lookup (bytes.take 4) with
    | none => ⟨[], .error .unknownMark⟩
    | some .skippable => skipFrame (bytes.drop 4)
    | some .refused => ⟨[], .error .formerFormat⟩
    | some .unread => ⟨[], .error .incomplete⟩
    | some .frame =>
      match FrameHeader.read (bytes.drop 4) with
      | .error e => ⟨[], .error e⟩
      | .ok (header, rest) => header.readFrame rest

/-- Reads frames to the end of the data, or to the first failure, behind pieces that have been
read, latest first. -/
def readAll (pieces : List (List UInt8)) (data : List UInt8) : Decompressed :=
  let ⟨content, rest⟩ := readFirst data
  let pieces := content :: pieces
  match rest with
  | .error e => ⟨pieces.reverse.flatten, some e⟩
  | .ok rest =>
    if rest.isEmpty then ⟨pieces.reverse.flatten, none⟩
    else if _h : rest.length < data.length then readAll pieces rest
    else ⟨pieces.reverse.flatten, some .incomplete⟩
  termination_by data.length

/-- Decompresses data.  There must be a frame. -/
def decompress (data : List UInt8) : Decompressed :=
  readAll [] data

end CacheSim.Zstandard
