/-!
# What can be wrong with compressed data
-/

namespace CacheSim.Zstandard

/-- Why compressed data cannot be read to its end. -/
inductive Error where
  /-- A frame does not begin with a mark that is known. -/
  | unknownMark
  /-- A frame begins with the mark of a format that was given up. -/
  | formerFormat
  /-- A bit of a frame header that must be zero is set. -/
  | reservedBit
  /-- A frame looks back over more bytes than are kept. -/
  | wideWindow
  /-- A frame needs a dictionary. -/
  | needsDictionary
  /-- A rule of the format is broken. -/
  | corrupted
  /-- A section ends too early. -/
  | shortSection
  /-- Four streams share too few literals. -/
  | fewLiterals
  /-- A block takes up a code that no block before it has given. -/
  | noEarlierCode
  /-- A block holds more bytes than there is room for. -/
  | noRoom
  /-- The checksum of a frame is not that of its bytes. -/
  | wrongChecksum
  /-- The data ends within a frame. -/
  | incomplete
  deriving DecidableEq

namespace Error

/-- The text of the error. -/
def message : Error → String
  | unknownMark => "Unknown frame descriptor"
  | formerFormat => "Version not supported"
  | reservedBit => "Unsupported frame parameter"
  | wideWindow => "Frame requires too much memory for decoding"
  | needsDictionary => "Dictionary mismatch"
  | corrupted => "Data corruption detected"
  | shortSection => "Src size is incorrect"
  | fewLiterals => "Header of Literals' block doesn't respect format specification"
  | noEarlierCode => "Dictionary is corrupted"
  | noRoom => "Destination buffer is too small"
  | wrongChecksum => "Restored data doesn't match checksum"
  | incomplete => "incomplete frame"

end Error

end CacheSim.Zstandard
