import CacheSim.Trace.FileName
import CacheSim.Zstandard.Decompression

/-!
# Contents of trace files

A file that cannot be read to its end still gives the bytes in front of the failure.
-/

namespace CacheSim.Trace

/-- What an opened file gives when it is read. -/
structure Content where
  /-- The bytes that can be read. -/
  bytes : List UInt8
  /-- Why they are not all, if reading fails. -/
  failure : Option String := none

namespace Content

/-- The content of a file that cannot be read at all. -/
def unreadable (reason : String) : Content :=
  ⟨[], some reason⟩

/-- The content of a compressed file. -/
def decompressed (bytes : List UInt8) : Content :=
  let d := Zstandard.decompress bytes
  ⟨d.bytes, d.failure.map Zstandard.Error.message⟩

/-- The content of a file of bytes, which is decompressed if its path says so. -/
def ofFile (path : Path) (bytes : List UInt8) : Content :=
  if path.isCompressed then decompressed bytes else ⟨bytes, none⟩

end Content

end CacheSim.Trace
