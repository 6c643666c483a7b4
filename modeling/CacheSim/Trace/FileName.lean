import CacheSim.Text.Pieces
import CacheSim.Text.Utf8

/-!
# File names of traces

A path is a list of bytes, which need not be text.  It is cut at slashes; its file name is the last
part that is neither empty nor a dot, and a path that ends in two dots has none.  A file is
decompressed if the extension of its name is `zst`, and the format of a trace is guessed from its
file name as text, in small letters.
-/

namespace CacheSim.Trace

/-- How a trace is written. -/
inductive Format where
  /-- One request a line, as text. -/
  | csv
  /-- Binary records. -/
  | oracleGeneral
  deriving DecidableEq

namespace Format

/-- The name of a format. -/
def name : Format → String
  | csv => "csv"
  | oracleGeneral => "oracle-general"

/-- The format of a name. -/
def ofName? (text : String) : Option Format :=
  [csv, oracleGeneral].find? (·.name == text)

end Format

/-- A path to a file. -/
structure Path where
  /-- The bytes that it is written in. -/
  bytes : List UInt8

/-- The path that a text spells. -/
instance : Coe String Path where
  coe text := ⟨Text.encodeUtf8 text.toList⟩

namespace Path

/-- The byte of a slash. -/
def slash : UInt8 := 47

/-- The byte of a dot. -/
def dot : UInt8 := 46

/-- The file name of a path. -/
def fileName? (path : Path) : Option (List UInt8) :=
  let parts := (Text.pieces slash path.bytes).filter fun part => part != [] && part != [dot]
  parts.getLast?.filter (· != [dot, dot])

/-- The extension of a file name: what stands behind its last dot.  A dot at the start of a file
name does not begin an extension. -/
def extension? (name : List UInt8) : Option (List UInt8) :=
  let backwards := name.reverse
  if 1 < (backwards.dropWhile (· != dot)).length then
    some (backwards.takeWhile (· != dot)).reverse
  else none

/-- Whether a trace is read through decompression. -/
def isCompressed (path : Path) : Bool :=
  path.fileName?.bind extension? == some (Text.encodeUtf8 "zst".toList)

/-- A file name in small ASCII letters. -/
def foldName (name : List UInt8) : List Char :=
  (Text.decodeLossy name).map Char.toLower

/-- The file name of a path in small ASCII letters, which is empty if the path has none. -/
def folded (path : Path) : List Char :=
  (path.fileName?.map foldName).getD []

/-- Whether the end of a file name is passed over when the format is guessed. -/
def looksPast (path : Path) : Bool :=
  ".zst".toList.isSuffixOf path.folded

end Path

/-- A list without a suffix, if it ends in it. -/
def dropSuffix (suffix name : List Char) : List Char :=
  if suffix.isSuffixOf name then name.take (name.length - suffix.length) else name

/-- The format that the end of a file name suggests.  Those of text traces end in `.csv` or `.txt`;
all other traces are binary. -/
def Format.ofEnding (name : List Char) : Format :=
  if ".csv".toList.isSuffixOf name || ".txt".toList.isSuffixOf name then .csv else .oracleGeneral

/-- The format that a path suggests, whose file name may have one ending `.zst` more. -/
def Format.ofPath (path : Path) : Format :=
  .ofEnding (dropSuffix ".zst".toList path.folded)

end CacheSim.Trace
