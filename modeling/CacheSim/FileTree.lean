import CacheSim.Text.Pieces
import CacheSim.Trace.Content

/-!
# Files in memory

A `FileTree` holds the files below one folder.  A path is walked part by part from that folder, or
from the root; every part but the last must be a folder.  Outside of the tree there is nothing but
folders and the null device.  The tree answers in the words of a file system, so that the program
can be run, and reasoned about, without one.
-/

namespace CacheSim

/-- Why a file cannot be used. -/
inductive FileError where
  /-- There is nothing at its path. -/
  | notFound
  /-- Its path leads through a file. -/
  | notFolder
  /-- It is a folder. -/
  | isFolder
  /-- Its path, or a part of it, is too long. -/
  | nameTooLong
  /-- Its path holds a NUL character. -/
  | nulInPath
  deriving DecidableEq

namespace FileError

/-- The text of the error. -/
def message : FileError → String
  | notFound => "No such file or directory (os error 2)"
  | notFolder => "Not a directory (os error 20)"
  | isFolder => "Is a directory (os error 21)"
  | nameTooLong => "File name too long (os error 36)"
  | nulInPath => "file name contained an unexpected NUL byte"

end FileError

/-- A file in memory. -/
structure MemoryFile where
  /-- What is in it; of a compressed file, what was compressed. -/
  bytes : List UInt8
  /-- Whether it is compressed. -/
  compressed : Bool := false

/-- The files below a folder. -/
structure FileTree where
  /-- The files, each under the parts of its path. -/
  files : List (List String × MemoryFile)

namespace FileTree

/-- What is found at a place. -/
inductive Entry where
  | folder
  | file (f : MemoryFile)
  /-- A file that is always empty, whatever is written to it. -/
  | device
  | missing

/-- Where a walk stands. -/
inductive Place where
  /-- Under some parts, from the folder of the tree. -/
  | below (parts : List String)
  /-- Under some parts, from the root. -/
  | fromRoot (parts : List String)
  /-- In a folder that the folder of the tree is in. -/
  | above

namespace Place

/-- The place one part up.  There is nothing above the root. -/
def parent : Place → Place
  | below [] => above
  | below parts => below parts.dropLast
  | fromRoot parts => fromRoot parts.dropLast
  | above => above

/-- The place one part down, if it is known. -/
def child? (part : String) : Place → Option Place
  | below parts => some (below (parts ++ [part]))
  | fromRoot parts => some (fromRoot (parts ++ [part]))
  | above => none

end Place

/-- The parts of a path that lead on. -/
def pathParts (path : String) : List String :=
  ((Text.pieces '/' path.toList).map String.ofList).filter fun part => part != "" && part != "."

/-- What stands behind the last slash of a path. -/
def lastPiece (path : String) : List Char :=
  (Text.pieces '/' path.toList).getLast?.getD []

/-- Whether a path can only be a folder, since it ends in a slash or in dots. -/
def endsInFolder (path : String) : Bool :=
  [[], ['.'], ['.', '.']].contains (lastPiece path)

/-- What is found at a place. -/
def entry (t : FileTree) : Place → Entry
  | .below parts =>
    match t.files.lookup parts with
    | some f => .file f
    | none =>
      if parts.isEmpty || t.files.any fun (key, _) => parts.isPrefixOf key then .folder
      else .missing
  | .fromRoot parts =>
    if parts = ["dev", "null"] then .device
    else if [[], ["dev"], ["tmp"]].contains parts then .folder
    else .missing
  | .above => .folder

/-- Walks the parts of a path from a folder; the last part need not exist. -/
def walk (t : FileTree) : Place → List String → Except FileError Place
  | place, [] => .ok place
  | place, ".." :: rest => t.walk place.parent rest
  | place, part :: rest =>
    if 255 < part.utf8ByteSize then .error .nameTooLong
    else
      match place.child? part with
      | none => .error .notFound
      | some place =>
        if rest.isEmpty then .ok place
        else
          match t.entry place with
          | .folder => t.walk place rest
          | .missing => .error .notFound
          | _ => .error .notFolder

/-- The place of a path and what is found there. -/
def find (t : FileTree) (path : String) : Except FileError (Place × Entry) :=
  if path.contains '\x00' then .error .nulInPath
  else if path.isEmpty then .error .notFound
  else if 4096 ≤ path.utf8ByteSize then .error .nameTooLong
  else do
    let place ← t.walk (if path.startsWith "/" then .fromRoot [] else .below []) (pathParts path)
    .ok (place, t.entry place)

/-- Opens a file.  A folder can be opened as well, but it cannot be read. -/
def openFile (t : FileTree) (path : String) : Except FileError (Except FileError MemoryFile) := do
  match (← t.find path).2 with
  | .folder => .ok (.error .isFolder)
  | .missing => .error .notFound
  | .device => if endsInFolder path then .error .notFolder else .ok (.ok { bytes := [] })
  | .file f => if endsInFolder path then .error .notFolder else .ok (.ok f)

/-- Whether there is anything at a path. -/
def contains (t : FileTree) (path : String) : Bool :=
  (t.openFile path).toBool

/-- The bytes of a file. -/
def bytesAt (t : FileTree) (path : String) : Except FileError (List UInt8) := do
  let f ← (← t.openFile path)
  .ok f.bytes

/-- The tree with a file under some parts, in place of the one that was there. -/
def put (t : FileTree) (parts : List String) (bytes : List UInt8) : FileTree :=
  ⟨(parts, { bytes := bytes }) :: t.files.filter (·.1 != parts)⟩

/-- Writes a file, in place of the one that was there.  Its folder must exist. -/
def writeFile (t : FileTree) (path : String) (bytes : List UInt8) : Except FileError FileTree := do
  let (place, entry) ← t.find path
  if lastPiece path = [] then .error .isFolder
  else
    match entry, place with
    | .folder, _ => .error .isFolder
    | .missing, .below parts =>
      if endsInFolder path then .error .notFound else .ok (t.put parts bytes)
    | .missing, _ => .error .notFound
    | .device, _ => if endsInFolder path then .error .notFolder else .ok t
    | .file _, .below parts =>
      if endsInFolder path then .error .notFolder else .ok (t.put parts bytes)
    | .file _, _ => .error .notFolder

/-- What a trace gives when it is read. -/
def traceContent (path : String) (f : MemoryFile) : Trace.Content :=
  if f.compressed then ⟨f.bytes, none⟩ else .ofFile path f.bytes

/-- Opens a trace. -/
def openTrace (t : FileTree) (path : String) : Except FileError Trace.Content := do
  match ← t.openFile path with
  | .ok f => .ok (traceContent path f)
  | .error e => .ok (.unreadable e.message)

end FileTree

end CacheSim
