import CacheSim.Text.Blank
import CacheSim.Text.Pieces
import CacheSim.Text.Unsigned
import CacheSim.Trace.Error

/-!
# Text traces

A text trace holds one request a line, as `time,obj_id,obj_size` in decimal.  A missing size
means one byte, and further columns are ignored.  Lines without text and lines that begin with
`#` are skipped, and so is the first line with text if it is a header: if it is no request and its
first column is no number.
-/

namespace CacheSim.Trace.Csv

/-- The word in a column, if anything is in it. -/
def column? (column : Column) : Option (List Char) → Except Defect (Option UInt64)
  | none => .ok none
  | some [] => .ok none
  | some field =>
    match Text.readUnsigned? field with
    | some n => .ok (some n)
    | none => .error (.notUnsigned column field)

/-- The word in a column that must not be empty. -/
def column (column : Column) (field : Option (List Char)) : Except Defect UInt64 := do
  match ← column? column field with
  | some n => .ok n
  | none => .error (.missing column)

/-- The request that a line stands for. -/
def parseLine (line : List Char) : Except Defect Request := do
  let fields := (Text.pieces ',' line).map Text.trim
  let time ← column .time fields[0]?
  let id ← column .id fields[1]?
  let size ← column? .size fields[2]?
  .ok ⟨time, id, size.getD 1⟩

/-- Whether a line is a header: its first column holds no number. -/
def isHeader (line : List Char) : Bool :=
  (Text.readUnsigned? (Text.trim ((Text.pieces ',' line).headD []))).isNone

/-- What a line of bytes holds. -/
inductive Line where
  /-- Nothing, or a comment. -/
  | skipped
  /-- Bytes that are not text. -/
  | notText (e : Text.Utf8Error)
  /-- Text. -/
  | data (text : List Char)
  deriving DecidableEq

/-- What a line holds, apart from the white space at its ends. -/
def Line.ofBytes (bytes : List UInt8) : Line :=
  match Text.decodeUtf8 bytes with
  | .error e => .notText e
  | .ok text =>
    match Text.trim text with
    | [] => .skipped
    | '#' :: _ => .skipped
    | text => .data text

/-- Whether a line is where the data begins, so that no later line can be a header.  If malformed
lines are skipped, bytes that are not text count as data. -/
def Line.beginsData (skipMalformed : Bool) : Line → Bool
  | skipped => false
  | notText _ => skipMalformed
  | data _ => true

/-- What is read from line `number`; `isFirst` tells whether the data begins there. -/
def Line.item? (skipMalformed : Bool) (number : Nat) (isFirst : Bool) : Line → Option Item
  | skipped => none
  | notText e => if skipMalformed then none else some (.error (.malformed number (.notText e)))
  | data text =>
    match parseLine text with
    | .ok request => some (.ok request)
    | .error defect =>
      if isFirst && isHeader text then none
      else if skipMalformed then none
      else some (.error (.malformed number defect))

/-- What is read from a text trace. -/
def items (skipMalformed : Bool) (bytes : List UInt8) : List Item :=
  let lines := (Text.lines 10 bytes).map Line.ofBytes
  let first := lines.findIdx (Line.beginsData skipMalformed)
  lines.zipIdx.filterMap fun (line, i) => line.item? skipMalformed (i + 1) (i == first)

end CacheSim.Trace.Csv
