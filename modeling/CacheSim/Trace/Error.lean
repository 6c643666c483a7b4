import CacheSim.Text.Quoted
import CacheSim.Text.Utf8
import CacheSim.Trace.Request

/-!
# What can be wrong with a trace
-/

namespace CacheSim.Trace

/-- The columns of a text trace. -/
inductive Column where
  | time
  | id
  | size
  deriving DecidableEq

namespace Column

/-- The name of a column. -/
def name : Column → String
  | time => "time"
  | id => "obj_id"
  | size => "obj_size"

end Column

/-- What is wrong with a line. -/
inductive Defect where
  /-- It is not text. -/
  | notText (e : Text.Utf8Error)
  /-- A column is missing or empty. -/
  | missing (column : Column)
  /-- A column does not hold a number. -/
  | notUnsigned (column : Column) (field : List Char)
  deriving DecidableEq

namespace Defect

/-- The text of the defect. -/
def message : Defect → String
  | notText e => "not valid UTF-8: " ++ e.message
  | missing column => "missing " ++ column.name
  | notUnsigned column field =>
    column.name ++ " is not an unsigned integer: " ++ Text.quoted (String.ofList field)

end Defect

/-- Why a request cannot be read from a trace. -/
inductive Error where
  /-- The file cannot be read. -/
  | unreadable (reason : String)
  /-- A line of a text trace is malformed. -/
  | malformed (line : Nat) (defect : Defect)
  /-- The last record of a binary trace is too short. -/
  | truncated (record bytes : Nat)
  deriving DecidableEq

namespace Error

/-- The text of the error. -/
def message : Error → String
  | unreadable reason => "I/O error: " ++ reason
  | malformed line defect => "Malformed trace line " ++ toString line ++ ": " ++ defect.message
  | truncated record bytes =>
    "Truncated binary record " ++ toString record ++ ": got " ++ toString bytes ++ " of 24 bytes"

end Error

/-- What is read from a trace: a request, or why there is none. -/
abbrev Item := Except Error Request

end CacheSim.Trace
