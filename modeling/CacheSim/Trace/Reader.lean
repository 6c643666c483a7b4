import CacheSim.Sampling
import CacheSim.Trace.Content
import CacheSim.Trace.Csv
import CacheSim.Trace.Record

/-!
# Reading traces

Reading a trace to its end gives a list of items: the requests, and an error for everything that
is no request.  Two options thin the list out: malformed lines may be skipped, and the requests
of objects that are not in a sample are left out.
-/

namespace CacheSim.Trace

/-- How a trace is read. -/
structure ReadOptions where
  /-- Whether malformed lines are skipped. -/
  skipMalformed : Bool := false
  /-- The objects whose requests are kept. -/
  sample : Option Sample := none

/-- Whether an item is kept: errors always are, and requests if their object is in the sample. -/
def isKept (sample : Option Sample) : Item → Bool
  | .error _ => true
  | .ok r =>
    match sample with
    | none => true
    | some s => s.keeps r.id

/-- The items of a trace. -/
def read (format : Format) (options : ReadOptions) (bytes : List UInt8) : List Item :=
  let items :=
    match format with
    | .csv => Csv.items options.skipMalformed bytes
    | .oracleGeneral => Record.items bytes
  items.filter (isKept options.sample)

/-- The bytes of the lines, or records, that are there to their end. -/
def wholeUnits (format : Format) (bytes : List UInt8) : List UInt8 :=
  match format with
  | .csv => ((Text.lines 10 bytes).filter (·.getLast? == some 10)).flatten
  | .oracleGeneral => (Text.chunks Record.length bytes).1.flatten

/-- The items of an opened file.  Where reading fails, an error takes the place of the line or
record that has been begun. -/
def readContent (format : Format) (options : ReadOptions) (content : Content) : List Item :=
  match content.failure with
  | none => read format options content.bytes
  | some reason =>
    read format options (wholeUnits format content.bytes) ++ [.error (.unreadable reason)]

/-- The requests among items, or the first error. -/
def requests (items : List Item) : Except Error (List Request) :=
  items.mapM id

end CacheSim.Trace
