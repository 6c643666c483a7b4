import CacheSim.LittleEndian
import CacheSim.Text.Pieces
import CacheSim.Trace.Error

/-!
# Binary traces

A binary trace is a row of records of 24 bytes.  A record holds, least significant byte first,
the time in four bytes, the id in eight, the size in four, and the position of the next request
for the object in eight, which is not used here and is written as -1.
-/

namespace CacheSim.Trace.Record

/-- The number of bytes of a record. -/
def length : Nat := 24

/-- The request of a record. -/
def decode (record : List UInt8) : Request where
  time := UInt64.ofNat (LittleEndian.toNat (record.take 4))
  id := UInt64.ofNat (LittleEndian.toNat ((record.drop 4).take 8))
  size := UInt64.ofNat (LittleEndian.toNat ((record.drop 12).take 4))

/-- What is read from a binary trace. -/
def items (bytes : List UInt8) : List Item :=
  let (records, rest) := Text.chunks length bytes
  let requests : List Item := records.map fun record => .ok (decode record)
  if rest.isEmpty then requests
  else requests ++ [.error (.truncated (records.length + 1) rest.length)]

/-- A request that has no record. -/
structure Overflow where
  /-- The number of the request, counted from one. -/
  record : Nat
  /-- The name of the field. -/
  field : String
  /-- The value, which takes more than four bytes. -/
  value : UInt64
  deriving DecidableEq

namespace Overflow

/-- The text of the error. -/
def message (e : Overflow) : String :=
  "Request " ++ toString e.record ++ ": " ++ e.field ++ " " ++ toString e.value ++
    " does not fit the 32-bit record field"

end Overflow

/-- The bytes of a field of four bytes. -/
def encodeShort (number : Nat) (field : String) (value : UInt64) : Except Overflow (List UInt8) :=
  if value.toNat < UInt32.size then .ok (LittleEndian.ofNat 4 value.toNat)
  else .error ⟨number, field, value⟩

/-- The record of a request. -/
def encode (number : Nat) (r : Request) : Except Overflow (List UInt8) := do
  let time ← encodeShort number "clock_time" r.time
  let size ← encodeShort number "obj_size" r.size
  .ok (time ++ LittleEndian.ofNat 8 r.id.toNat ++ size ++ List.replicate 8 0xFF)

/-- The records of requests. -/
def encodeAll (requests : List Request) : Except Overflow (List UInt8) := do
  let records ← requests.zipIdx.mapM fun (r, i) => encode (i + 1) r
  .ok records.flatten

end CacheSim.Trace.Record
