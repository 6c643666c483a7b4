import CacheSim.Json.Numeral
import CacheSim.Json.Value

/-!
# Decoding JSON values

Records are objects whose keys name the fields, or arrays that list the fields in order.  Fields
may be missing and unknown members are ignored, but no field may be given twice.  Only fields
that say so can be null.
-/

namespace CacheSim.Json.Value

/-- The value as a word. -/
def word? : Value → Option UInt64
  | number literal => toWord? literal
  | _ => none

/-- The value as a float. -/
def float? : Value → Option Float
  | number literal => toFloat? literal
  | _ => none

/-- The value as a truth value. -/
def bool? : Value → Option Bool
  | bool b => some b
  | _ => none

/-- The value as a text. -/
def text? : Value → Option String
  | string text => text
  | _ => none

/-- The items of an array, each decoded. -/
def list? {α : Type} (item? : Value → Option α) : Value → Option (List α)
  | array items => items.mapM item?
  | _ => none

/-- A value that may be null. -/
def nullable? {α : Type} (inner? : Value → Option α) : Value → Option (Option α)
  | null => some none
  | v => some <$> inner? v

/-- A name, alone or as the key of an object with a single null member. -/
def name? {α : Type} (ofName? : String → Option α) : Value → Option α
  | string (some text) => ofName? text
  | object [(some text, null)] => ofName? text
  | _ => none

/-- The values of the named fields of a record. -/
def fields? (names : List String) : Value → Option (List (Option Value))
  | array items =>
    if items.length ≤ names.length then
      some (items.map some ++ List.replicate (names.length - items.length) none)
    else none
  | object members => do
    let members ← members.mapM fun (key, v) => key.map fun k => (k, v)
    names.mapM fun name =>
      match members.filter (·.1 == name) with
      | [] => some none
      | [(_, v)] => some (some v)
      | _ => none
  | _ => none

/-- The value of a field, or a default if it is missing. -/
def getOr? {α : Type} (inner? : Value → Option α) (default : α) :
    Option (Option Value) → Option α
  | some (some v) => inner? v
  | _ => some default

end CacheSim.Json.Value
