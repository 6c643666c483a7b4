/-!
# JSON values

Numbers are kept as they are written, since what a number stands for depends on the place it is
used in. A string may hold half of a surrogate pair; such a string has no text.
-/

namespace CacheSim.Json

/-- A JSON value. -/
inductive Value where
  | null
  | bool (b : Bool)
  /-- A number as it is written. -/
  | number (literal : String)
  /-- A string, if it has a text. -/
  | string (text : Option String)
  | array (items : List Value)
  /-- An object with its members in order; keys are strings. -/
  | object (members : List (Option String × Value))

end CacheSim.Json
