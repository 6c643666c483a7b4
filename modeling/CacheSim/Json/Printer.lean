import CacheSim.Decimal.Positional
import CacheSim.Json.Value
import CacheSim.Text.Quoted

/-!
# Writing JSON

The two written forms of a value: `Value.compact` without any white space, and `Value.pretty` with
one item or member a line, indented by two spaces a level.
-/

namespace CacheSim.Json

/-- A character as it stands in a JSON string. -/
def escapeChar (c : Char) : List Char :=
  if c = '\x22' then ['\\', '\x22']
  else if c = '\\' then ['\\', '\\']
  else if c = '\x08' then ['\\', 'b']
  else if c = '\t' then ['\\', 't']
  else if c = '\n' then ['\\', 'n']
  else if c = '\x0c' then ['\\', 'f']
  else if c = '\r' then ['\\', 'r']
  else if c.toNat < 0x20 then
    '\\' :: 'u' :: List.replicate (4 - (Text.hex c.toNat).length) '0' ++ Text.hex c.toNat
  else [c]

/-- A text as a JSON string. -/
def quote (s : String) : String :=
  String.ofList ('\x22' :: s.toList.flatMap escapeChar ++ ['\x22'])

/-- The number of a scaled decimal: positional from a hundred-thousandth up to sixteen whole
digits, always with a fractional part, and with an exponent outside of that range. -/
def scaledLiteral (s : Decimal.Scaled) : String :=
  let digits := Nat.toDigits 10 s.digits
  let point := digits.length + s.exponent
  if 0 ≤ s.exponent ∧ point ≤ 16 then s.positional ++ ".0"
  else if -5 < point ∧ point ≤ 16 then s.positional
  else
    let fraction := if digits.length = 1 then [] else '.' :: digits.tail
    String.ofList (digits.take 1 ++ fraction) ++ "e" ++ toString (point - 1)

namespace Value

/-- A word as a number. -/
def ofWord (n : UInt64) : Value :=
  .number (toString n)

/-- A float as a number; what is not finite becomes null. -/
def ofFloat (x : Float) : Value :=
  match Binary64.ofFloat x with
  | .nan => .null
  | .infinite _ => .null
  | .finite negative 0 _ => .number (Decimal.sign negative ++ "0.0")
  | .finite negative mantissa exponent =>
    .number (Decimal.sign negative ++ scaledLiteral (Decimal.shortest .even mantissa exponent))

/-- A text as a string. -/
def ofText (s : String) : Value :=
  .string (some s)

/-- A value that may be missing; a missing one is null. -/
def ofOption {α : Type} (f : α → Value) : Option α → Value
  | none => .null
  | some a => f a

mutual

/-- A value without white space. -/
def compact : Value → String
  | .null => "null"
  | .bool b => toString b
  | .number literal => literal
  | .string text => quote (text.getD "")
  | .array items => "[" ++ ",".intercalate (compactItems items) ++ "]"
  | .object members => "\x7b" ++ ",".intercalate (compactMembers members) ++ "\x7d"

/-- The items of an array without white space. -/
def compactItems : List Value → List String
  | [] => []
  | v :: vs => v.compact :: compactItems vs

/-- The members of an object without white space. -/
def compactMembers : List (Option String × Value) → List String
  | [] => []
  | (key, v) :: rest => (quote (key.getD "") ++ ":" ++ v.compact) :: compactMembers rest

end

/-- A line break and the indentation of a level. -/
def newline (level : Nat) : String :=
  String.ofList ('\n' :: List.replicate (2 * level) ' ')

/-- Parts between brackets, one a line. -/
def bracketed (opening closing : String) (level : Nat) (parts : List String) : String :=
  if parts.isEmpty then opening ++ closing
  else
    opening ++ newline (level + 1) ++ ("," ++ newline (level + 1)).intercalate parts ++
      newline level ++ closing

mutual

/-- A value with one item or member a line, at an indentation level. -/
def prettyAt (level : Nat) : Value → String
  | .null => "null"
  | .bool b => toString b
  | .number literal => literal
  | .string text => quote (text.getD "")
  | .array items => bracketed "[" "]" level (prettyItems (level + 1) items)
  | .object members => bracketed "\x7b" "\x7d" level (prettyMembers (level + 1) members)

/-- The items of an array at an indentation level. -/
def prettyItems (level : Nat) : List Value → List String
  | [] => []
  | v :: vs => v.prettyAt level :: prettyItems level vs

/-- The members of an object at an indentation level. -/
def prettyMembers (level : Nat) : List (Option String × Value) → List String
  | [] => []
  | (key, v) :: rest =>
    (quote (key.getD "") ++ ": " ++ v.prettyAt level) :: prettyMembers level rest

end

/-- A value with one item or member a line. -/
def pretty (v : Value) : String :=
  v.prettyAt 0

end Value

end CacheSim.Json
