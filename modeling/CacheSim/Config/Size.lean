import CacheSim.Text.Blank
import CacheSim.Text.Quoted
import CacheSim.Text.Unsigned

/-!
# Cache sizes

The written form of a cache size: decimal digits and a unit, with white space allowed at both ends
and between the two.  All units are binary, and letters of either case may be used.
-/

namespace CacheSim.Size

/-- Why a text is no size. -/
inductive Error where
  /-- It does not begin with digits of a word. -/
  | noNumber
  /-- The unit, in small letters, is not known. -/
  | unknownUnit (unit : List Char)
  /-- The size does not fit into a word. -/
  | tooLarge
  deriving DecidableEq

namespace Error

/-- The text of the error about `input`. -/
def message (input : String) : Error → String
  | noNumber => "invalid size: " ++ Text.quoted input
  | unknownUnit unit =>
    "unknown size suffix " ++ Text.quoted (String.ofList unit) ++ " in " ++ Text.quoted input
  | tooLarge => "size overflows u64: " ++ Text.quoted input

end Error

/-- The units in small letters, each with its power of 1024. -/
def units : List (List Char × Nat) := [
  ([], 0), (['b'], 0),
  (['k'], 1), (['k', 'b'], 1), (['k', 'i', 'b'], 1),
  (['m'], 2), (['m', 'b'], 2), (['m', 'i', 'b'], 2),
  (['g'], 3), (['g', 'b'], 3), (['g', 'i', 'b'], 3),
  (['t'], 4), (['t', 'b'], 4), (['t', 'i', 'b'], 4)]

/-- The size that a text stands for. -/
def ofChars (input : List Char) : Except Error UInt64 :=
  let text := Text.trim input
  match Text.readDigits? (text.takeWhile Text.isDigit) with
  | none => .error .noNumber
  | some n =>
    let unit := (Text.trim (text.dropWhile Text.isDigit)).map Char.toLower
    match units.lookup unit with
    | none => .error (.unknownUnit unit)
    | some power =>
      let size := n.toNat * Nat.pow 1024 power
      if size < UInt64.size then .ok (UInt64.ofNat size) else .error .tooLarge

/-- The size that a text stands for. -/
def parse (input : String) : Except Error UInt64 :=
  ofChars input.toList

end CacheSim.Size
