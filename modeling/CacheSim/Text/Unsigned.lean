/-!
# Unsigned numbers in decimal

The written form of a 64-bit word: one or more ASCII digits, after a plus sign if there is one.
A number that does not fit into a word has no reading.
-/

namespace CacheSim.Text

/-- Whether a character is an ASCII digit. -/
def isDigit (c : Char) : Bool :=
  '0' ≤ c && c ≤ '9'

/-- The value of a digit. -/
def digitValue (c : Char) : Nat :=
  c.toNat - '0'.toNat

/-- The number that a row of digits stands for. -/
def digitsValue (cs : List Char) : Nat :=
  cs.foldl (fun n c => 10 * n + digitValue c) 0

/-- The word that a non-empty row of digits stands for. -/
def readDigits? (cs : List Char) : Option UInt64 :=
  if cs ≠ [] ∧ cs.all isDigit ∧ digitsValue cs < UInt64.size then
    some (UInt64.ofNat (digitsValue cs))
  else none

/-- The word that a text stands for. -/
def readUnsigned? : List Char → Option UInt64
  | '+' :: cs => readDigits? cs
  | cs => readDigits? cs

/-- The decimal digits of a word. -/
def unsigned (n : UInt64) : List Char :=
  Nat.toDigits 10 n.toNat

end CacheSim.Text
