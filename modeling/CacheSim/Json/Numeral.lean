import CacheSim.Decimal.Binary64
import CacheSim.Text.Unsigned

/-!
# What JSON numbers stand for

A number in the place of a word must be written as plain digits.  A number in the place of a
float is read in two steps: its leading digits, as long as they fit into a word, become a float,
and one operation with a power of ten scales that float.  The result is exact for the short
decimals people write, but may miss the nearest float by a little when there are many digits.
-/

namespace CacheSim.Json

/-- The leading digits of a number as a word, and the power of ten it is to be scaled by. -/
structure Mantissa where
  /-- The digits that fit into a word. -/
  digits : Nat := 0
  /-- The power of ten. -/
  exponent : Int := 0
  /-- Whether all digits so far were taken. -/
  isOpen : Bool := true

namespace Mantissa

/-- The mantissa after a further digit before the point.  A digit that does not fit any more
counts as a power of ten, and so do all after it. -/
def addWhole (m : Mantissa) (c : Char) : Mantissa :=
  let next := 10 * m.digits + Text.digitValue c
  if m.isOpen && next < UInt64.size then { m with digits := next }
  else { m with exponent := m.exponent + 1, isOpen := false }

/-- The mantissa after a further digit behind the point.  A digit that does not fit any more is
left out, and so are all after it. -/
def addFraction (m : Mantissa) (c : Char) : Mantissa :=
  let next := 10 * m.digits + Text.digitValue c
  if m.isOpen && next < UInt64.size then { m with digits := next, exponent := m.exponent - 1 }
  else { m with isOpen := false }

/-- The mantissa of the digits before and behind the point. -/
def ofDigits (whole fraction : List Char) : Mantissa :=
  fraction.foldl addFraction { whole.foldl addWhole {} with isOpen := true }

end Mantissa

/-- The largest power of ten that is a finite float. -/
def maxPower : Nat := 308

/-- The float of a power of ten up to the largest. -/
def powerOfTen (n : Nat) : Float :=
  Binary64.nearest false (Nat.pow 10 n) 1

/-- A float scaled by a power of ten, unless it becomes infinite.  A power of ten below the
smallest is split off first, at most `n` times, which leaves zero. -/
def scale? : Nat → Float → Int → Option Float
  | 0, _, _ => some 0.0
  | n + 1, f, exponent =>
    if exponent.natAbs ≤ maxPower then
      if 0 ≤ exponent then
        let f := f * powerOfTen exponent.natAbs
        if f.isInf then none else some f
      else some (f / powerOfTen exponent.natAbs)
    else if f == 0.0 then some f
    else if 0 ≤ exponent then none
    else scale? n (f / powerOfTen maxPower) (exponent + maxPower)

/-- The exponents are 32-bit numbers. -/
def maxExponent : Nat := 1 <<< 31 - 1

/-- A sum of exponents, kept in range. -/
def clampExponent (e : Int) : Int :=
  max (-maxExponent - 1) (min maxExponent e)

/-- The absolute value of the float of a number, given its mantissa and the digits of its
exponent. -/
def magnitude? (m : Mantissa) (negativeExponent : Bool) (exponent : List Char) : Option Float :=
  let e := Text.digitsValue exponent
  if maxExponent < e then
    if m.digits ≠ 0 ∧ !negativeExponent then none else some 0.0
  else
    let e : Int := if negativeExponent then -e else e
    scale? 4 (UInt64.ofNat m.digits).toFloat (clampExponent (m.exponent + e))

/-- The sign and digits of an exponent. -/
def splitExponent (cs : List Char) : Bool × List Char :=
  match cs.tail with
  | '-' :: digits => (true, digits)
  | '+' :: digits => (false, digits)
  | digits => (false, digits)

/-- The word that a number stands for. -/
def toWord? (literal : String) : Option UInt64 :=
  Text.readDigits? literal.toList

/-- The float that a number stands for. -/
def toFloat? (literal : String) : Option Float :=
  let cs := literal.toList
  let negative := cs.head? == some '-'
  let cs := if negative then cs.tail else cs
  let whole := cs.takeWhile Text.isDigit
  let cs := cs.dropWhile Text.isDigit
  let fraction := if cs.head? == some '.' then cs.tail.takeWhile Text.isDigit else []
  let cs := if cs.head? == some '.' then cs.tail.dropWhile Text.isDigit else cs
  let (negativeExponent, exponent) := splitExponent cs
  (magnitude? (.ofDigits whole fraction) negativeExponent exponent).map fun f =>
    if negative then -f else f

end CacheSim.Json
