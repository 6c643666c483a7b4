import CacheSim.Decimal.Binary64
import CacheSim.Text.Unsigned

/-!
# Reading floats

The float that a decimal text stands for is the one nearest to it.  A text is a sign, if any, and
then digits with at most one point among them and an exponent, if any; or a word for infinity or
for what is not a number.
-/

namespace CacheSim.Decimal

/-- The sign of a text, and the rest of it. -/
def splitSign : List Char → Bool × List Char
  | '-' :: cs => (true, cs)
  | '+' :: cs => (false, cs)
  | cs => (false, cs)

/-- The exponent that a text stands for; no text means zero. -/
def readExponent? : List Char → Option Int
  | [] => some 0
  | e :: cs =>
    let (negative, digits) := splitSign cs
    if (e = 'e' ∨ e = 'E') ∧ digits ≠ [] ∧ digits.all Text.isDigit then
      let n : Int := Text.digitsValue digits
      some (if negative then -n else n)
    else none

/-- The bits of the float nearest to `digits * 10 ^ exponent`.  Exponents that are far out of range
are settled without computing the power. -/
def scaledBits (digits : Nat) (exponent : Int) : Nat :=
  let top := exponent + (Nat.toDigits 10 digits).length
  if digits = 0 ∨ top < -400 then 0
  else if 400 < top then Binary64.infinityBits
  else Binary64.nearestBits (digits * Nat.pow 10 exponent.toNat) (Nat.pow 10 (-exponent).toNat)

/-- The bits of the float that a decimal without a sign stands for. -/
def readDecimal? (cs : List Char) : Option Nat :=
  let whole := cs.takeWhile Text.isDigit
  let cs := cs.dropWhile Text.isDigit
  let (fraction, cs) :=
    match cs with
    | '.' :: cs => (cs.takeWhile Text.isDigit, cs.dropWhile Text.isDigit)
    | cs => ([], cs)
  if whole = [] ∧ fraction = [] then none
  else
    (readExponent? cs).map fun e =>
      scaledBits (Text.digitsValue (whole ++ fraction)) (e - fraction.length)

/-- The bits of the float that a text stands for.  Unlike the float, they tell the sign of what is
not a number. -/
def readBits? (text : String) : Option UInt64 :=
  let (negative, cs) := splitSign text.toList
  let word := String.ofList (cs.map Char.toLower)
  let magnitude :=
    if word = "nan" then some Binary64.nanBits
    else if word = "inf" ∨ word = "infinity" then some Binary64.infinityBits
    else readDecimal? cs
  magnitude.map (Binary64.withSign negative)

end CacheSim.Decimal
