import CacheSim.Decimal.Shortest

/-!
# Floats in plain decimal notation

The text of a float in messages and in the metrics: the shortest digits that read back, always in
positional notation, and without a fractional part where there is none.
-/

namespace CacheSim.Decimal

/-- The digits of a decimal with the point in its place and no exponent. -/
def Scaled.positional (s : Scaled) : String :=
  let digits := Nat.toDigits 10 s.digits
  if 0 ≤ s.exponent then String.ofList (digits ++ List.replicate s.exponent.toNat '0')
  else
    let places := s.exponent.natAbs
    let padded := List.replicate (places + 1 - digits.length) '0' ++ digits
    let whole := padded.length - places
    String.ofList (padded.take whole ++ '.' :: padded.drop whole)

/-- The sign of a number as text. -/
def sign (negative : Bool) : String :=
  if negative then "-" else ""

/-- The text of a float in positional notation. -/
def positional (x : Float) : String :=
  match Binary64.ofFloat x with
  | .nan => "NaN"
  | .infinite negative => sign negative ++ "inf"
  | .finite negative 0 _ => sign negative ++ "0"
  | .finite negative mantissa exponent =>
    sign negative ++ (shortest .up mantissa exponent).positional

end CacheSim.Decimal
