import CacheSim.Decimal.Positional

/-!
# Floats with a fixed number of decimal places
-/

namespace CacheSim.Decimal

/-- The text of a float with a fixed, positive number of decimal places.  The exact value is
rounded, and a value half-way between two texts goes to the one with the even last digit. -/
def fixed (places : Nat) (x : Float) : String :=
  match Binary64.ofFloat x with
  | .nan => "NaN"
  | .infinite negative => sign negative ++ "inf"
  | .finite negative mantissa exponent =>
    let num := mantissa <<< exponent.toNat * Nat.pow 10 places
    let units := Binary64.roundDiv num (1 <<< (-exponent).toNat)
    sign negative ++ Scaled.positional ⟨units, -places⟩

end CacheSim.Decimal
