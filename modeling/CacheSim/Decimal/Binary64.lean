/-!
# Binary64 numbers taken apart

A finite binary64 number is a sign, a mantissa below `2 ^ 53` and a power of two.  This module
reads these parts off the bits of a float, and goes the other way: `Binary64.nearest` is the float
nearest to a ratio of natural numbers.
-/

namespace CacheSim

/-- The value of a float: not a number, an infinity, or plus or minus `mantissa * 2 ^ exponent`. -/
inductive Binary64 where
  | nan
  | infinite (negative : Bool)
  | finite (negative : Bool) (mantissa : Nat) (exponent : Int)
  deriving DecidableEq

namespace Binary64

/-- The parts that a 64-bit pattern stands for.  Eleven bits hold the exponent; a mantissa has an
implicit leading bit unless they are all zero. -/
def ofBits (bits : Nat) : Binary64 :=
  let negative := decide (1 <<< 63 ≤ bits)
  let exponent : Nat := bits >>> 52 % 1 <<< 11
  let fraction : Nat := bits % 1 <<< 52
  if exponent = 1 <<< 11 - 1 then
    if fraction = 0 then infinite negative else nan
  else if exponent = 0 then finite negative fraction (-1074)
  else finite negative (1 <<< 52 + fraction) ((exponent : Int) - 1075)

/-- The parts of a float. -/
def ofFloat (x : Float) : Binary64 :=
  ofBits x.toBits.toNat

/-- The quotient of two natural numbers, rounded to the nearest natural number; halves go to the
even neighbour. -/
def roundDiv (num den : Nat) : Nat :=
  let q := num / den
  let r := num % den
  if 2 * r < den then q
  else if den < 2 * r then q + 1
  else q + q % 2

/-- The binary exponent for a ratio: the least one, from -1074 on, with which the mantissa is below
`2 ^ 53`. -/
def exponentFor (num den : Nat) : Int :=
  let guess : Int := max (-1074) ((num.log2 : Int) - den.log2 - 53)
  if num <<< (-(53 + guess)).toNat < den <<< (53 + guess).toNat then guess
  else guess + 1

/-- The bit pattern of infinity. -/
def infinityBits : Nat := (1 <<< 11 - 1) <<< 52

/-- The bit pattern of the positive binary64 number nearest to `num / den`; halves go to the even
mantissa, and what is too large becomes infinity. -/
def nearestBits (num den : Nat) : Nat :=
  if num = 0 then 0
  else
    let e := exponentFor num den
    let m := roundDiv (num <<< (-e).toNat) (den <<< e.toNat)
    let bits := (e + 1074).toNat <<< 52 + m
    min bits infinityBits

/-- The bit pattern of what is not a number. -/
def nanBits : Nat := infinityBits + 1 <<< 51

/-- A bit pattern with a sign. -/
def withSign (negative : Bool) (bits : Nat) : UInt64 :=
  UInt64.ofNat (bits + if negative then 1 <<< 63 else 0)

/-- The float nearest to `num / den`, with a sign. -/
def nearest (negative : Bool) (num den : Nat) : Float :=
  Float.ofBits (withSign negative (nearestBits num den))

end Binary64

end CacheSim
