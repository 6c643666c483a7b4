import CacheSim.Decimal.Binary64

/-!
# The shortest decimal of a binary64 number

Among the decimals that are nearer to a binary64 number than to any other, the shortest one is the
one with the fewest digits, and of those the nearest.  For one digit, two digits and so on, the
two neighbours of the number on the grid of decimals of that length are tested in exact
arithmetic; the first grid with a hit wins.
-/

namespace CacheSim.Decimal

/-- Which of two equally near decimals is taken. -/
inductive Tie where
  /-- The larger one. -/
  | up
  /-- The one with the even last digit. -/
  | even
  deriving DecidableEq

/-- A positive decimal `digits * 10 ^ exponent`. -/
structure Scaled where
  /-- The digits, read as a number. -/
  digits : Nat
  /-- The power of ten. -/
  exponent : Int
  deriving DecidableEq

/-- The reals that are read back as the positive binary64 number `mantissa * 2 ^ exponent`, in
units of `2 ^ (exponent - 2)`: lower end, number and upper end, and whether the ends belong to
them.  Below a power of two the neighbouring number is only half as far away. -/
structure Interval where
  low : Nat
  mid : Nat
  high : Nat
  closed : Bool

/-- The interval of a positive binary64 number. -/
def interval (mantissa : Nat) (exponent : Int) : Interval where
  low := 4 * mantissa - (if mantissa = 1 <<< 52 ∧ -1074 < exponent then 1 else 2)
  mid := 4 * mantissa
  high := 4 * mantissa + 2
  closed := mantissa % 2 == 0

/-- The number of decimal digits of a natural number. -/
def digitCount (n : Nat) : Nat :=
  (Nat.toDigits 10 n).length

/-- The least power of ten above the positive number `num / den`. -/
def magnitude (num den : Nat) : Int :=
  let guess : Int := (digitCount num : Int) - digitCount den
  if num * Nat.pow 10 (-guess).toNat < den * Nat.pow 10 guess.toNat then guess else guess + 1

/-- The decimal of grid `10 ^ unit` that hits the interval, if there is one.  The interval is in
units of `num / den`. -/
def hit? (tie : Tie) (i : Interval) (num den : Nat) (unit : Int) : Option Scaled :=
  -- a grid point `d` stands for `d * step`, a number `x` of the interval for `x * scale`
  let step := Nat.pow 10 unit.toNat * den
  let scale := num * Nat.pow 10 (-unit).toNat
  let below := i.mid * scale / step
  let inside (d : Nat) : Bool :=
    if i.closed then decide (i.low * scale ≤ d * step) && decide (d * step ≤ i.high * scale)
    else decide (i.low * scale < d * step) && decide (d * step < i.high * scale)
  let down := i.mid * scale - below * step
  let up := (below + 1) * step - i.mid * scale
  let preferUp := decide (up < down) || (up == down && (tie == .up || below % 2 == 1))
  let first := if preferUp then below + 1 else below
  let second := if preferUp then below else below + 1
  if inside first && first != 0 then some ⟨first, unit⟩
  else if inside second && second != 0 then some ⟨second, unit⟩
  else none

/-- The first hit among `n` grids, from the grid `10 ^ unit` on to finer ones. -/
def firstHit? (tie : Tie) (i : Interval) (num den : Nat) : Nat → Int → Option Scaled
  | 0, _ => none
  | n + 1, unit => (hit? tie i num den unit).or (firstHit? tie i num den n (unit - 1))

/-- Takes the zeros off the end of the digits. -/
def stripZeros : Nat → Scaled → Scaled
  | 0, s => s
  | n + 1, s =>
    if s.digits % 10 = 0 then stripZeros n ⟨s.digits / 10, s.exponent + 1⟩ else s

/-- The shortest decimal of the positive binary64 number `mantissa * 2 ^ exponent`.  Seventeen
digits always suffice. -/
def shortest (tie : Tie) (mantissa : Nat) (exponent : Int) : Scaled :=
  let i := interval mantissa exponent
  let num := 1 <<< (exponent - 2).toNat
  let den := 1 <<< (2 - exponent).toNat
  let top := magnitude (i.mid * num) den
  stripZeros 17 ((firstHit? tie i num den 17 (top - 1)).getD ⟨mantissa, 0⟩)

end CacheSim.Decimal
