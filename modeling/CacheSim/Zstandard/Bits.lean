/-!
# Rows of bits

Numbers of any width stand in bytes without gaps.  There are two ways to read them.  Upwards, bits
are taken from the first byte on, the lowest first, and the first bit of a number is its lowest.
Downwards, bits are taken from the last byte back, the highest first, and the first bit of a number
is its highest; a single one above them marks where they begin.
-/

namespace CacheSim.Zstandard

/-- Bytes that are read upwards. -/
structure UpwardBits where
  /-- The bytes that are left, the one that is being read first. -/
  bytes : List UInt8
  /-- How many bits of the first byte have been read. -/
  used : Nat := 0

namespace UpwardBits

/-- The next bit. -/
def next? : UpwardBits → Option (Bool × UpwardBits)
  | ⟨[], _⟩ => none
  | ⟨byte :: rest, used⟩ =>
    some (byte.toNat.testBit used, if used < 7 then ⟨byte :: rest, used + 1⟩ else ⟨rest, 0⟩)

/-- The next number of some width. -/
def read? : Nat → UpwardBits → Option (Nat × UpwardBits)
  | 0, bits => some (0, bits)
  | width + 1, bits => do
    let (low, bits) ← bits.next?
    let (high, bits) ← read? width bits
    some (low.toNat + 2 * high, bits)

/-- The bytes of which no bit has been read. -/
def untouched (bits : UpwardBits) : List UInt8 :=
  if bits.used = 0 then bits.bytes else bits.bytes.tail

end UpwardBits

/-- Bits in the order in which they are read downwards. -/
abbrev DownwardBits := List Bool

namespace DownwardBits

/-- The bits of a byte, the highest first. -/
def ofByte (byte : UInt8) : DownwardBits :=
  (List.range 8).map fun place => byte.toNat.testBit (7 - place)

/-- The bits of bytes.  There are none if the last byte holds no mark. -/
def ofBytes? (bytes : List UInt8) : Option DownwardBits :=
  match bytes.reverse with
  | [] => none
  | last :: rest =>
    if last = 0 then none
    else some (((ofByte last).dropWhile fun bit => !bit).tail ++ rest.flatMap ofByte)

/-- The number that begins with the bits of `high` and goes on for some width. -/
def readOn? (high : Nat) : Nat → DownwardBits → Option (Nat × DownwardBits)
  | 0, bits => some (high, bits)
  | _ + 1, [] => none
  | width + 1, bit :: bits => readOn? (2 * high + bit.toNat) width bits

/-- The next number of some width. -/
def read? (width : Nat) (bits : DownwardBits) : Option (Nat × DownwardBits) :=
  readOn? 0 width bits

/-- The next number of some width, where zeros follow the last bit. -/
def peek (width : Nat) (bits : DownwardBits) : Nat :=
  let seen := bits.take width
  seen.foldl (fun high bit => 2 * high + bit.toNat) 0 <<< (width - seen.length)

end DownwardBits

end CacheSim.Zstandard
