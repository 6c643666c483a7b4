/-!
# The FNV-1a hash

A hash of bytes in one word.  Starting from a fixed word, every byte is put into the lowest bits by
an exclusive or, and a multiplication by a prime carries it upwards; products wrap around.
-/

namespace CacheSim

/-- The hash of some bytes, with one more byte behind them. -/
def fnvPush (hash : UInt64) (byte : UInt8) : UInt64 :=
  (hash ^^^ byte.toUInt64) * 0x100000001B3

/-- The FNV-1a hash of bytes. -/
def fnv (bytes : List UInt8) : UInt64 :=
  bytes.foldl fnvPush 0xCBF29CE484222325

end CacheSim
