/-!
# Numbers in bytes, least significant byte first
-/

namespace CacheSim.LittleEndian

/-- The number that bytes stand for. -/
def toNat (bytes : List UInt8) : Nat :=
  bytes.foldr (fun b n => b.toNat + 256 * n) 0

/-- The lowest `width` bytes of a number. -/
def ofNat : Nat → Nat → List UInt8
  | 0, _ => []
  | width + 1, n => UInt8.ofNat (n % 256) :: ofNat width (n / 256)

theorem length_ofNat (width n : Nat) : (ofNat width n).length = width := by
  induction width generalizing n with
  | zero => rfl
  | succ width ih => simp [ofNat, ih]

theorem toNat_ofNat (width n : Nat) : toNat (ofNat width n) = n % Nat.pow 256 width := by
  induction width generalizing n with
  | zero => simp [ofNat, toNat, Nat.mod_one]
  | succ width ih =>
    have hp : Nat.pow 256 (width + 1) = 256 * Nat.pow 256 width := Nat.pow_succ'
    show (UInt8.ofNat (n % 256)).toNat + 256 * toNat (ofNat width (n / 256)) = _
    rw [ih, hp, Nat.mod_mul, UInt8.toNat_ofNat', Nat.mod_mod_of_dvd _ (by decide)]

theorem toNat_lt (bytes : List UInt8) : toNat bytes < Nat.pow 256 bytes.length := by
  induction bytes with
  | nil => exact Nat.one_pos
  | cons b bytes ih =>
    have hb := b.toNat_lt
    have hp : Nat.pow 256 (bytes.length + 1) = 256 * Nat.pow 256 bytes.length := Nat.pow_succ'
    show b.toNat + 256 * toNat bytes < Nat.pow 256 (bytes.length + 1)
    omega

theorem ofNat_toNat (bytes : List UInt8) : ofNat bytes.length (toNat bytes) = bytes := by
  induction bytes with
  | nil => rfl
  | cons b bytes ih =>
    have hb := b.toNat_lt
    have hlow : (b.toNat + 256 * toNat bytes) % 256 = b.toNat := by omega
    have hhigh : (b.toNat + 256 * toNat bytes) / 256 = toNat bytes := by omega
    show UInt8.ofNat ((b.toNat + 256 * toNat bytes) % 256) ::
      ofNat bytes.length ((b.toNat + 256 * toNat bytes) / 256) = _
    rw [hlow, hhigh, ih, UInt8.ofNat_toNat]

end CacheSim.LittleEndian
