import Mathlib
import CacheSim.Quantile

/-!
# The first and the last position

Percentile `0.0` of a population is its first element and percentile `1.0` is its last, although
the position is computed in binary64 arithmetic.  Nothing is lost on the way as long as there are
fewer than `2 ^ 53` elements: such a number is a mantissa of 53 bits times a power of two, `1.0` is
another, and rounding their product drops zero bits only.

* `quantileIndex_zero`, `quantileIndex_nan`: the first position;
* `quantileIndex_one`: the last position, in a population of fewer than `2 ^ 53` elements.
-/

namespace CacheSim

open Float.Model Float.Model.UnpackedFloat

variable {b k m n : Nat} {e : Int} {x : Float}

/-! ## Rounding without loss -/

/-- Zero bits may be shifted out. -/
lemma shiftRight_mul_two_pow (m k : Nat) :
    (ExtendedMantissa.mk (m * 2 ^ k) false false) >>> k = ⟨m, false, false⟩ := by
  change k.repeat ExtendedMantissa.shiftRightOne _ = _
  induction k generalizing m with
  | zero =>
    rw [Nat.pow_zero, Nat.mul_one]
    rfl
  | succ k ih =>
    rw [Nat.repeat, Nat.pow_succ, Nat.mul_comm (2 ^ k), ← Nat.mul_assoc, ih]
    simp [ExtendedMantissa.shiftRightOne]

lemma log2_mul_two_pow (hm : m ≠ 0) : (m * 2 ^ k).log2 = m.log2 + k := by
  rw [Nat.log2_eq_log_two, Nat.log2_eq_log_two]
  induction k with
  | zero => simp
  | succ k ih =>
    rw [Nat.pow_succ, ← Nat.mul_assoc, Nat.log_mul_base (by decide) (by positivity), ih,
      Nat.add_assoc]

/-- A mantissa that is followed by zero bits is shifted back to 53 bits. -/
lemma shiftToTargetExponent_exact (k : Nat) (hm : m.log2 = 52) (he : -1074 ≤ e) :
    shiftToTargetExponent .binary64 (m * 2 ^ k) (e - k) .exact = (⟨m, false, false⟩, e) := by
  have hpos : m ≠ 0 := by
    rintro rfl
    simp at hm
  have htarget : Format.binary64.targetExponent (totalExponent (m * 2 ^ k) (e - k)) = e := by
    rw [totalExponent, log2_mul_two_pow hpos, hm]
    change max (((52 + k : Nat) : Int) + 1 + (e - k) - (53 : Nat)) (-1074) = e
    omega
  rw [shiftToTargetExponent, htarget, shiftToExponent, show (e - (e - k)).toNat = k by omega,
    ExtendedMantissa.ofMantissaAndAccuracy, shiftRight_mul_two_pow, Int.sub_add_cancel]

lemma roundWithAccuracy_exact (k : Nat) (hm : m.log2 = 52) (hpos : 0 < m) (he : -1074 ≤ e) :
    roundWithAccuracy .binary64 .positive (m * 2 ^ k) (e - k) .exact =
      .finite .positive m e hpos := by
  have hrounded : (ExtendedMantissa.mk m false false).roundedMantissa = m := rfl
  have hrest := shiftToTargetExponent_exact 0 hm he
  rw [Nat.pow_zero, Nat.mul_one, Int.natCast_zero, Int.sub_zero] at hrest
  simp only [roundWithAccuracy, shiftToTargetExponent_exact k hm he, hrounded, hrest,
    dif_neg hpos.ne']

/-! ## The bits of a normal number -/

/-- The first bit of the mantissa is left out of the bits. -/
lemma toNat_one_append (hlow : 2 ^ 52 ≤ m) (hhigh : m < 2 ^ 53) :
    (1#1 ++ BitVec.ofNat 52 m).toNat = m := by
  rw [BitVec.toNat_append, ← Nat.shiftLeft_add_eq_or_of_lt (BitVec.isLt _), Nat.shiftLeft_eq,
    BitVec.toNat_ofNat, BitVec.toNat_ofNat]
  omega

lemma pack_normal (hm : m.log2 = 52) (hpos : 0 < m) (hb : e + (1023 : Nat) + (52 : Nat) = b)
    (hlt : b < 2047) :
    UnpackedFloat.pack .binary64 (.finite .positive m e hpos) =
      packComponents .binary64 .positive (BitVec.ofNat 11 b) (BitVec.ofNat 52 m) := by
  change ite (2 ^ 11 ≤ (e + (1023 : Nat) + (52 : Nat)).toNat + 1) _
    (ite (m.log2 + 1 = 53) (packComponents .binary64 .positive
      (BitVec.ofNat 11 (e + (1023 : Nat) + (52 : Nat)).toNat) (BitVec.ofNat 52 m)) _) = _
  rw [hb, Int.toNat_natCast, if_neg (by omega), if_pos (by omega)]

lemma unpack_normal (hm : m.log2 = 52) (hpos : 0 < m) (hb : e + (1023 : Nat) + (52 : Nat) = b)
    (hzero : 0 < b) (hlt : b < 2047) :
    UnpackedFloat.unpack .binary64
      (packComponents .binary64 .positive (BitVec.ofNat 11 b) (BitVec.ofNat 52 m)) =
      .finite .positive m e hpos := by
  obtain ⟨hlow, hhigh⟩ := (Nat.log2_eq_iff hpos.ne').mp hm
  have hbits : (BitVec.ofNat 11 b).toNat = b := by
    rw [BitVec.toNat_ofNat, Nat.mod_eq_of_lt (by omega)]
  have hfinite : BitVec.ofNat 11 b ≠ -1#11 := by
    rw [ne_eq, ← BitVec.toNat_inj, hbits, BitVec.neg_one_eq_allOnes, BitVec.toNat_allOnes]
    omega
  have hnormal : BitVec.ofNat 11 b ≠ 0#11 := by
    rw [ne_eq, ← BitVec.toNat_inj, hbits, BitVec.toNat_zero]
    omega
  unfold UnpackedFloat.unpack
  simp only [unpackMantissa_packComponents, unpackExponent_packComponents,
    unpackSign_packComponents, hfinite, hnormal, if_false, toNat_one_append hlow hhigh, hbits]
  congr 1
  change (b : Int) - ((1023 : Nat) + (52 : Nat)) = e
  omega

/-- A normal number is read back from its bits. -/
lemma unpack_pack_normal (hm : m.log2 = 52) (hpos : 0 < m) (he : -1074 ≤ e) (he' : e ≤ 971) :
    (pack (.finite .positive m e hpos)).unpack = .finite .positive m e hpos := by
  obtain ⟨b, hb⟩ : ∃ b : Nat, e + (1023 : Nat) + (52 : Nat) = b :=
    Int.eq_ofNat_of_zero_le (by omega)
  change UnpackedFloat.unpack .binary64 (UnpackedFloat.pack .binary64 _) = _
  rw [pack_normal hm hpos hb (by omega), unpack_normal hm hpos hb (by omega) (by omega)]

/-! ## Counts as floats -/

/-- A count of at most 53 bits, shifted to 53 bits. -/
lemma log2_shifted (hn : 0 < n) (hlt : n < 2 ^ 53) : (n * 2 ^ (52 - n.log2)).log2 = 52 := by
  have hlog : n.log2 < 53 := (Nat.log2_lt hn.ne').mpr hlt
  rw [log2_mul_two_pow hn.ne']
  omega

/-- This is how a count is converted. -/
lemma unpack_toFloat (hn : 0 < n) (hlt : n < 2 ^ 53) :
    (UInt64.ofNat n).toFloat.toModel.unpack =
      .finite .positive (n * 2 ^ (52 - n.log2)) (n.log2 - 52) (by positivity) := by
  have hlog : n.log2 < 53 := (Nat.log2_lt hn.ne').mpr hlt
  have hnormal := log2_shifted hn hlt
  have hword : (UInt64.ofNat n).toNat = n := UInt64.toNat_ofNat_of_lt' (hlt.trans (by decide))
  have htarget : Format.binary64.targetExponent (totalExponent n 0) = n.log2 - 52 := by
    change max ((n.log2 : Int) + 1 + 0 - (53 : Nat)) (-1074) = _
    omega
  have hexact := roundWithAccuracy_exact (e := n.log2 - 52) 0 hnormal (by positivity) (by omega)
  rw [Nat.pow_zero, Nat.mul_one, Int.natCast_zero, Int.sub_zero] at hexact
  have hround : UnpackedFloat.normalize .binary64 n 0 .positive =
      .finite .positive (n * 2 ^ (52 - n.log2)) (n.log2 - 52) (by positivity) := by
    rw [UnpackedFloat.normalize, Int.compare_eq_gt.mpr (by omega : (0 : Int) < n)]
    simp only [UnpackedFloat.round, decreaseExponent, Int.toNat_natCast, htarget]
    rw [show (0 - ((n.log2 : Int) - 52)).toNat = 52 - n.log2 by omega, Nat.shiftLeft_eq,
      show 0 - ((52 - n.log2 : Nat) : Int) = n.log2 - 52 by omega, hexact]
  change (pack (UnpackedFloat.normalize .binary64 ((UInt64.ofNat n).toNat : Int) 0
    .positive)).unpack = _
  rw [hword, hround, unpack_pack_normal hnormal (by positivity) (by omega) (by omega)]

/-- One is neutral. -/
lemma unpack_one_mul (hm : m.log2 = 52) (hpos : 0 < m) (he : -1074 ≤ e) (he' : e ≤ 971)
    (hx : x.toModel.unpack = .finite .positive m e hpos) :
    (1.0 * x).toModel.unpack = .finite .positive m e hpos := by
  have hone : (1.0 : Float).toModel.unpack = .finite .positive (2 ^ 52) (-52) (by decide) := rfl
  change (pack (UnpackedFloat.mul .binary64 (1.0 : Float).toModel.unpack x.toModel.unpack)).unpack
    = _
  rw [hone, hx]
  change (pack (roundWithAccuracy .binary64 .positive (2 ^ 52 * m) (-(52 : Nat) + e)
    .exact)).unpack = _
  rw [Nat.mul_comm, Int.add_comm, ← Int.sub_eq_add_neg, roundWithAccuracy_exact 52 hm hpos he,
    unpack_pack_normal hm hpos he he']

/-- A count is read back, since the bits behind the point are zero. -/
lemma toUInt64_of_unpack (hn : 0 < n) (hlt : n < 2 ^ 53)
    (hx : x.toModel.unpack =
      .finite .positive (n * 2 ^ (52 - n.log2)) (n.log2 - 52) (by positivity)) :
    x.toUInt64.toNat = n := by
  have hlog : n.log2 < 53 := (Nat.log2_lt hn.ne').mpr hlt
  have hint : roundToInt .positive (n * 2 ^ (52 - n.log2)) (n.log2 - 52) = n := by
    simp only [roundToInt, decreaseExponent, shiftToExponent]
    rw [show ((n.log2 : Int) - 52 - 0).toNat = 0 by omega, Nat.shiftLeft_zero,
      show (0 - ((n.log2 : Int) - 52 - (0 : Nat))).toNat = 52 - n.log2 by omega,
      ExtendedMantissa.ofMantissaAndAccuracy, shiftRight_mul_two_pow]
    rfl
  change (UnpackedFloat.toUInt64 x.toModel.unpack).toNat = n
  rw [hx, UnpackedFloat.toUInt64, UnpackedFloat.toInt, hint, Int.toNat_natCast, UInt64.ofNatClamp,
    dif_pos (hlt.trans (by decide))]
  rfl

/-- Zero times any float is truncated to zero, also where the product is not a number. -/
lemma toUInt64_zero_mul (x : Float) : (0.0 * x).toUInt64 = 0 := by
  have hzero : (0.0 : Float).toModel.unpack = .zero .positive := rfl
  have hnan : (pack .notANumber).unpack.toUInt64 = 0 := by decide
  have hzeros : ∀ s, (pack (.zero s)).unpack.toUInt64 = 0 := by
    intro s
    cases s <;> decide
  change (pack (UnpackedFloat.mul .binary64 (0.0 : Float).toModel.unpack
    x.toModel.unpack)).unpack.toUInt64 = 0
  rw [hzero]
  cases x.toModel.unpack with
  | notANumber => exact hnan
  | infinity s => exact hnan
  | zero s => exact hzeros _
  | finite s m e hpos => exact hzeros _

lemma lt_iff_unpack {p q : Float} :
    p < q ↔ UnpackedFloat.lt p.toModel.unpack q.toModel.unpack = true := by
  change decide (p.toModel < q.toModel) = true ↔ _
  rw [decide_eq_true_eq]
  rfl

/-- What is not a number lies neither below nor above anything. -/
lemma not_lt_of_unpack {p q : Float} (h : p.toModel.unpack = .notANumber) :
    ¬ p < q ∧ ¬ q < p := by
  rw [lt_iff_unpack, lt_iff_unpack, h]
  cases q.toModel.unpack <;> exact ⟨Bool.false_ne_true, Bool.false_ne_true⟩

/-- What is not a number stays so in a product, which is truncated to zero. -/
lemma toUInt64_clampUnit_mul {p : Float} (hp : p.isNaN = true) (x : Float) :
    (clampUnit p * x).toUInt64 = 0 := by
  have hnan : p.toModel.unpack = .notANumber := by
    change p.toModel.unpack.isNaN = true at hp
    cases hunpack : p.toModel.unpack with
    | notANumber => rfl
    | infinity | zero | finite =>
      rw [hunpack] at hp
      exact absurd hp Bool.false_ne_true
  have hclamp : clampUnit p = p := by
    rw [clampUnit, if_neg (not_lt_of_unpack hnan).1, if_neg (not_lt_of_unpack hnan).2]
  change (pack (UnpackedFloat.mul .binary64 (clampUnit p).toModel.unpack
    x.toModel.unpack)).unpack.toUInt64 = 0
  rw [hclamp, hnan]
  exact show (pack .notANumber).unpack.toUInt64 = 0 by decide

/-! ## Positions -/

/-- The lowest percentile is the first element. -/
theorem quantileIndex_zero (n : Nat) : quantileIndex 0.0 n = 0 := by
  rw [quantileIndex, show clampUnit 0.0 = 0.0 by decide, toUInt64_zero_mul]
  exact Nat.zero_min _

/-- What is not a number asks for the first element. -/
theorem quantileIndex_nan {p : Float} (hp : p.isNaN = true) (n : Nat) : quantileIndex p n = 0 := by
  rw [quantileIndex, toUInt64_clampUnit_mul hp]
  exact Nat.zero_min _

/-- The highest percentile is the last element. -/
theorem quantileIndex_one (hlt : n < 2 ^ 53) : quantileIndex 1.0 n = n - 1 := by
  rcases Nat.eq_zero_or_pos n with rfl | hn
  · exact Nat.min_zero _
  have hlog : n.log2 < 53 := (Nat.log2_lt hn.ne').mpr hlt
  have hmul := unpack_one_mul (log2_shifted hn hlt) (by positivity) (by omega) (by omega)
    (unpack_toFloat hn hlt)
  rw [quantileIndex, show clampUnit 1.0 = 1.0 by decide, toUInt64_of_unpack hn hlt hmul]
  exact Nat.min_eq_right (Nat.sub_le n 1)

end CacheSim
