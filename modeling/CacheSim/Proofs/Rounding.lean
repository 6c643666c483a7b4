import CacheSim.Proofs.Quantile

/-!
# Rounding stops at floats

An operation on floats rounds the exact result to 53 bits, to the nearest float and in case of a tie
to an even one.  It never passes a float on the way: what is at most `c` before is at most `c`
after, if `c` is a float itself.  So a computation with floats that are not negative can be bounded
step by step by bounds on the exact results.

The argument has two parts.  A mantissa that is shifted to the right keeps two bits of what is
behind it, and these tell whether it is above an integer.  And a float is either a multiple of the
unit that is rounded to, or below all numbers that are rounded to this unit.

* `upTo_roundWithAccuracy`: rounding stops at floats;
* `UpTo.mul`, `UpTo.add`: bounds on products and sums;
* `UpTo.toNat_toUInt64_le`: truncation to a word only makes a float smaller;
* `upTo_one`: comparisons bound a float.
-/

namespace CacheSim

open Float.Model Float.Model.UnpackedFloat

variable {b k m n q : Nat} {e e' t : Int} {em : ExtendedMantissa} {u : UnpackedFloat}
  {x y : Float} {a c d : ℚ}

/-! ## Powers of two -/

lemma two_zpow_le (h : 2 ^ k ≤ m) (e : Int) : (2 : ℚ) ^ (k + e) ≤ m * 2 ^ e := by
  have hm : (2 : ℚ) ^ k ≤ m := by exact_mod_cast h
  rw [zpow_add₀ two_ne_zero, zpow_natCast]
  gcongr

lemma lt_two_zpow (h : m < 2 ^ k) (e : Int) : (m : ℚ) * 2 ^ e < 2 ^ (k + e) := by
  have hm : (m : ℚ) < 2 ^ k := by exact_mod_cast h
  rw [zpow_add₀ two_ne_zero, zpow_natCast]
  gcongr

lemma scaled_le_iff (m n i : Nat) (e : Int) :
    (m : ℚ) * 2 ^ e ≤ n * 2 ^ (e + i) ↔ m ≤ n * 2 ^ i := by
  have hpos : (0 : ℚ) < 2 ^ e := by positivity
  rw [zpow_add₀ two_ne_zero, zpow_natCast, mul_left_comm, mul_comm ((2 : ℚ) ^ e),
    mul_le_mul_iff_of_pos_right hpos]
  exact_mod_cast Iff.rfl

/-- A mantissa that is shifted to the left stands for the same number. -/
lemma cast_shiftLeft (m k : Nat) (e : Int) :
    ((m * 2 ^ k : Nat) : ℚ) * 2 ^ (e - k) = m * 2 ^ e := by
  rw [zpow_sub₀ two_ne_zero, zpow_natCast]
  push_cast
  field_simp

/-! ## Mantissas with bits behind them -/

/-- A mantissa, with the bits behind it, is at most `b`. -/
def Within (b : Nat) (em : ExtendedMantissa) : Prop :=
  em.mantissa < b ∨ em = ⟨b, false, false⟩

lemma within_of_le (h : m ≤ b) : Within b ⟨m, false, false⟩ := by
  rcases h.lt_or_eq with hlt | rfl
  · exact Or.inl hlt
  · exact Or.inr rfl

lemma Within.shiftRightOne (h : Within (b * 2) em) : Within b em.shiftRightOne := by
  rcases h with hlt | rfl
  · exact Or.inl (Nat.div_lt_of_lt_mul (Nat.mul_comm b 2 ▸ hlt))
  · refine Or.inr ?_
    simp [ExtendedMantissa.shiftRightOne]

lemma Within.shiftRight (h : Within (b * 2 ^ k) em) : Within b (em >>> k) := by
  change Within b (k.repeat ExtendedMantissa.shiftRightOne em)
  induction k generalizing b with
  | zero => rwa [Nat.pow_zero, Nat.mul_one] at h
  | succ k ih =>
    rw [Nat.pow_succ', ← Nat.mul_assoc] at h
    exact (ih h).shiftRightOne

lemma mantissa_shiftRight (em : ExtendedMantissa) (k : Nat) :
    (em >>> k).mantissa = em.mantissa / 2 ^ k := by
  change (k.repeat ExtendedMantissa.shiftRightOne em).mantissa = _
  induction k with
  | zero =>
    rw [Nat.pow_zero, Nat.div_one]
    rfl
  | succ k ih =>
    rw [Nat.repeat, Nat.pow_succ, ← Nat.div_div_eq_div_mul, ← ih]
    rfl

/-- A mantissa is rounded to itself or to the next one. -/
lemma roundedMantissa_range (em : ExtendedMantissa) :
    em.mantissa ≤ em.roundedMantissa ∧ em.roundedMantissa ≤ em.mantissa + 1 := by
  rw [ExtendedMantissa.roundedMantissa]
  unfold Accuracy.roundToNearestEven
  split <;> omega

lemma Within.roundedMantissa_le (h : Within b em) : em.roundedMantissa ≤ b := by
  rcases h with hlt | rfl
  · exact (roundedMantissa_range em).2.trans hlt
  · exact le_rfl

/-! ## Numbers that are floats -/

/-- A mantissa and an exponent as they are packed. -/
structure Packed (m : Nat) (e : Int) : Prop where
  lt : m < 2 ^ 53
  least : -1074 ≤ e
  full : 2 ^ 52 ≤ m ∨ e = -1074

/-- A number that is a float, and not negative. -/
structure IsFloat (c : ℚ) : Prop where
  exists_eq : ∃ (n : Nat) (f : Int), n < 2 ^ 53 ∧ -1074 ≤ f ∧ c = n * 2 ^ f
  lt : c < 2 ^ (1024 : Int)

lemma IsFloat.nonneg (h : IsFloat c) : 0 ≤ c := by
  obtain ⟨⟨n, f, -, -, rfl⟩, -⟩ := h
  positivity

lemma isFloat_of_range {f : Int} (hn : n < 2 ^ 53) (hf : -1074 ≤ f) (hf' : f ≤ 971) :
    IsFloat (n * 2 ^ f) :=
  ⟨⟨n, f, hn, hf, rfl⟩,
    (lt_two_zpow hn f).trans_le (zpow_le_zpow_right₀ one_le_two (by omega))⟩

/-- A float that is zero or positive, and at most `c`. -/
def UpTo (c : ℚ) (u : UnpackedFloat) : Prop :=
  (u = .zero .positive ∧ 0 ≤ c) ∨
    ∃ m e h, u = .finite .positive m e h ∧ Packed m e ∧ (m : ℚ) * 2 ^ e ≤ c

lemma unpack_pack_subnormal (hm : m < 2 ^ 52) (hpos : 0 < m) :
    (pack (.finite .positive m (-1074) hpos)).unpack = .finite .positive m (-1074) hpos := by
  have hlog : ¬ m.log2 + 1 = 53 := by
    have hlt := (Nat.log2_lt hpos.ne').mpr hm
    omega
  have hpack : UnpackedFloat.pack .binary64 (.finite .positive m (-1074) hpos) =
      packComponents .binary64 .positive 0#11 (BitVec.ofNat 52 m) := if_neg hlog
  have hbits : (BitVec.ofNat 52 m).toNat = m := by
    rw [BitVec.toNat_ofNat, Nat.mod_eq_of_lt hm]
  have hne : BitVec.ofNat 52 m ≠ 0#52 := by
    rw [ne_eq, ← BitVec.toNat_inj, hbits, BitVec.toNat_zero]
    omega
  change UnpackedFloat.unpack .binary64 (UnpackedFloat.pack .binary64 _) = _
  rw [hpack]
  unfold UnpackedFloat.unpack
  simp only [unpackMantissa_packComponents, unpackExponent_packComponents,
    unpackSign_packComponents, hne, dite_false, hbits]
  rfl

lemma Packed.unpack_pack (h : Packed m e) (hpos : 0 < m) (he : e ≤ 971) :
    (pack (.finite .positive m e hpos)).unpack = .finite .positive m e hpos := by
  rcases Nat.lt_or_ge m (2 ^ 52) with hlt | hge
  · obtain rfl := h.full.resolve_left (by omega)
    exact unpack_pack_subnormal hlt hpos
  · exact unpack_pack_normal ((Nat.log2_eq_iff hpos.ne').mpr ⟨hge, h.lt⟩) hpos h.least he

lemma UpTo.unpack_pack (h : UpTo c u) (hc : c < 2 ^ (1024 : Int)) : (pack u).unpack = u := by
  rcases h with ⟨rfl, -⟩ | ⟨m, e, hpos, rfl, hpacked, hle⟩
  · rfl
  · refine hpacked.unpack_pack hpos ?_
    rcases hpacked.full with hfull | rfl
    · have hlt : (2 : ℚ) ^ ((52 : Nat) + e) < 2 ^ (1024 : Int) :=
        ((two_zpow_le hfull e).trans hle).trans_lt hc
      have hexponent := (zpow_lt_zpow_iff_right₀ one_lt_two).mp hlt
      omega
    · decide

/-- What a float is unpacked to can be packed. -/
lemma packed_of_unpack {s : Sign} {hm : 0 < m} (h : x.toModel.unpack = .finite s m e hm) :
    Packed m e := by
  change UnpackedFloat.unpack .binary64 x.toModel.toBits.toBitVec = _ at h
  unfold UnpackedFloat.unpack at h
  set low : BitVec 52 := @unpackMantissa .binary64 x.toModel.toBits.toBitVec
  set high : BitVec 11 := @unpackExponent .binary64 x.toModel.toBits.toBitVec
  have hlow : low.toNat < 2 ^ 52 := low.isLt
  simp only at h
  split at h
  · split at h <;> cases h
  · split at h
    · next hzero =>
      split at h
      · cases h
      · obtain ⟨-, rfl, rfl⟩ := UnpackedFloat.finite.inj h
        rw [hzero]
        exact ⟨by omega, by decide, Or.inr rfl⟩
    · next hne =>
      obtain ⟨-, rfl, rfl⟩ := UnpackedFloat.finite.inj h
      have hhigh : 0 < high.toNat := by
        rw [Nat.pos_iff_ne_zero]
        exact fun hz => hne (BitVec.eq_of_toNat_eq hz)
      have hbias : (Format.binary64.exponentBias : Int) + (52 : Nat) = 1075 := rfl
      have hfull : (1#1 ++ low).toNat = 2 ^ 52 + low.toNat := by
        rw [BitVec.toNat_append, ← Nat.shiftLeft_add_eq_or_of_lt hlow, Nat.shiftLeft_eq]
        rfl
      rw [hfull, hbias]
      exact ⟨by omega, by omega, Or.inl (by omega)⟩

/-! ## Rounding -/

lemma targetExponent_eq (m : Nat) (e : Int) :
    Format.binary64.targetExponent (totalExponent m e) = max (m.log2 + e - 52) (-1074) := by
  change max ((m.log2 : Int) + 1 + e - (53 : Nat)) (-1074) = _
  congr 1
  omega

lemma shiftToTargetExponent_eq (ht : Format.binary64.targetExponent (totalExponent m e) = t)
    (hle : e ≤ t) : shiftToTargetExponent .binary64 m e .exact =
      (ExtendedMantissa.mk m false false >>> (t - e).toNat, t) := by
  rw [shiftToTargetExponent, ht, shiftToExponent, ExtendedMantissa.ofMantissaAndAccuracy,
    show e + ((t - e).toNat : Int) = t by omega]

lemma shiftToTargetExponent_of_le (h : Format.binary64.targetExponent (totalExponent m e) ≤ e) :
    shiftToTargetExponent .binary64 m e .exact = (⟨m, false, false⟩, e) := by
  have hzero : (Format.binary64.targetExponent (totalExponent m e) - e).toNat = 0 := by omega
  rw [shiftToTargetExponent, shiftToExponent, hzero, ExtendedMantissa.ofMantissaAndAccuracy,
    Int.natCast_zero, Int.add_zero]
  rfl

/-- The number `m * 2 ^ e` is rounded to `q * 2 ^ t`, where `q` may have become too long by one
bit. -/
structure Rounds (m : Nat) (e : Int) (q : Nat) (t : Int) : Prop where
  le : q ≤ 2 ^ 53
  least : -1074 ≤ t
  full : 2 ^ 52 ≤ q ∨ t = -1074
  stops : ∀ c, IsFloat c → (m : ℚ) * 2 ^ e ≤ c → (q : ℚ) * 2 ^ t ≤ c

lemma rounds_of_shift (hm : 0 < m)
    (ht : Format.binary64.targetExponent (totalExponent m e) = t) (hle : e ≤ t) :
    Rounds m e (ExtendedMantissa.mk m false false >>> (t - e).toNat).roundedMantissa t := by
  obtain ⟨k, rfl⟩ : ∃ k : Nat, t = e + k := ⟨(t - e).toNat, by omega⟩
  rw [show (e + k - e).toNat = k by omega]
  rw [targetExponent_eq] at ht
  have hlow : 2 ^ m.log2 ≤ m := Nat.log2_self_le hm.ne'
  have hhigh : m < 2 ^ (m.log2 + 1) := Nat.lt_log2_self
  have hstop : ∀ b : Nat, m ≤ b * 2 ^ k →
      (ExtendedMantissa.mk m false false >>> k).roundedMantissa ≤ b :=
    fun b hb => (within_of_le hb).shiftRight.roundedMantissa_le
  refine ⟨hstop _ ?_, by omega, ?_, ?_⟩
  · rw [← Nat.pow_add]
    exact hhigh.le.trans (Nat.pow_le_pow_right (by decide) (by omega))
  · by_cases hleast : e + k = -1074
    · exact Or.inr hleast
    · refine Or.inl (le_trans ?_ (roundedMantissa_range _).1)
      rw [mantissa_shiftRight, Nat.le_div_iff_mul_le (by positivity), ← Nat.pow_add]
      exact (Nat.pow_le_pow_right (by decide) (by omega)).trans hlow
  · rintro _ ⟨⟨n, f, hn, hf, rfl⟩, -⟩ hbound
    rcases le_or_gt (e + k) f with hge | hlt
    · -- the bound is a multiple of the unit that is rounded to
      obtain ⟨j, rfl⟩ : ∃ j : Nat, f = e + k + j := ⟨(f - (e + k)).toNat, by omega⟩
      refine (scaled_le_iff _ n j (e + k)).mpr (hstop _ ?_)
      rw [show e + k + j = e + (k + j : Nat) by omega, scaled_le_iff] at hbound
      rwa [Nat.mul_assoc, ← Nat.pow_add, Nat.add_comm j k]
    · -- a bound with a smaller unit is below every number that is rounded to this one
      have hsmall : (n : ℚ) * 2 ^ f < m * 2 ^ e :=
        calc (n : ℚ) * 2 ^ f
          _ < 2 ^ ((53 : Nat) + f) := lt_two_zpow hn f
          _ ≤ 2 ^ (m.log2 + e) := zpow_le_zpow_right₀ one_le_two (by omega)
          _ ≤ m * 2 ^ e := two_zpow_le hlow e
      exact absurd hbound (not_le.mpr hsmall)

/-- A mantissa that has become too long is shortened, and no other is changed. -/
lemma Rounds.upTo (h : Rounds m e q t) (hc : IsFloat c) (hbound : (m : ℚ) * 2 ^ e ≤ c)
    (hfirst : shiftToTargetExponent .binary64 m e .exact = (em, t))
    (hq : em.roundedMantissa = q) :
    UpTo c (roundWithAccuracy .binary64 .positive m e .exact) := by
  have hstop := h.stops c hc hbound
  have hleast := h.least
  rw [roundWithAccuracy]
  simp only [hfirst, hq]
  rcases h.le.lt_or_eq with hlt | rfl
  · have hlog : q.log2 ≤ 52 := by
      rcases Nat.eq_zero_or_pos q with rfl | hpos
      · decide
      · exact Nat.lt_succ_iff.mp ((Nat.log2_lt hpos.ne').mpr hlt)
    have htarget : Format.binary64.targetExponent (totalExponent q t) ≤ t := by
      rw [targetExponent_eq]
      omega
    simp only [shiftToTargetExponent_of_le htarget]
    split
    · exact Or.inl ⟨rfl, hc.nonneg⟩
    · exact Or.inr ⟨q, t, _, rfl, ⟨hlt, hleast, h.full⟩, hstop⟩
  · have hlog : (2 ^ 53 : Nat).log2 = 53 := Nat.log2_two_pow
    have htarget : Format.binary64.targetExponent (totalExponent (2 ^ 53) t) = t + 1 := by
      rw [targetExponent_eq, hlog]
      omega
    have hmantissa : (ExtendedMantissa.mk (2 ^ 53) false false >>> (t + 1 - t).toNat).mantissa =
        2 ^ 52 := by
      rw [mantissa_shiftRight, show (t + 1 - t).toNat = 1 by omega]
      rfl
    simp only [shiftToTargetExponent_eq htarget (by omega), hmantissa]
    refine Or.inr ⟨2 ^ 52, t + 1, by decide, rfl, ⟨by decide, by omega, Or.inl le_rfl⟩, ?_⟩
    calc ((2 ^ 52 : Nat) : ℚ) * 2 ^ (t + 1)
      _ = (2 ^ 53 : Nat) * 2 ^ t := by
        rw [zpow_add₀ two_ne_zero]
        push_cast
        ring
      _ ≤ c := hstop

/-- Rounding stops at floats. -/
lemma upTo_roundWithAccuracy (hm : 0 < m)
    (hle : e ≤ Format.binary64.targetExponent (totalExponent m e)) (hc : IsFloat c)
    (hbound : (m : ℚ) * 2 ^ e ≤ c) :
    UpTo c (roundWithAccuracy .binary64 .positive m e .exact) :=
  (rounds_of_shift hm rfl hle).upTo hc hbound (shiftToTargetExponent_eq rfl hle) rfl

lemma upTo_normalize (hm : 0 < m) (hc : IsFloat c) (hbound : (m : ℚ) * 2 ^ e ≤ c) :
    UpTo c (UnpackedFloat.normalize .binary64 m e .positive) := by
  rw [UnpackedFloat.normalize, Int.compare_eq_gt.mpr (by omega : (0 : Int) < m)]
  simp only [UnpackedFloat.round, decreaseExponent, Int.toNat_natCast, Nat.shiftLeft_eq]
  set j := (e - Format.binary64.targetExponent (totalExponent m e)).toNat with hj
  refine upTo_roundWithAccuracy (by positivity) ?_ hc ?_
  · rw [targetExponent_eq, log2_mul_two_pow hm.ne']
    rw [targetExponent_eq] at hj
    omega
  · rwa [cast_shiftLeft]

/-! ## Operations -/

/-- The mantissa of a product is long enough to be rounded. -/
lemma Packed.mul_le (h : Packed m e) (h' : Packed n e') (hm : 0 < m) (hn : 0 < n) :
    e + e' ≤ Format.binary64.targetExponent (totalExponent (m * n) (e + e')) := by
  rw [targetExponent_eq]
  have hlog : ∀ l, 2 ^ 52 ≤ l → l ≤ m * n → 52 ≤ (m * n).log2 := fun l hl hle =>
    (Nat.le_log2 (by positivity)).mpr (hl.trans hle)
  rcases h.full with hfull | rfl
  · have hlong := hlog m hfull (Nat.le_mul_of_pos_right m hn)
    omega
  · rcases h'.full with hfull | rfl
    · have hlong := hlog n hfull (Nat.le_mul_of_pos_left n hm)
      omega
    · omega

/-- A product of floats is at most any float that the exact product is at most. -/
lemma UpTo.mul (hx : UpTo c x.toModel.unpack) (hy : UpTo d y.toModel.unpack) (ha : IsFloat a)
    (hle : c * d ≤ a) : UpTo a (x * y).toModel.unpack := by
  have hzero : UpTo a (.zero .positive) := Or.inl ⟨rfl, ha.nonneg⟩
  suffices h : UpTo a (UnpackedFloat.mul .binary64 x.toModel.unpack y.toModel.unpack) from
    (h.unpack_pack ha.lt).symm ▸ h
  rcases hx with ⟨hx, -⟩ | ⟨m, e, hm, hx, hpacked, hc⟩
  · rcases hy with ⟨hy, -⟩ | ⟨n, e', hn, hy, -⟩ <;> rw [hx, hy] <;> exact hzero
  · rcases hy with ⟨hy, -⟩ | ⟨n, e', hn, hy, hpacked', hd⟩ <;> rw [hx, hy]
    · exact hzero
    refine upTo_roundWithAccuracy (by positivity) (hpacked.mul_le hpacked' hm hn) ha ?_
    have hnonneg : 0 ≤ c := le_trans (by positivity) hc
    calc ((m * n : Nat) : ℚ) * 2 ^ (e + e')
      _ = m * 2 ^ e * (n * 2 ^ e') := by
        rw [zpow_add₀ two_ne_zero]
        push_cast
        ring
      _ ≤ c * d := by gcongr
      _ ≤ a := hle

/-- A sum of floats is at most any float that the exact sum is at most. -/
lemma UpTo.add (hx : UpTo c x.toModel.unpack) (hy : UpTo d y.toModel.unpack) (ha : IsFloat a)
    (hle : c + d ≤ a) : UpTo a (x + y).toModel.unpack := by
  suffices h : UpTo a (UnpackedFloat.add .binary64 x.toModel.unpack y.toModel.unpack) from
    (h.unpack_pack ha.lt).symm ▸ h
  rcases hx with ⟨hx, hc⟩ | ⟨m, e, hm, hx, hpacked, hc⟩
  · rcases hy with ⟨hy, -⟩ | ⟨n, e', hn, hy, hpacked', hd⟩ <;> rw [hx, hy]
    · exact Or.inl ⟨rfl, ha.nonneg⟩
    · exact Or.inr ⟨n, e', hn, rfl, hpacked', by linarith⟩
  · rcases hy with ⟨hy, hd⟩ | ⟨n, e', hn, hy, -, hd⟩ <;> rw [hx, hy]
    · exact Or.inr ⟨m, e, hm, rfl, hpacked, by linarith⟩
    -- both mantissas are shifted to the smaller exponent
    obtain ⟨i, hi⟩ : ∃ i : Nat, min e e' = e - i := ⟨(e - min e e').toNat, by omega⟩
    obtain ⟨j, hj⟩ : ∃ j : Nat, min e e' = e' - j := ⟨(e' - min e e').toNat, by omega⟩
    have hsum : UnpackedFloat.add .binary64 (.finite .positive m e hm)
        (.finite .positive n e' hn) =
          UnpackedFloat.normalize .binary64 (m * 2 ^ i + n * 2 ^ j : Nat) (min e e') .positive := by
      simp only [UnpackedFloat.add, decreaseExponent, Nat.shiftLeft_eq]
      rw [show (e - min e e').toNat = i by omega, show (e' - min e e').toNat = j by omega]
      rfl
    rw [hsum]
    refine upTo_normalize (by positivity) ha ?_
    calc ((m * 2 ^ i + n * 2 ^ j : Nat) : ℚ) * 2 ^ min e e'
      _ = (m * 2 ^ i : Nat) * 2 ^ (e - i) + (n * 2 ^ j : Nat) * 2 ^ (e' - j) := by
        rw [← hi, ← hj, Nat.cast_add, add_mul]
      _ = m * 2 ^ e + n * 2 ^ e' := by rw [cast_shiftLeft, cast_shiftLeft]
      _ ≤ a := by linarith

/-- What is behind the point is cut off. -/
lemma roundToInt_le (m : Nat) (e : Int) :
    ∃ v : Nat, roundToInt .positive m e = v ∧ (v : ℚ) ≤ m * 2 ^ e := by
  set i := e.toNat
  set j := (-e).toNat
  refine ⟨m * 2 ^ i / 2 ^ j, ?_, ?_⟩
  · simp only [roundToInt, decreaseExponent, shiftToExponent, mantissa_shiftRight,
      ExtendedMantissa.ofMantissaAndAccuracy, Nat.shiftLeft_eq]
    rw [show (e - 0).toNat = i by omega, show (0 - (e - (i : Int))).toNat = j by omega]
    rfl
  · have hexponent : e = i - j := by omega
    calc ((m * 2 ^ i / 2 ^ j : Nat) : ℚ)
      _ ≤ (m * 2 ^ i : Nat) / (2 ^ j : Nat) := Nat.cast_div_le
      _ = m * 2 ^ ((i : Int) - j) := by
        rw [zpow_sub₀ two_ne_zero, zpow_natCast, zpow_natCast]
        push_cast
        ring
      _ = m * 2 ^ e := by rw [← hexponent]

/-- Truncation to a word only makes a float smaller. -/
lemma UpTo.toNat_toUInt64_le (hx : UpTo c x.toModel.unpack) : (x.toUInt64.toNat : ℚ) ≤ c := by
  have hclamp : ∀ n, (UInt64.ofNatClamp n).toNat ≤ n := by
    intro n
    unfold UInt64.ofNatClamp
    split
    · exact le_rfl
    · next hlarge => exact le_trans (by decide) (not_lt.mp hlarge)
  change ((UnpackedFloat.toUInt64 x.toModel.unpack).toNat : ℚ) ≤ c
  rcases hx with ⟨hx, hc⟩ | ⟨m, e, hm, hx, -, hc⟩ <;> rw [hx]
  · exact_mod_cast hc
  · obtain ⟨v, hv, hle⟩ := roundToInt_le m e
    rw [UnpackedFloat.toUInt64, UnpackedFloat.toInt, hv, Int.toNat_natCast]
    exact (Nat.cast_le.mpr (hclamp v)).trans (hle.trans hc)

/-! ## Comparisons -/

lemma le_iff_unpack : x ≤ y ↔ UnpackedFloat.le x.toModel.unpack y.toModel.unpack = true := by
  change decide (x.toModel ≤ y.toModel) = true ↔ _
  rw [decide_eq_true_eq]
  rfl

/-- Floats are compared by their exponents first, then by their mantissas. -/
lemma Packed.le_one (h : Packed m e)
    (hcompare : ((compare e (-52)).then (compare m (2 ^ 52))).isLE = true) :
    (m : ℚ) * 2 ^ e ≤ 1 := by
  rcases Int.lt_trichotomy e (-52) with hlt | rfl | hgt
  · calc (m : ℚ) * 2 ^ e
      _ ≤ 2 ^ ((53 : Nat) + e) := (lt_two_zpow h.lt e).le
      _ ≤ 2 ^ (0 : Int) := zpow_le_zpow_right₀ one_le_two (by omega)
      _ = 1 := zpow_zero _
  · have hm : (m : ℚ) ≤ 2 ^ (52 : Int) := by exact_mod_cast Nat.isLE_compare.mp hcompare
    calc (m : ℚ) * 2 ^ (-52 : Int)
      _ ≤ 2 ^ (52 : Int) * 2 ^ (-52 : Int) := by gcongr
      _ = 1 := by norm_num
  · rw [Int.compare_eq_gt.mpr hgt] at hcompare
    exact absurd hcompare Bool.false_ne_true

/-- A float that is compared to be in `(0, 1]` is there. -/
lemma upTo_one (hlow : 0.0 < x) (hhigh : x ≤ 1.0) : UpTo 1 x.toModel.unpack := by
  have hzero : (0.0 : Float).toModel.unpack = .zero .positive := rfl
  have hone : (1.0 : Float).toModel.unpack = .finite .positive (2 ^ 52) (-52) (by decide) := rfl
  rw [lt_iff_unpack, hzero] at hlow
  rw [le_iff_unpack, hone] at hhigh
  cases hx : x.toModel.unpack with
  | notANumber | zero =>
    rw [hx] at hlow
    exact absurd hlow Bool.false_ne_true
  | infinity s =>
    rw [hx] at hlow hhigh
    cases s with
    | positive => exact absurd hhigh Bool.false_ne_true
    | negative => exact absurd hlow Bool.false_ne_true
  | finite s m e hm =>
    rw [hx] at hlow hhigh
    cases s with
    | positive =>
      have hpacked := packed_of_unpack hx
      exact Or.inr ⟨m, e, hm, rfl, hpacked, hpacked.le_one hhigh⟩
    | negative => exact absurd hlow Bool.false_ne_true

end CacheSim
