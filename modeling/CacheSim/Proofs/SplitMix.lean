import Mathlib
import CacheSim.Hash.SplitMix

/-!
# Every step of the hash can be undone

A xor-shift leaves the upper bits of a word as they are, and from these the lower ones can be
recovered, highest first.  A multiplication by an odd constant is undone by the inverse of the
constant modulo `2 ^ 64`.  So different words have different hashes, and every word is a hash.
-/

namespace CacheSim

/-- A word can be recovered from what a xor-shift makes of it. -/
lemma xorShift_injective {w k : Nat} (hk : 0 < k) :
    Function.Injective fun x : BitVec w => x ^^^ x >>> k := by
  intro x y hxy
  have hbit : ∀ i, (x.getLsbD i ^^ x.getLsbD (k + i)) = (y.getLsbD i ^^ y.getLsbD (k + i)) :=
    fun i => by simpa using congrArg (BitVec.getLsbD · i) hxy
  -- downwards: the bit `k` places above is known to agree, or is outside of both words
  have hagree : ∀ n i, w ≤ i + n → x.getLsbD i = y.getLsbD i := by
    intro n
    induction n with
    | zero =>
      intro i hi
      rw [BitVec.getLsbD_of_ge x i hi, BitVec.getLsbD_of_ge y i hi]
    | succ n ih =>
      intro i hi
      have hhigh := ih (k + i) (by omega)
      have hlow := hbit i
      rw [hhigh] at hlow
      exact Bool.xor_left_inj.mp hlow
  exact BitVec.eq_of_getLsbD_eq fun i hi => hagree w i (Nat.le_add_left w i)

lemma xorShift_word_injective {k : UInt64} (hk : 0 < k.toNat % 64) :
    Function.Injective fun x : UInt64 => x ^^^ x >>> k := by
  intro x y hxy
  refine UInt64.toBitVec_inj.mp (xorShift_injective hk ?_)
  simpa using congrArg UInt64.toBitVec hxy

/-- A multiplication can be undone by an inverse of its factor. -/
lemma mul_word_injective {m : UInt64} (inverse : UInt64) (h : m * inverse = 1) :
    Function.Injective fun x : UInt64 => x * m := by
  intro x y hxy
  have hundo := congrArg (· * inverse) hxy
  simpa only [UInt64.mul_assoc, h, UInt64.mul_one] using hundo

/-- Different words have different hashes. -/
lemma splitMix_injective : Function.Injective splitMix := by
  have hoffset : Function.Injective fun x : UInt64 => x + 0x9E3779B97F4A7C15 :=
    fun _ _ => (UInt64.add_left_inj _).mp
  have hfirst := mul_word_injective (m := 0xBF58476D1CE4E5B9) 0x96DE1B173F119089 (by decide)
  have hsecond := mul_word_injective (m := 0x94D049BB133111EB) 0x319642B2D24D8EC3 (by decide)
  have hshift₁ := xorShift_word_injective (k := 30) (by decide)
  have hshift₂ := xorShift_word_injective (k := 27) (by decide)
  have hshift₃ := xorShift_word_injective (k := 31) (by decide)
  exact hshift₃.comp (hsecond.comp (hshift₂.comp (hfirst.comp (hshift₁.comp hoffset))))

/-- The hash is a permutation of the words. -/
lemma splitMix_bijective : Function.Bijective splitMix :=
  Finite.injective_iff_bijective.mp splitMix_injective

end CacheSim
