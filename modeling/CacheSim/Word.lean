/-!
# Arithmetic on 64-bit words

Clocks, byte counts and request counts are 64-bit words.  A sum that does not fit into a word, or a
difference below zero, is never wrapped: the step has no answer and the run stops with a `Fault`.

The two characterisations `Word.add_eq_ok` and `Word.sub_eq_ok` read a successful step as an
equation between natural numbers, which is how the rest of the library reasons about counters.
-/

namespace CacheSim

/-- Why a step of word arithmetic has no answer. -/
inductive Fault where
  /-- A sum of two words is `2 ^ 64` or more. -/
  | addOverflow
  /-- A word is smaller than the word taken away from it. -/
  | subOverflow
  deriving DecidableEq

namespace Fault

/-- The text a fault is reported with. -/
def message : Fault → String
  | addOverflow => "attempt to add with overflow"
  | subOverflow => "attempt to subtract with overflow"

end Fault

namespace Word

/-- The sum of two words, if it is a word. -/
def add (a b : UInt64) : Except Fault UInt64 :=
  if a.toNat + b.toNat < UInt64.size then .ok (a + b) else .error .addOverflow

/-- The difference of two words, if it is a word. -/
def sub (a b : UInt64) : Except Fault UInt64 :=
  if b ≤ a then .ok (a - b) else .error .subOverflow

/-- The difference of two words, or zero where it would be negative. -/
def monus (a b : UInt64) : UInt64 :=
  if b ≤ a then a - b else 0

theorem add_eq_ok {a b c : UInt64} : add a b = .ok c ↔ a.toNat + b.toNat = c.toNat := by
  have hc : c.toNat < UInt64.size := c.toNat_lt
  unfold add
  split
  · next h =>
    rw [Except.ok.injEq, ← UInt64.toNat_inj, UInt64.toNat_add, Nat.mod_eq_of_lt h]
  · next h =>
    constructor
    · intro hf; cases hf
    · intro hs; omega

theorem sub_eq_ok {a b c : UInt64} : sub a b = .ok c ↔ a.toNat = b.toNat + c.toNat := by
  unfold sub
  split
  · next h =>
    rw [Except.ok.injEq, ← UInt64.toNat_inj, UInt64.toNat_sub_of_le _ _ h]
    have hle : b.toNat ≤ a.toNat := UInt64.le_iff_toNat_le.1 h
    omega
  · next h =>
    have hlt : ¬ b.toNat ≤ a.toNat := fun hle => h (UInt64.le_iff_toNat_le.2 hle)
    constructor
    · intro hf; cases hf
    · intro hs; omega

theorem exists_add {a b : UInt64} (h : a.toNat + b.toNat < UInt64.size) : ∃ c, add a b = .ok c :=
  ⟨a + b, if_pos h⟩

theorem exists_sub {a b : UInt64} (h : b.toNat ≤ a.toNat) : ∃ c, sub a b = .ok c :=
  ⟨a - b, if_pos (UInt64.le_iff_toNat_le.2 h)⟩

theorem toNat_monus (a b : UInt64) : (monus a b).toNat = a.toNat - b.toNat := by
  unfold monus
  split
  · next h => exact UInt64.toNat_sub_of_le _ _ h
  · next h =>
    have hlt : ¬ b.toNat ≤ a.toNat := fun hle => h (UInt64.le_iff_toNat_le.2 hle)
    have hz : (0 : UInt64).toNat = 0 := rfl
    omega

end Word

end CacheSim
