import Mathlib
import CacheSim.Text.Utf8

/-!
# Text that is written as UTF-8 is read back

Every character is written as one to four bytes.  The reader recognises how many from the first
one, and none of them breaks the rules that keep longer forms, surrogates and what lies beyond the
last character out.

* `beginning_encodeChar`: one character is recognised, whatever follows;
* `decodeUtf8_encode`: so is a whole text;
* `newline_mem_encode`: a newline is written for newlines only.
-/

namespace CacheSim.Text

/-! ## Bytes -/

lemma toNat_ofNat_byte {n : Nat} (h : n < 256) : (UInt8.ofNat n).toNat = n := by
  rw [UInt8.toNat_ofNat', Nat.mod_eq_of_lt h]

lemma ofNat_lt_iff {n : Nat} (h : n < 256) (b : UInt8) : UInt8.ofNat n < b ↔ n < b.toNat := by
  rw [UInt8.lt_iff_toNat_lt, toNat_ofNat_byte h]

lemma lt_ofNat_iff {n : Nat} (h : n < 256) (b : UInt8) : b < UInt8.ofNat n ↔ b.toNat < n := by
  rw [UInt8.lt_iff_toNat_lt, toNat_ofNat_byte h]

lemma ofNat_le_iff {n : Nat} (h : n < 256) (b : UInt8) : UInt8.ofNat n ≤ b ↔ n ≤ b.toNat := by
  rw [UInt8.le_iff_toNat_le, toNat_ofNat_byte h]

lemma le_ofNat_iff {n : Nat} (h : n < 256) (b : UInt8) : b ≤ UInt8.ofNat n ↔ b.toNat ≤ n := by
  rw [UInt8.le_iff_toNat_le, toNat_ofNat_byte h]

lemma ofNat_eq_iff {n : Nat} (h : n < 256) (b : UInt8) : UInt8.ofNat n = b ↔ n = b.toNat := by
  rw [← UInt8.toNat_inj, toNat_ofNat_byte h]

lemma isContinuation_ofNat (n : Nat) : isContinuation (UInt8.ofNat (n % 64 + 128)) = true := by
  have hbyte : n % 64 + 128 < 256 := by omega
  rw [isContinuation, Bool.and_eq_true, decide_eq_true_eq, decide_eq_true_eq,
    le_ofNat_iff hbyte, ofNat_le_iff hbyte]
  change 128 ≤ _ ∧ _ ≤ 191
  omega

lemma payload_ofNat (n : Nat) : payload (UInt8.ofNat (n % 64 + 128)) = n % 64 := by
  rw [payload, toNat_ofNat_byte (by omega)]
  omega

/-- The second of three bytes: longer forms have smaller ones, and surrogates greater ones. -/
lemma isSecondOfThree_ofNat {v : Nat} (hlow : 2047 < v) (hhigh : v ≤ 65535)
    (hvalid : v.isValidChar) :
    isSecondOfThree (UInt8.ofNat (v / 4096 % 16 + 224)) (UInt8.ofNat (v / 64 % 64 + 128)) =
      true := by
  have hfirst : v / 4096 % 16 + 224 < 256 := by omega
  have hsecond : v / 64 % 64 + 128 < 256 := by omega
  rw [isSecondOfThree]
  split
  · next h =>
    rw [ofNat_eq_iff hfirst] at h
    change _ = 224 at h
    rw [Bool.and_eq_true, decide_eq_true_eq, decide_eq_true_eq, le_ofNat_iff hsecond,
      ofNat_le_iff hsecond]
    change 160 ≤ _ ∧ _ ≤ 191
    omega
  · split
    · next h =>
      rw [ofNat_eq_iff hfirst] at h
      change _ = 237 at h
      rw [Bool.and_eq_true, decide_eq_true_eq, decide_eq_true_eq, le_ofNat_iff hsecond,
        ofNat_le_iff hsecond]
      change 128 ≤ _ ∧ _ ≤ 159
      rcases hvalid with hvalid | hvalid <;> omega
    · exact isContinuation_ofNat _

/-- The second of four bytes: longer forms have smaller ones, and there is a last character. -/
lemma isSecondOfFour_ofNat {v : Nat} (hlow : 65535 < v) (hvalid : v.isValidChar) :
    isSecondOfFour (UInt8.ofNat (v / 262144 % 8 + 240)) (UInt8.ofNat (v / 4096 % 64 + 128)) =
      true := by
  have hhigh : v < 1114112 := by rcases hvalid with hvalid | hvalid <;> omega
  have hfirst : v / 262144 % 8 + 240 < 256 := by omega
  have hsecond : v / 4096 % 64 + 128 < 256 := by omega
  rw [isSecondOfFour]
  split
  · next h =>
    rw [ofNat_eq_iff hfirst] at h
    change _ = 240 at h
    rw [Bool.and_eq_true, decide_eq_true_eq, decide_eq_true_eq, le_ofNat_iff hsecond,
      ofNat_le_iff hsecond]
    change 144 ≤ _ ∧ _ ≤ 191
    omega
  · split
    · next h =>
      rw [ofNat_eq_iff hfirst] at h
      change _ = 244 at h
      rw [Bool.and_eq_true, decide_eq_true_eq, decide_eq_true_eq, le_ofNat_iff hsecond,
        ofNat_le_iff hsecond]
      change 128 ≤ _ ∧ _ ≤ 143
      omega
    · exact isContinuation_ofNat _

/-! ## Characters -/

/-- What the first byte of several tells: it is none of the bytes that stand alone, and none of
those that never stand in front. -/
lemma first_of_several {n : Nat} (hlow : 194 ≤ n) (hhigh : n ≤ 244) :
    ¬ UInt8.ofNat n < 0x80 ∧
      ¬ (decide (UInt8.ofNat n < 0xC2) || decide (0xF4 < UInt8.ofNat n)) = true := by
  have hbyte : n < 256 := by omega
  rw [Bool.or_eq_true, decide_eq_true_eq, decide_eq_true_eq, ofNat_lt_iff hbyte,
    ofNat_lt_iff hbyte, lt_ofNat_iff hbyte]
  change ¬ n < 128 ∧ ¬ (n < 194 ∨ 244 < n)
  omega

section Character

variable {v : Nat} (bytes : List UInt8)

lemma beginning_one (hhigh : v ≤ 127) :
    beginning (UInt8.ofNat v) bytes = .char (Char.ofNat v) 0 := by
  have hbyte : v < 256 := by omega
  have hsingle : UInt8.ofNat v < 0x80 := by
    rw [ofNat_lt_iff hbyte]
    change v < 128
    omega
  rw [beginning.eq_def, if_pos hsingle, toNat_ofNat_byte hbyte]

lemma beginning_two (hlow : 127 < v) (hhigh : v ≤ 2047) :
    beginning (UInt8.ofNat (v / 64 % 32 + 192)) (UInt8.ofNat (v % 64 + 128) :: bytes) =
      .char (Char.ofNat v) 1 := by
  have hbyte : v / 64 % 32 + 192 < 256 := by omega
  obtain ⟨hseveral, hfirst⟩ := first_of_several (show 194 ≤ v / 64 % 32 + 192 by omega) (by omega)
  have htwo : UInt8.ofNat (v / 64 % 32 + 192) < 0xE0 := by
    rw [ofNat_lt_iff hbyte]
    change _ < 224
    omega
  have hvalue : (v / 64 % 32 + 192) % 32 * 64 + v % 64 = v := by omega
  simp only [beginning, if_neg hseveral, if_neg hfirst, if_pos htwo, isContinuation_ofNat, if_true,
    payload_ofNat, toNat_ofNat_byte hbyte, hvalue]

lemma beginning_three (hlow : 2047 < v) (hhigh : v ≤ 65535) (hvalid : v.isValidChar) :
    beginning (UInt8.ofNat (v / 4096 % 16 + 224))
        (UInt8.ofNat (v / 64 % 64 + 128) :: UInt8.ofNat (v % 64 + 128) :: bytes) =
      .char (Char.ofNat v) 2 := by
  have hbyte : v / 4096 % 16 + 224 < 256 := by omega
  obtain ⟨hseveral, hfirst⟩ :=
    first_of_several (show 194 ≤ v / 4096 % 16 + 224 by omega) (by omega)
  have htwo : ¬ UInt8.ofNat (v / 4096 % 16 + 224) < 0xE0 := by
    rw [ofNat_lt_iff hbyte]
    change ¬ _ < 224
    omega
  have hthree : UInt8.ofNat (v / 4096 % 16 + 224) < 0xF0 := by
    rw [ofNat_lt_iff hbyte]
    change _ < 240
    omega
  have hvalue : ((v / 4096 % 16 + 224) % 16 * 64 + v / 64 % 64) * 64 + v % 64 = v := by omega
  simp only [beginning, if_neg hseveral, if_neg hfirst, if_neg htwo, if_pos hthree,
    isSecondOfThree_ofNat hlow hhigh hvalid, isContinuation_ofNat, if_true, payload_ofNat,
    toNat_ofNat_byte hbyte, hvalue]

lemma beginning_four (hlow : 65535 < v) (hvalid : v.isValidChar) :
    beginning (UInt8.ofNat (v / 262144 % 8 + 240))
        (UInt8.ofNat (v / 4096 % 64 + 128) :: UInt8.ofNat (v / 64 % 64 + 128) ::
          UInt8.ofNat (v % 64 + 128) :: bytes) =
      .char (Char.ofNat v) 3 := by
  have hhigh : v < 1114112 := by rcases hvalid with hvalid | hvalid <;> omega
  have hbyte : v / 262144 % 8 + 240 < 256 := by omega
  obtain ⟨hseveral, hfirst⟩ :=
    first_of_several (show 194 ≤ v / 262144 % 8 + 240 by omega) (by omega)
  have htwo : ¬ UInt8.ofNat (v / 262144 % 8 + 240) < 0xE0 := by
    rw [ofNat_lt_iff hbyte]
    change ¬ _ < 224
    omega
  have hthree : ¬ UInt8.ofNat (v / 262144 % 8 + 240) < 0xF0 := by
    rw [ofNat_lt_iff hbyte]
    change ¬ _ < 240
    omega
  have hvalue : (((v / 262144 % 8 + 240) % 8 * 64 + v / 4096 % 64) * 64 + v / 64 % 64) * 64 +
      v % 64 = v := by omega
  simp only [beginning, if_neg hseveral, if_neg hfirst, if_neg htwo, if_neg hthree,
    isSecondOfFour_ofNat hlow hvalid, isContinuation_ofNat, if_true, payload_ofNat,
    toNat_ofNat_byte hbyte, hvalue]

/-- A written character is recognised, whatever follows. -/
lemma beginning_encodeChar (c : Char) :
    ∃ b more, String.utf8EncodeChar c = b :: more ∧
      beginning b (more ++ bytes) = .char c more.length := by
  have hvalid : c.val.toNat.isValidChar := c.valid
  have hback : Char.ofNat c.val.toNat = c := Char.ofNat_toNat c
  rw [String.utf8EncodeChar]
  generalize c.val.toNat = v at hvalid hback
  rw [← hback]
  split
  · next hone => exact ⟨_, _, rfl, beginning_one _ hone⟩
  split
  · next hone htwo => exact ⟨_, _, rfl, beginning_two _ (Nat.lt_of_not_le hone) htwo⟩
  split
  · next htwo hthree =>
    exact ⟨_, _, rfl, beginning_three _ (Nat.lt_of_not_le htwo) hthree hvalid⟩
  · next hthree => exact ⟨_, _, rfl, beginning_four _ (Nat.lt_of_not_le hthree) hvalid⟩

end Character

lemma decodeFrom_encode (text : List Char) (index : Nat) (read : List Char) :
    decodeFrom index read (encodeUtf8 text) = .ok (read.reverse ++ text) := by
  induction text generalizing index read with
  | nil => simp [encodeUtf8, decodeFrom]
  | cons c text ih =>
    obtain ⟨b, more, hbytes, hbeginning⟩ := beginning_encodeChar (encodeUtf8 text) c
    change decodeFrom index read (String.utf8EncodeChar c ++ encodeUtf8 text) = _
    rw [hbytes, List.cons_append, decodeFrom, hbeginning]
    simp only [List.drop_left]
    rw [ih, List.reverse_cons, List.append_assoc, List.singleton_append]

/-- A text is read back. -/
lemma decodeUtf8_encode (text : List Char) : decodeUtf8 (encodeUtf8 text) = .ok text :=
  decodeFrom_encode text 0 []

lemma encodeUtf8_append (text text' : List Char) :
    encodeUtf8 (text ++ text') = encodeUtf8 text ++ encodeUtf8 text' :=
  List.flatMap_append

/-! ## Newlines -/

lemma newline_mem_encodeChar {c : Char} (h : (10 : UInt8) ∈ String.utf8EncodeChar c) :
    c = '\n' := by
  have hback : Char.ofNat c.val.toNat = c := Char.ofNat_toNat c
  rw [String.utf8EncodeChar] at h
  generalize c.val.toNat = v at h hback
  have hlarge : ∀ n, 128 ≤ n → n < 256 → (10 : UInt8) ≠ UInt8.ofNat n := by
    intro n hlow hbyte heq
    have hten : n = 10 := (ofNat_eq_iff hbyte 10).mp heq.symm
    omega
  split at h
  · next hone =>
    have hten : v = 10 := (ofNat_eq_iff (by omega) 10).mp (List.mem_singleton.mp h).symm
    rw [← hback, hten]
  -- longer characters consist of large bytes
  all_goals exfalso
  split at h
  · simp only [List.mem_cons, List.not_mem_nil, or_false] at h
    rcases h with h | h
    all_goals exact hlarge _ (by omega) (by omega) h
  split at h
  · simp only [List.mem_cons, List.not_mem_nil, or_false] at h
    rcases h with h | h | h
    all_goals exact hlarge _ (by omega) (by omega) h
  · simp only [List.mem_cons, List.not_mem_nil, or_false] at h
    rcases h with h | h | h | h
    all_goals exact hlarge _ (by omega) (by omega) h

/-- A newline is written for newlines only. -/
lemma newline_mem_encode {text : List Char} (h : (10 : UInt8) ∈ encodeUtf8 text) :
    '\n' ∈ text := by
  obtain ⟨c, hc, hmem⟩ := List.mem_flatMap.mp h
  exact newline_mem_encodeChar hmem ▸ hc

end CacheSim.Text
