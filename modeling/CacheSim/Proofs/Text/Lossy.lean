import CacheSim.Proofs.Text.Utf8

/-!
# Lossy reading keeps ASCII endings

Bytes that are not UTF-8 are read with replacement characters for broken sequences.  What a
sequence of several bytes stands for is never an ASCII character, and a byte of an ASCII character
never belongs to such a sequence, whether it is broken or not.  So what is read ends in ASCII
characters exactly if the bytes end in theirs.

* `several`: what bytes begin with if the first one is not ASCII, whatever follows;
* `decodeLossy_append_ascii`, `exists_append_of_decodeLossy`: the two directions.
-/

namespace CacheSim.Text

variable {b b₁ b₂ b₃ b₄ : UInt8} {c : Char} {bytes rest : List UInt8} {text : List Char}

/-! ## The bytes of a sequence -/

lemma isContinuation_iff : isContinuation b = true ↔ 128 ≤ b.toNat ∧ b.toNat ≤ 191 := by
  rw [isContinuation, Bool.and_eq_true, decide_eq_true_eq, decide_eq_true_eq,
    UInt8.le_iff_toNat_le, UInt8.le_iff_toNat_le]
  rfl

lemma isSecondOfThree_bounds (h : isSecondOfThree b₁ b₂ = true) :
    128 ≤ b₂.toNat ∧ b₂.toNat ≤ 191 ∧ (b₁.toNat = 224 → 160 ≤ b₂.toNat) ∧
      (b₁.toNat = 237 → b₂.toNat ≤ 159) := by
  simp only [isSecondOfThree, isContinuation, ← UInt8.toNat_inj, UInt8.le_iff_toNat_le,
    UInt8.reduceToNat] at h
  split at h
  · simp only [Bool.and_eq_true, decide_eq_true_eq] at h
    omega
  · split at h
    all_goals
      simp only [Bool.and_eq_true, decide_eq_true_eq] at h
      omega

lemma isSecondOfFour_bounds (h : isSecondOfFour b₁ b₂ = true) :
    128 ≤ b₂.toNat ∧ b₂.toNat ≤ 191 ∧ (b₁.toNat = 240 → 144 ≤ b₂.toNat) ∧
      (b₁.toNat = 244 → b₂.toNat ≤ 143) := by
  simp only [isSecondOfFour, isContinuation, ← UInt8.toNat_inj, UInt8.le_iff_toNat_le,
    UInt8.reduceToNat] at h
  split at h
  · simp only [Bool.and_eq_true, decide_eq_true_eq] at h
    omega
  · split at h
    all_goals
      simp only [Bool.and_eq_true, decide_eq_true_eq] at h
      omega

/-- A byte of the small half does not continue a sequence. -/
lemma isContinuation_of_lt (hb : b < 0x80) : isContinuation b = false := by
  have hlt : b.toNat < 128 := UInt8.lt_iff_toNat_lt.mp hb
  rw [Bool.eq_false_iff, Ne, isContinuation_iff]
  omega

lemma isSecondOfThree_of_lt (hb : b < 0x80) (first : UInt8) : isSecondOfThree first b = false := by
  have hlt : b.toNat < 128 := UInt8.lt_iff_toNat_lt.mp hb
  rw [Bool.eq_false_iff]
  intro h
  have hlow := (isSecondOfThree_bounds h).1
  omega

lemma isSecondOfFour_of_lt (hb : b < 0x80) (first : UInt8) : isSecondOfFour first b = false := by
  have hlt : b.toNat < 128 := UInt8.lt_iff_toNat_lt.mp hb
  rw [Bool.eq_false_iff]
  intro h
  have hlow := (isSecondOfFour_bounds h).1
  omega

lemma le_toNat_ofNat {n : Nat} (hvalid : n.isValidChar) (hlow : 128 ≤ n) :
    128 ≤ (Char.ofNat n).toNat := by
  rw [Char.toNat_ofNat, if_pos hvalid]
  exact hlow

/-! ## What bytes begin with -/

lemma beginning_of_lt (hb : b < 0x80) (rest : List UInt8) :
    beginning b rest = .char (Char.ofNat b.toNat) 0 := by
  rw [beginning.eq_def, if_pos hb]

/-- What bytes begin with of which the first one is of the large half, whatever follows them. -/
inductive Several (b₁ : UInt8) (rest : List UInt8) : Prop where
  | char (c : Char) (more : Nat) (hlarge : 128 ≤ c.toNat) (hmore : more ≤ rest.length)
    (hbeginning : ∀ later, beginning b₁ (rest ++ later) = .char c more)
  | broken (more : Nat) (hmore : more ≤ rest.length)
    (hbeginning : ∀ later, beginning b₁ (rest ++ later) = .broken more)
  | cut (hbeginning : beginning b₁ rest = .cut)
    (hbroken : ∀ b < 0x80, ∀ later, beginning b₁ (rest ++ b :: later) = .broken rest.length)

section Several

variable (hb₁ : ¬ b₁ < 0x80) (hfirst : ¬ (decide (b₁ < 0xC2) || decide (0xF4 < b₁)) = true)
include hfirst

lemma first_bounds : 194 ≤ b₁.toNat ∧ b₁.toNat ≤ 244 := by
  simp only [Bool.or_eq_true, decide_eq_true_eq, UInt8.lt_iff_toNat_lt] at hfirst
  change ¬ (b₁.toNat < 194 ∨ 244 < b₁.toNat) at hfirst
  omega

include hb₁

lemma several_two (htwo : b₁ < 0xE0) : Several b₁ (b₂ :: rest) := by
  by_cases hsecond : isContinuation b₂ = true
  · refine .char (Char.ofNat (b₁.toNat % 32 * 64 + payload b₂)) 1 ?_ (by simp) fun later => ?_
    · have hfirst := first_bounds hfirst
      have hlt : b₁.toNat < 224 := UInt8.lt_iff_toNat_lt.mp htwo
      have hbounds := isContinuation_iff.mp hsecond
      rw [payload]
      refine le_toNat_ofNat (Or.inl ?_) ?_ <;> omega
    · simp [beginning, hb₁, hfirst, htwo, hsecond]
  · exact .broken 0 (Nat.zero_le _) fun later => by simp [beginning, hb₁, hfirst, htwo, hsecond]

lemma several_three (htwo : ¬ b₁ < 0xE0) (hthree : b₁ < 0xF0) : Several b₁ (b₂ :: rest) := by
  by_cases hsecond : isSecondOfThree b₁ b₂ = true
  · cases rest with
    | nil =>
      refine .cut (by simp [beginning, hb₁, hfirst, htwo, hthree, hsecond]) fun b hb later => ?_
      simp [beginning, hb₁, hfirst, htwo, hthree, hsecond, isContinuation_of_lt hb]
    | cons b₃ rest =>
      by_cases hthird : isContinuation b₃ = true
      · refine .char (Char.ofNat ((b₁.toNat % 16 * 64 + payload b₂) * 64 + payload b₃)) 2 ?_
          (by simp) fun later => ?_
        · have hge : 224 ≤ b₁.toNat := UInt8.le_iff_toNat_le.mp (UInt8.not_lt.mp htwo)
          have hlt : b₁.toNat < 240 := UInt8.lt_iff_toNat_lt.mp hthree
          have hbounds := isSecondOfThree_bounds hsecond
          rw [payload, payload]
          refine le_toNat_ofNat ?_ ?_
          · rw [Nat.isValidChar]
            omega
          · omega
        · simp [beginning, hb₁, hfirst, htwo, hthree, hsecond, hthird]
      · exact .broken 1 (by simp) fun later => by
          simp [beginning, hb₁, hfirst, htwo, hthree, hsecond, hthird]
  · exact .broken 0 (Nat.zero_le _) fun later => by
      simp [beginning, hb₁, hfirst, htwo, hthree, hsecond]

lemma several_four (htwo : ¬ b₁ < 0xE0) (hthree : ¬ b₁ < 0xF0) : Several b₁ (b₂ :: rest) := by
  by_cases hsecond : isSecondOfFour b₁ b₂ = true
  · cases rest with
    | nil =>
      refine .cut (by simp [beginning, hb₁, hfirst, htwo, hthree, hsecond]) fun b hb later => ?_
      simp [beginning, hb₁, hfirst, htwo, hthree, hsecond, isContinuation_of_lt hb]
    | cons b₃ rest =>
      by_cases hthird : isContinuation b₃ = true
      · cases rest with
        | nil =>
          refine .cut (by simp [beginning, hb₁, hfirst, htwo, hthree, hsecond, hthird])
            fun b hb later => ?_
          simp [beginning, hb₁, hfirst, htwo, hthree, hsecond, hthird, isContinuation_of_lt hb]
        | cons b₄ rest =>
          by_cases hfourth : isContinuation b₄ = true
          · refine .char (Char.ofNat (((b₁.toNat % 8 * 64 + payload b₂) * 64 + payload b₃) * 64 +
              payload b₄)) 3 ?_ (by simp) fun later => ?_
            · have hfirst := first_bounds hfirst
              have hge : 240 ≤ b₁.toNat := UInt8.le_iff_toNat_le.mp (UInt8.not_lt.mp hthree)
              have hbounds := isSecondOfFour_bounds hsecond
              rw [payload, payload, payload]
              refine le_toNat_ofNat ?_ ?_
              · rw [Nat.isValidChar]
                omega
              · omega
            · simp [beginning, hb₁, hfirst, htwo, hthree, hsecond, hthird, hfourth]
          · exact .broken 2 (by simp) fun later => by
              simp [beginning, hb₁, hfirst, htwo, hthree, hsecond, hthird, hfourth]
      · exact .broken 1 (by simp) fun later => by
          simp [beginning, hb₁, hfirst, htwo, hthree, hsecond, hthird]
  · exact .broken 0 (Nat.zero_le _) fun later => by
      simp [beginning, hb₁, hfirst, htwo, hthree, hsecond]

omit hfirst in
/-- There is nothing else that bytes of the large half begin. -/
lemma several (rest : List UInt8) : Several b₁ rest := by
  by_cases hfirst : (decide (b₁ < 0xC2) || decide (0xF4 < b₁)) = true
  · refine .broken 0 (Nat.zero_le _) fun later => ?_
    rw [beginning.eq_def, if_neg hb₁, if_pos hfirst]
  cases rest with
  | nil =>
    refine .cut (by simp [beginning, hb₁, hfirst]) fun b hb later => ?_
    simp [beginning, hb₁, hfirst, isContinuation_of_lt hb, isSecondOfThree_of_lt hb,
      isSecondOfFour_of_lt hb]
  | cons b₂ rest =>
    by_cases htwo : b₁ < 0xE0
    · exact several_two hb₁ hfirst htwo
    · by_cases hthree : b₁ < 0xF0
      · exact several_three hb₁ hfirst htwo hthree
      · exact several_four hb₁ hfirst htwo hthree

end Several

/-! ## Lossy reading -/

/-- What ends in a byte of the small half is read as what ends in its character. -/
lemma decodeLossy_concat (hb : b < 0x80) (bytes : List UInt8) :
    decodeLossy (bytes ++ [b]) = decodeLossy bytes ++ [Char.ofNat b.toNat] := by
  induction hlength : bytes.length using Nat.strong_induction_on generalizing bytes with
  | _ n ih =>
    subst hlength
    cases bytes with
    | nil => simp [decodeLossy, beginning_of_lt hb]
    | cons b₁ rest =>
      have hrest : ∀ more, decodeLossy (rest.drop more ++ [b]) =
          decodeLossy (rest.drop more) ++ [Char.ofNat b.toNat] :=
        fun more => ih _ (by rw [List.length_drop, List.length_cons]; omega) _ rfl
      rw [List.cons_append, decodeLossy, decodeLossy]
      by_cases hb₁ : b₁ < 0x80
      · simpa [beginning_of_lt hb₁] using hrest 0
      · cases several hb₁ rest with
        | char c more hlarge hmore hbeginning =>
          have halone := hbeginning []
          rw [List.append_nil] at halone
          simp [hbeginning, halone, List.drop_append_of_le_length hmore, hrest]
        | broken more hmore hbeginning =>
          have halone := hbeginning []
          rw [List.append_nil] at halone
          simp [hbeginning, halone, List.drop_append_of_le_length hmore, hrest]
        | cut hbeginning hbroken =>
          simp [hbeginning, hbroken b hb [], decodeLossy, beginning_of_lt hb]

lemma decodeLossy_eq_nil (h : decodeLossy bytes = []) : bytes = [] := by
  cases bytes with
  | nil => rfl
  | cons b rest =>
    rw [decodeLossy] at h
    split at h <;> exact absurd h (List.cons_ne_nil _ _)

/-- What is read as what ends in an ASCII character ends in a byte of the small half. -/
lemma exists_concat_of_decodeLossy (h : decodeLossy bytes = text ++ [c]) (hc : c.toNat < 128) :
    ∃ stem b, b < 0x80 ∧ bytes = stem ++ [b] := by
  induction hlength : bytes.length using Nat.strong_induction_on generalizing bytes text with
  | _ n ih =>
    subst hlength
    cases bytes with
    | nil => simp [decodeLossy] at h
    | cons b₁ rest =>
      -- either the first character is the last one, or the others end in such a byte
      have hlast : ∀ c' more, c' :: decodeLossy (rest.drop more) = text ++ [c] →
          c' = c ∧ rest.drop more = [] ∨ ∃ stem b, b < 0x80 ∧ b₁ :: rest = stem ++ [b] := by
        intro c' more heq
        rcases List.cons_eq_append_iff.mp heq with ⟨-, heq⟩ | ⟨text', -, heq⟩
        · rw [List.cons.injEq, eq_comm (a := c), eq_comm (a := [])] at heq
          exact Or.inl ⟨heq.1, decodeLossy_eq_nil heq.2⟩
        · obtain ⟨stem, b, hb, hstem⟩ :=
            ih _ (by rw [List.length_drop, List.length_cons]; omega) heq rfl
          refine Or.inr ⟨b₁ :: rest.take more ++ stem, b, hb, ?_⟩
          rw [List.append_assoc, ← hstem, List.cons_append, List.take_append_drop]
      have hlater : ∀ c' more, 128 ≤ c'.toNat → c' :: decodeLossy (rest.drop more) = text ++ [c] →
          ∃ stem b, b < 0x80 ∧ b₁ :: rest = stem ++ [b] := by
        intro c' more hlarge heq
        rcases hlast c' more heq with ⟨rfl, -⟩ | hconcat
        · omega
        · exact hconcat
      have hreplacement : 128 ≤ replacement.toNat := by decide
      have hrest : rest ++ [] = rest := List.append_nil rest
      rw [decodeLossy] at h
      by_cases hb₁ : b₁ < 0x80
      · rw [beginning_of_lt hb₁] at h
        rcases hlast _ 0 h with ⟨-, hnil⟩ | hconcat
        · rw [List.drop_zero] at hnil
          exact ⟨[], b₁, hb₁, by rw [hnil, List.nil_append]⟩
        · exact hconcat
      · cases several hb₁ rest with
        | char c' more hlarge hmore hbeginning =>
          rw [← hrest, hbeginning, hrest] at h
          exact hlater c' more hlarge h
        | broken more hmore hbeginning =>
          rw [← hrest, hbeginning, hrest] at h
          exact hlater replacement more hreplacement h
        | cut hbeginning hbroken =>
          rw [hbeginning] at h
          refine hlater replacement rest.length hreplacement ?_
          rw [List.drop_length, decodeLossy]
          exact h

/-! ## ASCII endings -/

lemma encodeUtf8_ascii (hc : c.toNat < 128) : encodeUtf8 [c] = [UInt8.ofNat c.toNat] := by
  change String.utf8EncodeChar c ++ [] = _
  rw [List.append_nil, String.utf8EncodeChar]
  exact if_pos (Nat.le_of_lt_succ hc)

/-- The byte of an ASCII character is of the small half and stands for it. -/
lemma byte_ascii (hc : c.toNat < 128) :
    UInt8.ofNat c.toNat < 0x80 ∧ Char.ofNat (UInt8.ofNat c.toNat).toNat = c := by
  refine ⟨(ofNat_lt_iff (by omega) 0x80).mpr hc, ?_⟩
  rw [toNat_ofNat_byte (by omega), Char.ofNat_toNat]

lemma decodeLossy_append_ascii {ending : List Char} (hascii : ∀ c ∈ ending, c.toNat < 128)
    (bytes : List UInt8) :
    decodeLossy (bytes ++ encodeUtf8 ending) = decodeLossy bytes ++ ending := by
  induction ending using List.reverseRecOn with
  | nil => rw [encodeUtf8, List.flatMap_nil, List.append_nil, List.append_nil]
  | append_singleton ending c ih =>
    have hc := hascii c (List.mem_append_right _ List.mem_cons_self)
    rw [encodeUtf8_append, encodeUtf8_ascii hc, ← List.append_assoc,
      decodeLossy_concat (byte_ascii hc).1, (byte_ascii hc).2,
      ih fun c' hc' => hascii c' (List.mem_append_left _ hc'), List.append_assoc]

/-- ASCII characters at the end of what is read are the bytes at the end. -/
lemma exists_append_of_decodeLossy {ending : List Char} (hascii : ∀ c ∈ ending, c.toNat < 128)
    (h : decodeLossy bytes = text ++ ending) :
    ∃ stem, bytes = stem ++ encodeUtf8 ending ∧ decodeLossy stem = text := by
  induction ending using List.reverseRecOn generalizing bytes with
  | nil => exact ⟨bytes, by simp [encodeUtf8], by simpa using h⟩
  | append_singleton ending c ih =>
    have hc := hascii c (List.mem_append_right _ List.mem_cons_self)
    rw [← List.append_assoc] at h
    obtain ⟨stem, b, hb, rfl⟩ := exists_concat_of_decodeLossy h hc
    rw [decodeLossy_concat hb] at h
    obtain ⟨hstem, hlast⟩ := List.append_inj' h rfl
    obtain ⟨stem', rfl, htext⟩ := ih (fun c' hc' => hascii c' (List.mem_append_left _ hc')) hstem
    refine ⟨stem', ?_, htext⟩
    have hbyte : b = UInt8.ofNat c.toNat := by
      rw [← List.singleton_inj.mp hlast, Char.toNat_ofNat, if_pos, UInt8.ofNat_toNat]
      exact Or.inl (Nat.lt_trans b.toNat_lt (by decide))
    rw [encodeUtf8_append, encodeUtf8_ascii hc, hbyte, List.append_assoc]

lemma ascii_of_toLower (h : c.toLower.toNat < 128) : c.toNat < 128 := by
  rw [Char.toLower] at h
  split at h
  · next hupper =>
    have hle := UInt32.le_iff_toNat_le.mp hupper.2
    exact Nat.lt_of_le_of_lt hle (by decide)
  · exact h

end CacheSim.Text
