import CacheSim.Proofs.Text.Pieces
import CacheSim.Proofs.Text.Unsigned

/-!
# Which texts are numbers

A number is written as one or more digits, most significant first.  Here the texts that are read as
numbers are described without the functions that read them: what is left of a text without white
space at its ends, where a list is cut at separators, and which word a row of digits stands for.
Each description is met by exactly one result of its function.

* `trims_iff`: trimming leaves what has no white space at its ends;
* `cutAt_iff`: the pieces are what has no separator in it and is joined by separators;
* `readDigits?_eq_some_iff`, `readUnsigned?_eq_some_iff`: exactly the digits of a word, after a sign
  or not, are read.
-/

namespace CacheSim.Text

variable {text core cs : List Char} {n : UInt64}

/-! ## Trimmed texts -/

/-- A text consists of a core and white space around it. -/
structure Trims (text core : List Char) : Prop where
  padded : ∃ left right, IsPadding left ∧ IsPadding right ∧ text = left ++ core ++ right
  begins : BeginsSolid core
  ends : EndsSolid core

lemma isPadding_takeWhile (cs : List Char) : IsPadding (cs.takeWhile isBlank) :=
  fun _ hc => List.mem_takeWhile_imp hc

lemma beginsSolid_dropWhile (cs : List Char) : BeginsSolid (cs.dropWhile isBlank) := by
  intro c hc
  have hne : cs.dropWhile isBlank ≠ [] := List.ne_nil_of_mem (List.mem_of_head? hc)
  rw [List.head?_eq_some_head hne, Option.mem_some_iff] at hc
  rw [← hc]
  exact List.head_dropWhile_not isBlank hne

/-- What is taken away at the end is white space. -/
lemma exists_trimRight (cs : List Char) :
    ∃ right, IsPadding right ∧ cs = trimRight cs ++ right := by
  refine ⟨(cs.reverse.takeWhile isBlank).reverse, fun c hc => ?_, ?_⟩
  · exact isPadding_takeWhile _ c (List.mem_reverse.mp hc)
  · rw [trimRight, ← List.reverse_append, List.takeWhile_append_dropWhile, List.reverse_reverse]

lemma endsSolid_trimRight (cs : List Char) : EndsSolid (trimRight cs) := by
  intro c hc
  rw [trimRight, List.getLast?_reverse] at hc
  exact beginsSolid_dropWhile _ c hc

lemma beginsSolid_trimRight (h : BeginsSolid cs) : BeginsSolid (trimRight cs) := by
  obtain ⟨right, -, hcs⟩ := exists_trimRight cs
  intro c hc
  refine h c ?_
  rw [hcs, List.head?_append, Option.mem_def.mp hc]
  rfl

lemma trims_trim (text : List Char) : Trims text (trim text) where
  padded := by
    obtain ⟨right, hright, hdrop⟩ := exists_trimRight (text.dropWhile isBlank)
    refine ⟨text.takeWhile isBlank, right, isPadding_takeWhile text, hright, ?_⟩
    rw [trim, List.append_assoc, ← hdrop, List.takeWhile_append_dropWhile]
  begins := beginsSolid_trimRight (beginsSolid_dropWhile text)
  ends := endsSolid_trimRight _

lemma isPadding_nil : IsPadding [] :=
  fun _ hc => absurd hc List.not_mem_nil

lemma trims_self (hbegins : BeginsSolid core) (hends : EndsSolid core) : Trims core core :=
  ⟨⟨[], [], isPadding_nil, isPadding_nil, by simp⟩, hbegins, hends⟩

/-- Trimming leaves what has no white space at its ends. -/
lemma trims_iff : Trims text core ↔ trim text = core := by
  constructor
  · rintro ⟨⟨left, right, hleft, hright, rfl⟩, hbegins, hends⟩
    exact trim_padded hleft hbegins hends hright
  · rintro rfl
    exact trims_trim text

/-! ## Cut lists -/

section Cut

variable {α : Type} {sep : α} {xs : List α} {ps : List (List α)}

/-- A list is cut at its separators. -/
structure CutAt (sep : α) (xs : List α) (ps : List (List α)) : Prop where
  /-- There is a piece, be it empty. -/
  ne_nil : ps ≠ []
  /-- There is no separator in a piece. -/
  not_mem : ∀ p ∈ ps, sep ∉ p
  /-- Separators between the pieces make up the list. -/
  joined : [sep].intercalate ps = xs

variable [DecidableEq α]

lemma cutAt_pieces (sep : α) (xs : List α) : CutAt sep xs (pieces sep xs) := by
  induction xs using lines_induction with
  | last xs hsep =>
    rw [pieces_of_not_mem hsep]
    exact ⟨List.cons_ne_nil _ _, by simpa using hsep, List.intercalate_singleton⟩
  | append body xs hbody ih =>
    rw [pieces_append hbody]
    refine ⟨List.cons_ne_nil _ _, List.forall_mem_cons.mpr ⟨hbody, ih.not_mem⟩, ?_⟩
    obtain ⟨p, ps, hps⟩ := List.exists_cons_of_ne_nil ih.ne_nil
    have hjoined := ih.joined
    rw [hps] at hjoined ⊢
    rw [List.intercalate_cons_cons, hjoined, List.append_assoc, List.singleton_append]

lemma pieces_intercalate (hne : ps ≠ []) (hnot : ∀ p ∈ ps, sep ∉ p) :
    pieces sep ([sep].intercalate ps) = ps := by
  induction ps with
  | nil => exact absurd rfl hne
  | cons p ps ih =>
    obtain ⟨hp, hps⟩ := List.forall_mem_cons.mp hnot
    cases ps with
    | nil => rw [List.intercalate_singleton, pieces_of_not_mem hp]
    | cons p' ps =>
      rw [List.intercalate_cons_cons, List.append_assoc, List.singleton_append, pieces_append hp,
        ih (List.cons_ne_nil _ _) hps]

/-- There is one way to cut a list at its separators. -/
lemma cutAt_iff : CutAt sep xs ps ↔ ps = pieces sep xs := by
  constructor
  · rintro ⟨hne, hnot, rfl⟩
    exact (pieces_intercalate hne hnot).symm
  · rintro rfl
    exact cutAt_pieces sep xs

end Cut

/-! ## Digits -/

/-- A row of ASCII digits stands for a word in the decimal system. -/
structure Digits (cs : List Char) (n : UInt64) : Prop where
  ne_nil : cs ≠ []
  digit : ∀ c ∈ cs, '0' ≤ c ∧ c ≤ '9'
  value : Nat.ofDigits 10 (cs.reverse.map fun c => c.toNat - '0'.toNat) = n.toNat

/-- The digits of a word, after a plus sign if there is one. -/
def Numeral (cs : List Char) (n : UInt64) : Prop :=
  ∃ digits, Digits digits n ∧ (cs = digits ∨ cs = '+' :: digits)

lemma digitsValue_eq (cs : List Char) :
    digitsValue cs = Nat.ofDigits 10 (cs.reverse.map fun c => c.toNat - '0'.toNat) := by
  rw [Nat.ofDigits_eq_foldr, List.foldr_map, List.foldr_reverse, digitsValue]
  congr 1
  funext n c
  rw [digitValue, Nat.add_comm]
  rfl

lemma all_isDigit_iff : cs.all isDigit = true ↔ ∀ c ∈ cs, '0' ≤ c ∧ c ≤ '9' := by
  simp [isDigit]

/-- Exactly the digits of a word are read. -/
lemma readDigits?_eq_some_iff : readDigits? cs = some n ↔ Digits cs n := by
  rw [readDigits?]
  constructor
  · intro h
    split at h
    · next hcond =>
      obtain ⟨hne, hall, hlt⟩ := hcond
      obtain rfl := Option.some.inj h
      exact ⟨hne, all_isDigit_iff.mp hall,
        by rw [← digitsValue_eq, UInt64.toNat_ofNat_of_lt' hlt]⟩
    · cases h
  · rintro ⟨hne, hdigit, hvalue⟩
    rw [← digitsValue_eq] at hvalue
    rw [if_pos ⟨hne, all_isDigit_iff.mpr hdigit, hvalue ▸ n.toNat_lt⟩, hvalue, UInt64.ofNat_toNat]

/-- Digits have no sign in front. -/
lemma not_digits_plus : ¬ Digits ('+' :: cs) n := fun h =>
  absurd (h.digit '+' List.mem_cons_self).1 (by decide)

/-- Exactly the digits of a word are read, after a plus sign or not. -/
lemma readUnsigned?_eq_some_iff : readUnsigned? cs = some n ↔ Numeral cs n := by
  rw [readUnsigned?.eq_def]
  split
  · next digits =>
    rw [readDigits?_eq_some_iff]
    constructor
    · exact fun h => ⟨digits, h, Or.inr rfl⟩
    · rintro ⟨digits', h, rfl | heq⟩
      · exact absurd h not_digits_plus
      · rwa [(List.cons.inj heq).2]
  · next hplus =>
    rw [readDigits?_eq_some_iff]
    constructor
    · exact fun h => ⟨cs, h, Or.inl rfl⟩
    · rintro ⟨digits, h, rfl | heq⟩
      · exact h
      · exact absurd heq (hplus digits)

lemma readUnsigned?_eq_none_iff : readUnsigned? cs = none ↔ ∀ n, ¬ Numeral cs n := by
  rw [Option.eq_none_iff_forall_ne_some]
  exact forall_congr' fun n => not_congr readUnsigned?_eq_some_iff

/-- A word is written in digits. -/
lemma digits_unsigned (n : UInt64) : Digits (unsigned n) n := by
  have hall : ∀ c ∈ unsigned n, isDigit c = true := fun c hc => isDigit_of_mem_unsigned n hc
  refine ⟨unsigned_ne_nil n, all_isDigit_iff.mp (List.all_eq_true.mpr hall), ?_⟩
  rw [← digitsValue_eq, digitsValue_unsigned]

end CacheSim.Text
