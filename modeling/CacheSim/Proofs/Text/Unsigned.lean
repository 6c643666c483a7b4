import Mathlib
import CacheSim.Text.Blank
import CacheSim.Text.Unsigned

/-!
# Numbers that are written are read back

A written number consists of digits, so it is not empty, it has no sign, and there is no white
space in it: that around it is all that trimming takes away.

* `trim_padded`: what trimming leaves;
* `readUnsigned?_unsigned`: a written number is read back.
-/

namespace CacheSim.Text

/-! ## White space -/

/-- Nothing but white space. -/
def IsPadding (cs : List Char) : Prop :=
  ∀ c ∈ cs, isBlank c = true

/-- No white space at the beginning. -/
def BeginsSolid (cs : List Char) : Prop :=
  ∀ c ∈ cs.head?, isBlank c = false

/-- No white space at the end. -/
def EndsSolid (cs : List Char) : Prop :=
  ∀ c ∈ cs.getLast?, isBlank c = false

variable {left text right : List Char}

lemma dropWhile_padding (hleft : IsPadding left) (text : List Char) :
    (left ++ text).dropWhile isBlank = text.dropWhile isBlank :=
  List.dropWhile_append_of_pos hleft

lemma dropWhile_solid (htext : BeginsSolid text) : text.dropWhile isBlank = text := by
  cases text with
  | nil => rfl
  | cons c text =>
    rw [List.dropWhile_cons_of_neg]
    simp [htext c (by simp)]

lemma trimRight_padding (hright : IsPadding right) (text : List Char) :
    trimRight (text ++ right) = trimRight text := by
  have hreverse : IsPadding right.reverse := fun c hc => hright c (List.mem_reverse.mp hc)
  rw [trimRight, List.reverse_append, dropWhile_padding hreverse, trimRight]

lemma trimRight_solid (htext : EndsSolid text) : trimRight text = text := by
  have hreverse : BeginsSolid text.reverse := by
    intro c hc
    rw [List.head?_reverse] at hc
    exact htext c hc
  rw [trimRight, dropWhile_solid hreverse, List.reverse_reverse]

lemma trim_padding (hright : IsPadding right) (text : List Char) :
    trim (text ++ right) = trim text := by
  rw [trim, trim, List.dropWhile_append]
  split
  · next hempty =>
    have hnil : text.dropWhile isBlank = [] := List.isEmpty_iff.mp hempty
    have hpadding := dropWhile_padding hright []
    rw [List.append_nil] at hpadding
    rw [hnil, hpadding]
    rfl
  · exact trimRight_padding hright _

/-- White space is taken away at both ends, up to what is none. -/
lemma trim_padded (hleft : IsPadding left) (hbegins : BeginsSolid text) (hends : EndsSolid text)
    (hright : IsPadding right) : trim (left ++ text ++ right) = text := by
  rw [trim_padding hright, trim, dropWhile_padding hleft, dropWhile_solid hbegins,
    trimRight_solid hends]

/-! ## Digits -/

lemma isBlank_of_isDigit {c : Char} (h : isDigit c = true) : isBlank c = false := by
  simp only [isDigit, Bool.and_eq_true, decide_eq_true_eq, Char.le_def] at h
  have hlow : 48 ≤ c.toNat := UInt32.le_iff_toNat_le.mp h.1
  have hhigh : c.toNat ≤ 57 := UInt32.le_iff_toNat_le.mp h.2
  simp [isBlank]
  omega

lemma ne_of_isDigit {c c' : Char} (h : isDigit c = true) (h' : isDigit c' = false) : c ≠ c' := by
  rintro rfl
  rw [h] at h'
  contradiction

/-- Without a sign a number is its digits. -/
lemma readUnsigned?_of_all {cs : List Char} (h : cs.all isDigit = true) :
    readUnsigned? cs = readDigits? cs := by
  cases cs with
  | nil => rfl
  | cons c cs =>
    rw [List.all_cons, Bool.and_eq_true] at h
    have hsign : c ≠ '+' := ne_of_isDigit h.1 (by decide)
    rw [readUnsigned?.eq_def]
    split
    · next heq => exact absurd (List.cons.inj heq).1 hsign
    · rfl

variable (n : UInt64)

lemma isDigit_of_mem_unsigned {c : Char} (h : c ∈ unsigned n) : isDigit c = true :=
  Nat.isDigit_of_mem_toDigits (by decide) (by decide) h

lemma unsigned_ne_nil : unsigned n ≠ [] :=
  Nat.toDigits_ne_nil

lemma beginsSolid_unsigned : BeginsSolid (unsigned n) := fun _ hc =>
  isBlank_of_isDigit (isDigit_of_mem_unsigned n (List.mem_of_head? hc))

lemma endsSolid_unsigned : EndsSolid (unsigned n) := fun _ hc =>
  isBlank_of_isDigit (isDigit_of_mem_unsigned n (List.mem_of_getLast? hc))

lemma digitsValue_unsigned : digitsValue (unsigned n) = n.toNat := by
  have hvalue : digitsValue (unsigned n) = Nat.ofDigitChars 10 (Nat.toDigits 10 n.toNat) 0 := rfl
  rw [hvalue, Nat.ofDigitChars_ten_toDigits]

/-- A written number is read back. -/
lemma readUnsigned?_unsigned : readUnsigned? (unsigned n) = some n := by
  have hall : (unsigned n).all isDigit = true :=
    List.all_eq_true.mpr fun _ hc => isDigit_of_mem_unsigned n hc
  rw [readUnsigned?_of_all hall, readDigits?,
    if_pos ⟨unsigned_ne_nil n, hall, digitsValue_unsigned n ▸ n.toNat_lt⟩, digitsValue_unsigned,
    UInt64.ofNat_toNat]

end CacheSim.Text
