import CacheSim.Config.Size
import CacheSim.Proofs.Text.Numerals

/-!
# Which texts are sizes

A size is written as digits and a unit, with white space around them and between them.  A text is
read as a size exactly if it is written so and neither the digits nor the size they stand for
exceed a word, and the size is then the exact product.

* `Size.lookup_units_iff`: the units that are known;
* `Size.ofChars_of_parts`, `Size.exists_parts`: a text is read part by part;
* `Size.sizes_by_grammar`: which texts are sizes.
-/

namespace CacheSim.Size

open Text

/-! ## The grammar -/

/-- The names of a power of 1024, in small letters. -/
def names : Nat → List String
  | 0 => ["", "b"]
  | 1 => ["k", "kb", "kib"]
  | 2 => ["m", "mb", "mib"]
  | 3 => ["g", "gb", "gib"]
  | 4 => ["t", "tb", "tib"]
  | _ => []

/-- A unit stands for a power of 1024: it is a name of it, in ASCII letters of either case. -/
def IsUnit (unit : List Char) (power : Nat) : Prop :=
  ∃ name ∈ names power, unit.map Char.toLower = name.toList

/-- A text, with white space around it, stands for a size: it consists of digits and a unit, with or
without white space between them, and the size is the exact product. -/
def StandsFor (text : List Char) (n : UInt64) : Prop :=
  ∃ digits gap unit v power, Trims text (digits ++ gap ++ unit) ∧ Digits digits v ∧
    IsPadding gap ∧ IsUnit unit power ∧ n.toNat = v.toNat * 1024 ^ power

variable {text digits gap unit rest : List Char} {c : Char} {n v : UInt64} {power : Nat}

/-! ## Units -/

/-- Letters alone are changed. -/
lemma toLower_eq_self (h : isDigit c = true ∨ isBlank c = true) : c.toLower = c := by
  have hnot : ¬ (65 ≤ c.toNat ∧ c.toNat ≤ 90) := by
    rcases h with h | h
    · simp only [isDigit, Bool.and_eq_true, decide_eq_true_eq, Char.le_def] at h
      have hhigh : c.toNat ≤ 57 := UInt32.le_iff_toNat_le.mp h.2
      omega
    · simp [isBlank] at h
      omega
  rw [Char.toLower, dif_neg]
  rintro ⟨hlow, hhigh⟩
  exact hnot ⟨UInt32.le_iff_toNat_le.mp hlow, UInt32.le_iff_toNat_le.mp hhigh⟩

lemma solid_of_mem_names : ∀ power, ∀ name ∈ names power, ∀ c ∈ name.toList,
    isDigit c = false ∧ isBlank c = false
  | 0 | 1 | 2 | 3 | 4 => by simp [names, isDigit, isBlank]
  | _ + 5 => fun _ hname => absurd hname List.not_mem_nil

/-- There are neither digits nor white space in a unit. -/
lemma IsUnit.solid (h : IsUnit unit power) (hc : c ∈ unit) :
    isDigit c = false ∧ isBlank c = false := by
  obtain ⟨name, hname, hunit⟩ := h
  by_contra hnot
  have hlower : c.toLower = c := toLower_eq_self (by
    rw [not_and_or, Bool.not_eq_false, Bool.not_eq_false] at hnot
    exact hnot)
  refine hnot (solid_of_mem_names power name hname c ?_)
  rw [← hunit, ← hlower]
  exact List.mem_map_of_mem hc

lemma lookup_names : ∀ power, ∀ name ∈ names power, units.lookup name.toList = some power
  | 0 | 1 | 2 | 3 | 4 => by decide
  | _ + 5 => fun _ hname => absurd hname List.not_mem_nil

lemma mem_names_of_mem_units : ∀ e ∈ units, ∃ name ∈ names e.2, e.1 = name.toList := by
  decide

/-- The units that are known. -/
lemma lookup_units_iff : units.lookup (unit.map Char.toLower) = some power ↔ IsUnit unit power := by
  constructor
  · intro h
    obtain ⟨before, after, hunits, -⟩ := List.lookup_eq_some_iff.mp h
    exact mem_names_of_mem_units (unit.map Char.toLower, power) (by rw [hunits]; simp)
  · rintro ⟨name, hname, hunit⟩
    rw [hunit]
    exact lookup_names power name hname

/-! ## Parts -/

lemma dropWhile_isDigit (hdigits : digits.all isDigit = true)
    (hrest : ∀ c ∈ rest.head?, isDigit c = false) :
    (digits ++ rest).takeWhile isDigit = digits ∧ (digits ++ rest).dropWhile isDigit = rest := by
  have hall : ∀ c ∈ digits, isDigit c = true := List.all_eq_true.mp hdigits
  rw [List.takeWhile_append_of_pos hall, List.dropWhile_append_of_pos hall]
  cases rest with
  | nil => simp
  | cons c rest => simp [hrest c (by simp)]

lemma endsSolid_of_append {cs : List Char} (h : EndsSolid (cs ++ unit)) : EndsSolid unit := by
  intro c hc
  refine h c ?_
  rw [List.getLast?_append, Option.mem_def.mp hc]
  rfl

/-- A text is read part by part. -/
lemma ofChars_of_parts (htext : Trims text (digits ++ gap ++ unit)) (hdigits : Digits digits v)
    (hgap : IsPadding gap) (hunit : IsUnit unit power) :
    ofChars text =
      if v.toNat * Nat.pow 1024 power < UInt64.size then
        .ok (UInt64.ofNat (v.toNat * Nat.pow 1024 power))
      else .error .tooLarge := by
  have hbegins : BeginsSolid unit := fun c hc => (hunit.solid (List.mem_of_head? hc)).2
  have hrest : ∀ c ∈ (gap ++ unit).head?, isDigit c = false := by
    intro c hc
    rcases List.mem_append.mp (List.mem_of_head? hc) with hc | hc
    · by_contra hdigit
      have hsolid := isBlank_of_isDigit (Bool.eq_true_of_not_eq_false hdigit)
      rw [hgap c hc] at hsolid
      contradiction
    · exact (hunit.solid hc).1
  have htrim : trim (gap ++ unit) = unit := by
    have hpadded := trim_padded hgap hbegins (endsSolid_of_append htext.ends) isPadding_nil
    rwa [List.append_nil] at hpadded
  obtain ⟨htake, hdrop⟩ := dropWhile_isDigit (all_isDigit_iff.mpr hdigits.digit) hrest
  rw [ofChars, trims_iff.mp htext, List.append_assoc, htake, hdrop, htrim,
    readDigits?_eq_some_iff.mpr hdigits]
  dsimp only
  rw [lookup_units_iff.mpr hunit]

/-- A text that is read has its parts. -/
lemma exists_parts (h : ofChars text = .ok n) : ∃ digits gap unit v power,
    Trims text (digits ++ gap ++ unit) ∧ Digits digits v ∧ IsPadding gap ∧ IsUnit unit power := by
  set rest := (trim text).dropWhile isDigit with hrest
  have htext : trim text =
      (trim text).takeWhile isDigit ++ rest.takeWhile isBlank ++ rest.dropWhile isBlank := by
    rw [List.append_assoc, List.takeWhile_append_dropWhile, hrest,
      List.takeWhile_append_dropWhile]
  have hends : EndsSolid (rest.dropWhile isBlank) :=
    endsSolid_of_append (htext ▸ (trims_trim text).ends)
  simp only [ofChars, ← hrest] at h
  cases hdigits : readDigits? ((trim text).takeWhile isDigit) with
  | none =>
    rw [hdigits] at h
    cases h
  | some v =>
    rw [hdigits] at h
    dsimp only at h
    rw [trim, trimRight_solid hends] at h
    cases hunit : units.lookup ((rest.dropWhile isBlank).map Char.toLower) with
    | none =>
      rw [hunit] at h
      cases h
    | some power =>
      exact ⟨_, rest.takeWhile isBlank, _, v, power, trims_iff.mpr htext,
        readDigits?_eq_some_iff.mp hdigits, isPadding_takeWhile rest, lookup_units_iff.mp hunit⟩

/-- **Which texts are sizes.**  A text is read as a size exactly if it stands for it; so whatever
stands for no word is an error.  In particular the digits of every word are read as that word. -/
theorem sizes_by_grammar :
    (∀ s n, parse s = .ok n ↔ StandsFor s.toList n) ∧
      ∀ n : UInt64, parse (toString n) = .ok n := by
  have hgrammar : ∀ s n, parse s = .ok n ↔ StandsFor s.toList n := by
    intro s n
    constructor
    · intro h
      obtain ⟨digits, gap, unit, v, power, htext, hdigits, hgap, hunit⟩ := exists_parts h
      refine ⟨digits, gap, unit, v, power, htext, hdigits, hgap, hunit, ?_⟩
      rw [parse, ofChars_of_parts htext hdigits hgap hunit] at h
      split at h
      · next hlt =>
        rw [← Except.ok.inj h, UInt64.toNat_ofNat_of_lt' hlt]
        rfl
      · cases h
    · rintro ⟨digits, gap, unit, v, power, htext, hdigits, hgap, hunit, hn⟩
      have hlt : v.toNat * Nat.pow 1024 power < UInt64.size := hn ▸ n.toNat_lt
      rw [parse, ofChars_of_parts htext hdigits hgap hunit, if_pos hlt]
      exact congrArg _ (UInt64.toNat_inj.mp (by rw [UInt64.toNat_ofNat_of_lt' hlt, hn]; rfl))
  refine ⟨hgrammar, fun n => (hgrammar _ n).mpr ?_⟩
  have htext : (toString n).toList = unsigned n := by
    change (toString n.toNat).toList = _
    simp [unsigned]
  have hsolid : Trims (unsigned n) (unsigned n ++ [] ++ []) := by
    rw [List.append_nil, List.append_nil]
    exact trims_self (beginsSolid_unsigned n) (endsSolid_unsigned n)
  exact ⟨unsigned n, [], [], n, 0, htext ▸ hsolid, digits_unsigned n, isPadding_nil,
    ⟨"", List.mem_cons_self, rfl⟩, (Nat.mul_one _).symm⟩

end CacheSim.Size
