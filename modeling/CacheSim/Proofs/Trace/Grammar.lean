import CacheSim.Proofs.Runs
import CacheSim.Proofs.Text.Numerals
import CacheSim.Trace.Csv

/-!
# The lines of a text trace

A line is cut at its commas, and white space around each field means nothing.  The first two fields
hold the time and the object, the third one the size in bytes, which is one if the field is missing
or empty; further fields mean nothing.  The grammar is given here without the functions that read
a line, together with what is wrong with a line outside it.

* `Csv.fields_iff`: the fields of a line;
* `Csv.column?_eq_ok_iff`, `Csv.column?_eq_error_iff`: which fields are read, and as what;
* `Csv.lines_by_grammar`: a line is read exactly if the grammar has it, as the request it stands
  for, and otherwise its first defect is told.
-/

namespace CacheSim.Trace.Csv

open Text

/-! ## The grammar -/

/-- The fields of a line: it is cut at its commas, and white space around the fields is left
out. -/
def Fields (line : List Char) (fields : List (List Char)) : Prop :=
  ∃ pieces, CutAt ',' line pieces ∧ List.Forall₂ Trims pieces fields

/-- A field that is missing or empty. -/
def Vacant (field : Option (List Char)) : Prop :=
  field = none ∨ field = some []

/-- A field that is there and holds a number. -/
def Holds (field : Option (List Char)) (n : UInt64) : Prop :=
  ∃ text, field = some text ∧ Numeral text n

/-- A field that is there, is not empty and holds no number. -/
def Unreadable (field : Option (List Char)) (text : List Char) : Prop :=
  field = some text ∧ text ≠ [] ∧ ∀ n, ¬ Numeral text n

/-- The request that the fields of a line stand for. -/
structure StandFor (fields : List (List Char)) (r : Request) : Prop where
  time : Holds fields[0]? r.time
  id : Holds fields[1]? r.id
  size : Vacant fields[2]? ∧ r.size = 1 ∨ Holds fields[2]? r.size

/-- The defect of a field that must hold a number. -/
inductive Faulty (c : Column) (field : Option (List Char)) : Defect → Prop where
  | missing (h : Vacant field) : Faulty c field (.missing c)
  | notUnsigned {text} (h : Unreadable field text) : Faulty c field (.notUnsigned c text)

/-- The first defect of a line, in the order of its columns. -/
inductive FirstDefect (fields : List (List Char)) : Defect → Prop where
  | time {defect} (htime : Faulty .time fields[0]? defect) : FirstDefect fields defect
  | id {defect time} (htime : Holds fields[0]? time) (hid : Faulty .id fields[1]? defect) :
      FirstDefect fields defect
  | size {text time id} (htime : Holds fields[0]? time) (hid : Holds fields[1]? id)
      (hsize : Unreadable fields[2]? text) : FirstDefect fields (.notUnsigned .size text)

variable {line text : List Char} {fields : List (List Char)} {field : Option (List Char)}
  {c : Column} {n : UInt64} {word : Option UInt64} {defect : Defect} {r : Request}

/-! ## Fields -/

/-- The fields of a line are determined by it. -/
lemma fields_iff : Fields line fields ↔ fields = (pieces ',' line).map trim := by
  have htrims : ∀ ps, List.Forall₂ Trims ps fields ↔ ps.map trim = fields := by
    intro ps
    rw [← List.forall₂_eq_eq_eq, List.forall₂_map_left_iff]
    exact ⟨fun h => h.imp fun _ _ => trims_iff.mp, fun h => h.imp fun _ _ => trims_iff.mpr⟩
  constructor
  · rintro ⟨ps, hcut, hall⟩
    rw [← cutAt_iff.mp hcut, (htrims ps).mp hall]
  · rintro rfl
    exact ⟨_, cutAt_pieces ',' line, (htrims _).mpr rfl⟩

lemma numeral_ne_nil (h : Numeral text n) : text ≠ [] := by
  obtain ⟨digits, hdigits, rfl | rfl⟩ := h
  · exact hdigits.ne_nil
  · exact List.cons_ne_nil _ _

lemma not_holds_of_vacant (h : Vacant field) : ¬ Holds field n := by
  rintro ⟨text, rfl, htext⟩
  rcases h with h | h
  · cases h
  · exact numeral_ne_nil htext (Option.some.inj h)

lemma column?_of_ne_nil (hne : text ≠ []) : column? c (some text) =
    match readUnsigned? text with
    | some n => .ok (some n)
    | none => .error (.notUnsigned c text) := by
  rw [column?.eq_def]
  cases text with
  | nil => exact absurd rfl hne
  | cons a as => rfl

lemma column?_of_vacant (h : Vacant field) : column? c field = .ok none := by
  rcases h with rfl | rfl <;> rfl

/-- Which fields are read, and as what. -/
lemma column?_eq_ok_iff : column? c field = .ok word ↔
    Vacant field ∧ word = none ∨ ∃ n, Holds field n ∧ word = some n := by
  by_cases hvacant : Vacant field
  · rw [column?_of_vacant hvacant, Except.ok.injEq, eq_comm]
    simp [hvacant, not_holds_of_vacant hvacant]
  · obtain ⟨text, rfl⟩ := Option.ne_none_iff_exists'.mp fun h => hvacant (Or.inl h)
    have hne : text ≠ [] := fun h => hvacant (Or.inr (congrArg some h))
    rw [column?_of_ne_nil hne]
    cases hread : readUnsigned? text with
    | none => simp [hvacant, Holds, readUnsigned?_eq_none_iff.mp hread]
    | some n =>
      have hnumeral : ∀ m, Numeral text m ↔ n = m := fun m => by
        rw [← readUnsigned?_eq_some_iff, hread, Option.some.injEq]
      simp [hvacant, Holds, hnumeral, eq_comm]

/-- Which fields are not read. -/
lemma column?_eq_error_iff : column? c field = .error defect ↔
    ∃ text, Unreadable field text ∧ defect = .notUnsigned c text := by
  by_cases hvacant : Vacant field
  · rw [column?_of_vacant hvacant]
    rcases hvacant with rfl | rfl <;> simp [Unreadable]
  · obtain ⟨text, rfl⟩ := Option.ne_none_iff_exists'.mp fun h => hvacant (Or.inl h)
    have hne : text ≠ [] := fun h => hvacant (Or.inr (congrArg some h))
    rw [column?_of_ne_nil hne]
    cases hread : readUnsigned? text with
    | none => simp [Unreadable, hne, readUnsigned?_eq_none_iff.mp hread, eq_comm]
    | some n =>
      refine iff_of_false nofun ?_
      rintro ⟨text', ⟨heq, -, hnot⟩, -⟩
      obtain rfl := Option.some.inj heq
      exact hnot n (readUnsigned?_eq_some_iff.mp hread)

lemma column_eq_ok_iff : column c field = .ok n ↔ Holds field n := by
  rw [column, bind_eq_ok]
  simp only [column?_eq_ok_iff]
  constructor
  · rintro ⟨word, ⟨-, rfl⟩ | ⟨m, hm, rfl⟩, hword⟩
    · cases hword
    · exact Except.ok.inj hword ▸ hm
  · exact fun h => ⟨some n, Or.inr ⟨n, h, rfl⟩, rfl⟩

lemma column_eq_error_iff : column c field = .error defect ↔ Faulty c field defect := by
  rw [column, bind_eq_error]
  simp only [column?_eq_ok_iff, column?_eq_error_iff]
  constructor
  · rintro (⟨text, htext, rfl⟩ | ⟨word, ⟨hvacant, rfl⟩ | ⟨m, -, rfl⟩, hword⟩)
    · exact .notUnsigned htext
    · exact Except.error.inj hword ▸ .missing hvacant
    · cases hword
  · rintro (hvacant | @⟨text, htext⟩)
    · exact Or.inr ⟨none, Or.inl ⟨hvacant, rfl⟩, rfl⟩
    · exact Or.inl ⟨text, htext, rfl⟩

/-! ## Lines -/

/-- A line is read if its fields stand for a request. -/
lemma parseLine_eq_ok_iff (hfields : Fields line fields) :
    parseLine line = .ok r ↔ StandFor fields r := by
  rw [parseLine, ← fields_iff.mp hfields]
  simp only [bind_eq_ok, column_eq_ok_iff, column?_eq_ok_iff, Except.ok.injEq]
  constructor
  · rintro ⟨time, htime, id, hid, word, ⟨hvacant, rfl⟩ | ⟨size, hsize, rfl⟩, rfl⟩
    · exact ⟨htime, hid, Or.inl ⟨hvacant, rfl⟩⟩
    · exact ⟨htime, hid, Or.inr hsize⟩
  · obtain ⟨time, id, size⟩ := r
    rintro ⟨htime, hid, ⟨hvacant, rfl⟩ | hsize⟩
    · exact ⟨time, htime, id, hid, none, Or.inl ⟨hvacant, rfl⟩, rfl⟩
    · exact ⟨time, htime, id, hid, some size, Or.inr ⟨size, hsize, rfl⟩, rfl⟩

/-- Otherwise the first defect is told. -/
lemma parseLine_eq_error_iff (hfields : Fields line fields) :
    parseLine line = .error defect ↔ FirstDefect fields defect := by
  rw [parseLine, ← fields_iff.mp hfields]
  simp only [bind_eq_error, column_eq_ok_iff, column_eq_error_iff, column?_eq_error_iff]
  constructor
  · rintro (htime | ⟨time, htime, hid | ⟨id, hid, ⟨text, hsize, rfl⟩ | ⟨word, -, hok⟩⟩⟩)
    · exact .time htime
    · exact .id htime hid
    · exact .size htime hid hsize
    · cases hok
  · rintro (htime | ⟨htime, hid⟩ | ⟨htime, hid, hsize⟩)
    · exact Or.inl htime
    · exact Or.inr ⟨_, htime, Or.inl hid⟩
    · exact Or.inr ⟨_, htime, Or.inr ⟨_, hid, Or.inl ⟨_, hsize, rfl⟩⟩⟩

/-- **A line is read by its grammar.**  Every line has fields, and only one list of them.  It is read
as a request exactly if its fields stand for that request, and it is refused with a defect exactly
if that is its first one; there is no third outcome. -/
theorem lines_by_grammar (line : List Char) :
    ∃ fields, (∀ fields', Fields line fields' ↔ fields' = fields) ∧
      (∀ r, parseLine line = .ok r ↔ StandFor fields r) ∧
      (∀ defect, parseLine line = .error defect ↔ FirstDefect fields defect) := by
  have hfields : Fields line ((pieces ',' line).map trim) := fields_iff.mpr rfl
  exact ⟨_, fun _ => fields_iff, fun _ => parseLine_eq_ok_iff hfields,
    fun _ => parseLine_eq_error_iff hfields⟩

/-- A sign, white space and an empty size are read, and a field after it is not looked at. -/
example : parseLine " +007 ,\t2, ,x".toList = .ok ⟨7, 2, 1⟩ := by decide

end CacheSim.Trace.Csv
