import CacheSim.Proofs.Text.Pieces
import CacheSim.Trace.Cursor

/-!
# A trace is its items

Reading a trace at once and asking a cursor for one item after the other give the same items.  For
text traces the step is a line: `Csv.account` goes through the lines with the number of the line at
hand and with the knowledge whether the data has begun, just as a cursor does.

* `Cursor.toList_of_step`: what one step adds to the items;
* `Csv.account_eq_items`: the first line with data is the only one that can be a header;
* `Cursor.toList_start`: all items, in both formats.
-/

namespace CacheSim.Trace

/-! ## Steps -/

namespace Cursor

variable {c : Cursor}

lemma toList_of_next?_eq_none (h : c.next? = none) : c.toList = [] := by
  rw [toList]
  split
  · rfl
  · next heq => simp [h] at heq

lemma toList_of_next?_eq_some {c' : Cursor} {item : Item} (h : c.next? = some (item, c')) :
    c.toList = item :: c'.toList := by
  rw [toList]
  split
  · next heq => simp [h] at heq
  · next item' c'' heq =>
    rw [h, Option.some.injEq, Prod.mk.injEq] at heq
    obtain ⟨rfl, rfl⟩ := heq
    rfl

lemma toList_of_rest_eq_nil (h : c.rest = []) : c.toList = [] :=
  toList_of_next?_eq_none (by rw [next?, dif_pos h])

/-- A step puts its item, if it has one, in front of those of the cursor behind it. -/
lemma toList_of_step (h : c.rest ≠ []) : c.toList = c.step.1.toList ++ c.step.2.toList := by
  cases hitem : c.step.1 with
  | some item =>
    have hnext : c.next? = some (item, c.step.2) := by
      rw [next?, dif_neg h]
      simp only [hitem]
    exact toList_of_next?_eq_some hnext
  | none =>
    have hnext : c.next? = c.step.2.next? := by
      rw [next?, dif_neg h]
      simp only [hitem]
    rw [Option.toList_none, List.nil_append]
    cases hrest : c.step.2.next? with
    | none => rw [toList_of_next?_eq_none hrest, toList_of_next?_eq_none (hnext.trans hrest)]
    | some found =>
      rw [toList_of_next?_eq_some hrest, toList_of_next?_eq_some (hnext.trans hrest)]

end Cursor

/-! ## Lines -/

/-- The first line that is taken off the bytes is the first of all their lines. -/
lemma lines_of_takeLine {bytes : List UInt8} (h : bytes ≠ []) :
    Text.lines 10 bytes = (takeLine bytes).1 :: Text.lines 10 (takeLine bytes).2 := by
  induction bytes with
  | nil => exact absurd rfl h
  | cons b bytes ih =>
    rw [Text.lines_cons, takeLine]
    by_cases hb : b = 10
    · rw [if_pos hb, if_pos hb]
    · rw [if_neg hb, if_neg hb]
      cases bytes with
      | nil => rfl
      | cons b' bytes =>
        rw [ih (List.cons_ne_nil _ _)]
        rfl

namespace Csv

/-- The items of lines of which the first has the number `number`. -/
def account (skipMalformed : Bool) (number : Nat) (hasBegun : Bool) : List Line → List Item
  | [] => []
  | line :: lines =>
    (line.item? skipMalformed number (!hasBegun)).toList ++
      account skipMalformed (number + 1) (hasBegun || line.beginsData skipMalformed) lines

/-- Only a line where the data can begin can be a header. -/
lemma item?_of_not_beginsData {skipMalformed : Bool} {line : Line} (number : Nat)
    (isFirst isFirst' : Bool) (h : line.beginsData skipMalformed = false) :
    line.item? skipMalformed number isFirst = line.item? skipMalformed number isFirst' := by
  cases line with
  | skipped => rfl
  | notText e => rfl
  | data text => simp [Line.beginsData] at h

lemma filterMap_cons_eq_append {α β : Type} (f : α → Option β) (a : α) (l : List α) :
    (a :: l).filterMap f = (f a).toList ++ l.filterMap f := by
  rw [List.filterMap_cons]
  cases f a <;> rfl

/-- Once the data has begun, no line is a header. -/
lemma account_begun (skipMalformed : Bool) (k : Nat) (lines : List Line) :
    account skipMalformed (k + 1) true lines =
      (lines.zipIdx k).filterMap fun (line, i) => line.item? skipMalformed (i + 1) false := by
  induction lines generalizing k with
  | nil => rfl
  | cons line lines ih =>
    rw [account, List.zipIdx_cons, filterMap_cons_eq_append, Bool.true_or, ih]
    rfl

/-- The first line with data is the only one that can be a header. -/
lemma account_eq_filterMap (skipMalformed : Bool) (k : Nat) (lines : List Line) :
    account skipMalformed (k + 1) false lines =
      (lines.zipIdx k).filterMap fun (line, i) =>
        line.item? skipMalformed (i + 1)
          (i == k + lines.findIdx (Line.beginsData skipMalformed)) := by
  induction lines generalizing k with
  | nil => rfl
  | cons line lines ih =>
    rw [account, List.zipIdx_cons, filterMap_cons_eq_append, Bool.false_or, List.findIdx_cons]
    cases hbegins : line.beginsData skipMalformed with
    | true =>
      rw [account_begun]
      congr 1
      · simp
      · refine List.filterMap_congr fun ⟨line, i⟩ hmem => ?_
        have hle := List.le_snd_of_mem_zipIdx hmem
        dsimp only at hle
        have hne : (i == k) = false := beq_eq_false_iff_ne.mpr (by omega)
        simp [hne]
    | false =>
      have hshift : k + (lines.findIdx (Line.beginsData skipMalformed) + 1) =
          k + 1 + lines.findIdx (Line.beginsData skipMalformed) := by omega
      rw [ih (k + 1), cond_false, hshift]
      congr 2
      exact item?_of_not_beginsData _ _ _ hbegins

lemma account_eq_items (skipMalformed : Bool) (bytes : List UInt8) :
    account skipMalformed 1 false ((Text.lines 10 bytes).map Line.ofBytes) =
      items skipMalformed bytes := by
  rw [account_eq_filterMap, items]
  simp only [Nat.zero_add]

end Csv

/-! ## Runs -/

namespace Cursor

variable {c : Cursor}

/-- A cursor in a text trace gives an account of the lines that are left. -/
lemma toList_csv (hformat : c.format = .csv) :
    c.toList = (Csv.account c.options.skipMalformed (c.position + 1) c.hasBegun
      ((Text.lines 10 c.rest).map Csv.Line.ofBytes)).filter (isKept c.options.sample) := by
  -- the induction is on the lines that are left
  induction hlines : Text.lines 10 c.rest generalizing c with
  | nil =>
    have hrest : c.rest = [] := by rw [← Text.flatten_lines 10 c.rest, hlines, List.flatten_nil]
    rw [toList_of_rest_eq_nil hrest]
    rfl
  | cons line lines ih =>
    have hrest : c.rest ≠ [] := by
      intro hnil
      simp [hnil, Text.lines] at hlines
    rw [lines_of_takeLine hrest, List.cons.injEq] at hlines
    obtain ⟨rfl, hlines⟩ := hlines
    have hstep : c.step = (c.stepLine.1.filter (isKept c.options.sample), c.stepLine.2) := by
      simp only [step, hformat]
    rw [toList_of_step hrest, hstep, ih (c := c.stepLine.2) hformat hlines, List.map_cons,
      Csv.account, List.filter_append]
    congr 1
    simp only [stepLine]
    cases (Csv.Line.ofBytes (takeLine c.rest).1).item? c.options.skipMalformed (c.position + 1)
        (!c.hasBegun) with
    | none => rfl
    | some item => cases hkept : isKept c.options.sample item <;> simp [Option.filter, hkept]

/-- What is left of a binary trace behind `k` records. -/
lemma toList_oracleGeneral (hformat : c.format = .oracleGeneral) :
    c.toList = (((Text.chunks Record.length c.rest).1.map fun record =>
        (.ok (Record.decode record) : Item)) ++
      if (Text.chunks Record.length c.rest).2.isEmpty then []
      else [(.error (.truncated (c.position + (Text.chunks Record.length c.rest).1.length + 1)
        (Text.chunks Record.length c.rest).2.length) : Item)]).filter (isKept c.options.sample) := by
  induction hlength : c.rest.length using Nat.strong_induction_on generalizing c with
  | _ n ih =>
    by_cases hrest : c.rest = []
    · rw [toList_of_rest_eq_nil hrest, hrest]
      rfl
    have hstep : c.step = (c.stepRecord.1.filter (isKept c.options.sample), c.stepRecord.2) := by
      simp only [step, hformat]
    rw [toList_of_step hrest, hstep]
    by_cases hshort : c.rest.length < Record.length
    · have htake : c.rest.take Record.length = c.rest :=
        List.take_of_length_le (Nat.le_of_lt hshort)
      have hdrop : c.stepRecord.2.rest = [] := List.drop_eq_nil_of_le (Nat.le_of_lt hshort)
      rw [toList_of_rest_eq_nil hdrop, Text.chunks_of_lt hshort]
      simp [stepRecord, htake, hshort, hrest, Option.filter, isKept, List.filter_cons]
    · have hfull : (c.rest.take Record.length).length = Record.length := by
        rw [List.length_take]
        omega
      have hless : c.stepRecord.2.rest.length < n := by
        rw [← hlength]
        simpa only [hstep] using length_rest_step hrest
      have hcut := Text.chunks_append (by decide : 0 < Record.length) hfull
        (c.rest.drop Record.length)
      rw [List.take_append_drop] at hcut
      rw [ih _ hless (c := c.stepRecord.2) hformat rfl, hcut]
      simp only [stepRecord, hfull, Nat.lt_irrefl, if_false, List.map_cons, List.length_cons,
        List.cons_append, List.filter_cons]
      have hnumber : ∀ m : Nat, c.position + 1 + m + 1 = c.position + (m + 1) + 1 := by omega
      simp only [hnumber]
      cases hkept : isKept c.options.sample (.ok (Record.decode (c.rest.take Record.length))) <;>
        simp [Option.filter, hkept]

/-- Asking a cursor at the start of a trace for its items gives the items of the trace. -/
theorem toList_start (format : Format) (options : ReadOptions) (bytes : List UInt8) :
    toList { format := format, options := options, rest := bytes } =
      read format options bytes := by
  cases format with
  | csv => rw [toList_csv rfl, read, ← Csv.account_eq_items]
  | oracleGeneral =>
    rw [toList_oracleGeneral rfl, read, Record.items]
    simp only [Nat.zero_add]
    split <;> simp

end Cursor

end CacheSim.Trace
