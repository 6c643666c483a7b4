import CacheSim.Proofs.Runs
import CacheSim.Proofs.Text.Utf8
import CacheSim.Proofs.Trace.Iteration

/-!
# Options thin a trace out

A reader that skips malformed lines is in another state than a strict one after a line that is not
text: the data has begun for it, and a heading that follows is one more malformed line.  This makes
no difference to what is read.  Whether the data has begun decides only if a line is left out as a
heading or is malformed, and the skipping reader gives nothing for it either way.

* `Csv.item?_skipping`: one line, read by readers of whatever states;
* `Csv.account_skipping`: all lines;
* `options_thin_out`: all items of a trace, in both formats and with a sample.
-/

namespace CacheSim.Trace

/-- Whether an item tells of a malformed line. -/
def isMalformed : Item → Bool
  | .error (.malformed _ _) => true
  | _ => false

/-- Whether an item is a request for an object. -/
def asksFor (id : UInt64) : Item → Bool
  | .ok r => r.id == id
  | .error _ => false

/-- Whether the options let an item through. -/
def ReadOptions.lets (options : ReadOptions) (item : Item) : Bool :=
  isKept options.sample item && !(options.skipMalformed && isMalformed item)

/-! ## Lines and records -/

namespace Csv

/-- A line is skipped exactly if a strict reader finds it malformed or leaves it out, wherever the
data begins for either of them. -/
lemma item?_skipping (line : Line) (number : Nat) (isFirst isFirst' : Bool) :
    line.item? true number isFirst' =
      (line.item? false number isFirst).filter fun item => !isMalformed item := by
  cases line with
  | skipped => rfl
  | notText e => rfl
  | data text =>
    simp only [Line.item?]
    cases parseLine text with
    | ok request => rfl
    | error defect =>
      cases isFirst' && isHeader text <;> cases isFirst && isHeader text <;> rfl

lemma toList_filter_option {α : Type} (p : α → Bool) (o : Option α) :
    (o.filter p).toList = o.toList.filter p := by
  cases o with
  | none => rfl
  | some a => cases h : p a <;> simp [Option.filter, h]

/-- The two readers need not agree on whether the data has begun. -/
lemma account_skipping (number : Nat) (hasBegun hasBegun' : Bool) (lines : List Line) :
    account true number hasBegun' lines =
      (account false number hasBegun lines).filter fun item => !isMalformed item := by
  induction lines generalizing number hasBegun hasBegun' with
  | nil => rfl
  | cons line lines ih =>
    rw [account, account, List.filter_append, ← toList_filter_option,
      item?_skipping line number (!hasBegun) (!hasBegun'),
      ih (number + 1) (hasBegun || line.beginsData false)]

lemma items_skipping (bytes : List UInt8) :
    items true bytes = (items false bytes).filter fun item => !isMalformed item := by
  rw [← account_eq_items, ← account_eq_items, account_skipping 1 false false]

end Csv

/-- No record is malformed. -/
lemma isMalformed_of_mem_records {bytes : List UInt8} {item : Item}
    (h : item ∈ Record.items bytes) : isMalformed item = false := by
  rw [Record.items] at h
  dsimp only at h
  split at h
  · obtain ⟨record, -, rfl⟩ := List.mem_map.mp h
    rfl
  · rcases List.mem_append.mp h with h | h
    · obtain ⟨record, -, rfl⟩ := List.mem_map.mp h
      rfl
    · obtain rfl := List.mem_singleton.mp h
      rfl

/-! ## Items -/

/-- Without a sample every item is kept. -/
lemma isKept_none (item : Item) : isKept none item = true := by
  cases item <;> rfl

/-- Reading with options is reading without, and then leaving out what they do not let through. -/
lemma read_eq_filter (format : Format) (options : ReadOptions) (bytes : List UInt8) :
    read format options bytes = (read format {} bytes).filter options.lets := by
  obtain ⟨skipMalformed, sample⟩ := options
  have hstrict : ∀ items : List Item, items.filter (isKept none) = items := fun items =>
    List.filter_eq_self.mpr fun item _ => isKept_none item
  have hlets : ∀ items : List Item,
      (items.filter fun item => !(skipMalformed && isMalformed item)).filter (isKept sample) =
        items.filter (ReadOptions.lets ⟨skipMalformed, sample⟩) := by
    intro items
    rw [List.filter_filter]
    rfl
  cases format with
  | csv =>
    change (Csv.items skipMalformed bytes).filter (isKept sample) =
      ((Csv.items false bytes).filter (isKept none)).filter _
    rw [hstrict, ← hlets]
    congr 1
    cases skipMalformed with
    | false => exact (List.filter_eq_self.mpr fun _ _ => rfl).symm
    | true => exact Csv.items_skipping bytes
  | oracleGeneral =>
    change (Record.items bytes).filter (isKept sample) =
      ((Record.items bytes).filter (isKept none)).filter _
    rw [hstrict, ← hlets]
    congr 1
    refine (List.filter_eq_self.mpr fun item hitem => ?_).symm
    rw [isMalformed_of_mem_records hitem, Bool.and_false]
    rfl

/-- The requests can be collected exactly if the items are nothing but requests. -/
lemma requests_eq_ok {items : List Item} {rs : List Request} :
    requests items = .ok rs ↔ items = rs.map .ok := by
  induction items generalizing rs with
  | nil =>
    change (Except.ok [] : Except Error (List Request)) = .ok rs ↔ _
    cases rs <;> simp
  | cons item items ih =>
    have hcons : requests (item :: items) =
        item >>= fun r => requests items >>= fun rs => .ok (r :: rs) := List.mapM_cons
    simp only [hcons, bind_eq_ok, ih, Except.ok.injEq]
    constructor
    · rintro ⟨r, rfl, rs, rfl, rfl⟩
      rfl
    · intro h
      cases rs with
      | nil => cases h
      | cons r rs =>
        obtain ⟨rfl, rfl⟩ := List.cons.inj h
        exact ⟨r, rfl, rs, rfl, rfl⟩

lemma isKept_ok (sample : Option Sample) (r : Request) :
    isKept sample (.ok r) = sample.all fun s => s.keeps r.id := by
  cases sample with
  | none => rfl
  | some s =>
    rw [Option.all_some]
    rfl

/-- A request is let through exactly if its object is in the sample. -/
lemma lets_ok (options : ReadOptions) (r : Request) :
    options.lets (.ok r) = options.sample.all fun s => s.keeps r.id := by
  have hwell : isMalformed (.ok r) = false := rfl
  rw [ReadOptions.lets, isKept_ok, hwell, Bool.and_false, Bool.not_false, Bool.and_true]

/-- A sample keeps the requests for an object all or not at all. -/
lemma filter_asksFor (options : ReadOptions) (id : UInt64) (items : List Item) :
    (items.filter options.lets).filter (asksFor id) =
      if options.sample.all (·.keeps id) then items.filter (asksFor id) else [] := by
  have hlets : ∀ item, asksFor id item = true →
      options.lets item = options.sample.all (·.keeps id) := by
    intro item hasks
    cases item with
    | error e => exact absurd hasks Bool.false_ne_true
    | ok r => rw [lets_ok, ← show r.id = id from beq_iff_eq.mp hasks]
  rw [List.filter_filter]
  split
  · next hkept =>
    refine List.filter_congr fun item _ => ?_
    cases hasks : asksFor id item with
    | false => rfl
    | true => rw [hlets item hasks, hkept, Bool.and_true]
  · next hkept =>
    refine List.filter_eq_nil_iff.mpr fun item _ hitem => ?_
    obtain ⟨hasks, hlet⟩ := Bool.and_eq_true_iff.mp hitem
    rw [hlets item hasks] at hlet
    exact hkept hlet

/-- **Options are filters.**  Asking a reader for items to the end of a trace gives what a strict
reader without a sample gives, in the same order and with the same numbers of lines and records,
but for the malformed lines if these are skipped and the requests for objects that are not in the
sample if there is one.

So the requests for an object are kept all or not at all.  And where the strict reader finds nothing
but requests, skipping malformed lines gives the same requests, of which a sample keeps those for
its objects. -/
theorem options_thin_out (format : Format) (options : ReadOptions) (bytes : List UInt8) :
    Cursor.toList { format := format, options := options, rest := bytes } =
        (Cursor.toList { format := format, options := {}, rest := bytes }).filter options.lets ∧
      (∀ id, (Cursor.toList { format := format, options := options, rest := bytes }).filter
          (asksFor id) =
        if options.sample.all (·.keeps id) then
          (Cursor.toList { format := format, options := {}, rest := bytes }).filter (asksFor id)
        else []) ∧
      ∀ rs, requests (Cursor.toList { format := format, options := {}, rest := bytes }) = .ok rs →
        requests (Cursor.toList
          { format := format, options := { skipMalformed := true }, rest := bytes }) = .ok rs ∧
        requests (Cursor.toList { format := format, options := options, rest := bytes }) =
          .ok (rs.filter fun r => options.sample.all (·.keeps r.id)) := by
  simp only [Cursor.toList_start, read_eq_filter format options bytes,
    read_eq_filter format { skipMalformed := true } bytes, true_and]
  refine ⟨fun id => filter_asksFor options id _, fun rs hrs => ?_⟩
  rw [requests_eq_ok] at hrs
  rw [hrs, requests_eq_ok, requests_eq_ok, List.filter_map, List.filter_map]
  constructor
  · congr 1
    exact List.filter_eq_self.mpr fun r _ => rfl
  · congr 1
    exact List.filter_congr fun r _ => lets_ok options r

/-- The heading of this listing is skipped, and object 11 is not in the sample. -/
theorem options_thin_out_listing :
    let bytes := Text.encodeUtf8 "time,obj_id,obj_size\n1,10,100\n2,11,200\n3,10,100\n".toList
    requests (Cursor.toList
        { format := .csv, options := { skipMalformed := true }, rest := bytes }) =
      .ok [⟨1, 10, 100⟩, ⟨2, 11, 200⟩, ⟨3, 10, 100⟩] ∧
    requests (Cursor.toList
        { format := .csv
          options := { skipMalformed := true, sample := some ⟨0.5, 0x800000⟩ }
          rest := bytes }) =
      .ok [⟨1, 10, 100⟩, ⟨3, 10, 100⟩] := by
  intro bytes
  have hstrict : requests (Cursor.toList { format := .csv, options := {}, rest := bytes }) =
      .ok [⟨1, 10, 100⟩, ⟨2, 11, 200⟩, ⟨3, 10, 100⟩] := by
    rw [Cursor.toList_start]
    decide +kernel
  obtain ⟨hskipping, hsampled⟩ :=
    (options_thin_out .csv { skipMalformed := true, sample := some ⟨0.5, 0x800000⟩ } bytes).2.2
      _ hstrict
  refine ⟨hskipping, hsampled.trans (congrArg Except.ok ?_)⟩
  decide +kernel

end CacheSim.Trace
