import CacheSim.Proofs.Runs
import CacheSim.Proofs.Trace.Iteration

/-!
# Binary traces, both ways

A request has a record if its time and its size take no more than four bytes each.  Writing the
records of requests and reading them back gives the same requests; reading any bytes and writing
the requests again gives the same bytes, apart from the position of the next request, which a
record holds and a request does not.

* `Record.encodeAll_eq_ok`, `Record.encodeAll_eq_error`: when requests have records, and which of
  them is blamed if they have not;
* `Record.decode_bytesOf`, `Record.bytesOf_decode`: one record, both ways;
* `Record.records_both_ways`: all records, both ways, and what is left over at the end.
-/

namespace CacheSim.Trace.Record

variable {number k : Nat} {r : Request} {requests : List Request} {bytes record : List UInt8}
variable {records : List (List UInt8)} {e : Overflow}

/-! ## Which requests have records -/

/-- The time and the size of a request take no more than four bytes each. -/
def Fits (r : Request) : Prop :=
  r.time.toNat < 2 ^ 32 ∧ r.size.toNat < 2 ^ 32

/-- A field that takes more than four bytes, and its value.  The time is looked at first. -/
inductive Overflows (r : Request) : String → UInt64 → Prop where
  | time : 2 ^ 32 ≤ r.time.toNat → Overflows r "clock_time" r.time
  | size : r.time.toNat < 2 ^ 32 → 2 ^ 32 ≤ r.size.toNat → Overflows r "obj_size" r.size

/-- The record of a request that has one. -/
def bytesOf (r : Request) : List UInt8 :=
  LittleEndian.ofNat 4 r.time.toNat ++ LittleEndian.ofNat 8 r.id.toNat ++
    LittleEndian.ofNat 4 r.size.toNat ++ List.replicate 8 0xFF

lemma length_bytesOf (r : Request) : (bytesOf r).length = length := by
  simp [bytesOf, LittleEndian.length_ofNat, length]

lemma encodeShort_eq_ok {field : String} {value : UInt64} :
    encodeShort number field value = .ok bytes ↔
      value.toNat < 2 ^ 32 ∧ bytes = LittleEndian.ofNat 4 value.toNat := by
  rw [encodeShort]
  have hsize : UInt32.size = 2 ^ 32 := rfl
  split
  · next h => simp [← hsize, h, eq_comm]
  · next h => simp [← hsize, h]

lemma encodeShort_eq_error {field : String} {value : UInt64} :
    encodeShort number field value = .error e ↔
      2 ^ 32 ≤ value.toNat ∧ e = ⟨number, field, value⟩ := by
  rw [encodeShort]
  have hsize : UInt32.size = 2 ^ 32 := rfl
  split
  · next h =>
    rw [hsize] at h
    constructor
    · intro hnever
      simp at hnever
    · rintro ⟨hle, -⟩
      omega
  · next h =>
    rw [hsize, Nat.not_lt] at h
    rw [Except.error.injEq, eq_comm]
    exact ⟨fun he => ⟨h, he⟩, fun he => he.2⟩

lemma encode_eq_ok : encode number r = .ok bytes ↔ Fits r ∧ bytes = bytesOf r := by
  simp only [encode, bind_eq_ok, encodeShort_eq_ok, Except.ok.injEq]
  constructor
  · rintro ⟨time, ⟨htime, rfl⟩, size, ⟨hsize, rfl⟩, rfl⟩
    exact ⟨⟨htime, hsize⟩, rfl⟩
  · rintro ⟨⟨htime, hsize⟩, rfl⟩
    exact ⟨_, ⟨htime, rfl⟩, _, ⟨hsize, rfl⟩, rfl⟩

lemma encode_eq_error :
    encode number r = .error e ↔ Overflows r e.field e.value ∧ e.record = number := by
  obtain ⟨record, field, value⟩ := e
  simp only [encode, bind_eq_error, encodeShort_eq_ok, encodeShort_eq_error, Overflow.mk.injEq]
  constructor
  · rintro (⟨htime, rfl, rfl, rfl⟩ | ⟨_, ⟨htime, -⟩, ⟨hsize, rfl, rfl, rfl⟩ | ⟨_, -, hnever⟩⟩)
    · exact ⟨.time htime, rfl⟩
    · exact ⟨.size htime hsize, rfl⟩
    · simp at hnever
  · rintro ⟨htime | ⟨htime, hsize⟩, rfl⟩
    · exact Or.inl ⟨htime, rfl, rfl, rfl⟩
    · exact Or.inr ⟨_, ⟨htime, rfl⟩, Or.inl ⟨hsize, rfl, rfl, rfl⟩⟩

lemma mapM_encode_eq_ok :
    (requests.zipIdx k).mapM (fun (r, i) => encode (i + 1) r) = .ok records ↔
      (∀ r ∈ requests, Fits r) ∧ records = requests.map bytesOf := by
  induction requests generalizing k records with
  | nil => simp [pure, Except.pure, eq_comm]
  | cons r requests ih =>
    simp only [List.zipIdx_cons, List.mapM_cons, bind_eq_ok, encode_eq_ok, ih, List.forall_mem_cons,
      List.map_cons, pure, Except.pure, Except.ok.injEq]
    constructor
    · rintro ⟨_, ⟨hr, rfl⟩, _, ⟨hrequests, rfl⟩, rfl⟩
      exact ⟨⟨hr, hrequests⟩, rfl⟩
    · rintro ⟨⟨hr, hrequests⟩, rfl⟩
      exact ⟨_, ⟨hr, rfl⟩, _, ⟨hrequests, rfl⟩, rfl⟩

/-- The first request that does not fit is blamed. -/
lemma mapM_encode_eq_error :
    (requests.zipIdx k).mapM (fun (r, i) => encode (i + 1) r) = .error e ↔
      ∃ before r after, requests = before ++ r :: after ∧ (∀ q ∈ before, Fits q) ∧
        Overflows r e.field e.value ∧ e.record = k + before.length + 1 := by
  induction requests generalizing k with
  | nil => simp [pure, Except.pure]
  | cons r requests ih =>
    simp only [List.zipIdx_cons, List.mapM_cons, bind_eq_error, encode_eq_ok, encode_eq_error, ih]
    constructor
    · rintro (⟨hover, hrecord⟩ | ⟨_, ⟨hr, -⟩, ⟨before, r', after, rfl, hbefore, hover, hrecord⟩ |
        ⟨_, -, hnever⟩⟩)
      · exact ⟨[], r, requests, rfl, by simp, hover, hrecord⟩
      · refine ⟨r :: before, r', after, rfl, List.forall_mem_cons.mpr ⟨hr, hbefore⟩, hover, ?_⟩
        rw [hrecord, List.length_cons]
        omega
      · simp [pure, Except.pure] at hnever
    · rintro ⟨before, r', after, heq, hbefore, hover, hrecord⟩
      cases before with
      | nil =>
        obtain ⟨rfl, rfl⟩ := List.cons.inj heq
        exact Or.inl ⟨hover, hrecord⟩
      | cons q before =>
        obtain ⟨rfl, rfl⟩ := List.cons.inj heq
        obtain ⟨hr, hbefore⟩ := List.forall_mem_cons.mp hbefore
        refine Or.inr ⟨_, ⟨hr, rfl⟩, Or.inl ⟨before, r', after, rfl, hbefore, hover, ?_⟩⟩
        rw [hrecord, List.length_cons]
        omega

lemma encodeAll_eq_ok : encodeAll requests = .ok bytes ↔
    (∀ r ∈ requests, Fits r) ∧ bytes = (requests.map bytesOf).flatten := by
  simp only [encodeAll, bind_eq_ok, mapM_encode_eq_ok, Except.ok.injEq]
  constructor
  · rintro ⟨_, ⟨hfits, rfl⟩, rfl⟩
    exact ⟨hfits, rfl⟩
  · rintro ⟨hfits, rfl⟩
    exact ⟨_, ⟨hfits, rfl⟩, rfl⟩

/-- The first request that does not fit is blamed. -/
lemma encodeAll_eq_error : encodeAll requests = .error e ↔
    ∃ before r after, requests = before ++ r :: after ∧ (∀ q ∈ before, Fits q) ∧
      Overflows r e.field e.value ∧ e.record = before.length + 1 := by
  simp only [encodeAll, bind_eq_error, mapM_encode_eq_error, Nat.zero_add]
  constructor
  · rintro (hfirst | ⟨_, -, hnever⟩)
    · exact hfirst
    · simp at hnever
  · exact Or.inl

/-! ## One record -/

lemma toNat_ofNat_toNat {n : Nat} (h : bytes.length ≤ n) (hn : n ≤ 8) :
    (UInt64.ofNat (LittleEndian.toNat bytes)).toNat = LittleEndian.toNat bytes := by
  have hlt := LittleEndian.toNat_lt bytes
  have hle : Nat.pow 256 bytes.length ≤ Nat.pow 256 8 :=
    Nat.pow_le_pow_right (by decide) (Nat.le_trans h hn)
  exact UInt64.toNat_ofNat_of_lt' (Nat.lt_of_lt_of_le hlt hle)

/-- A word that fits into a field is read back from it. -/
lemma ofNat_toNat_ofNat {width : Nat} {x : UInt64} (h : x.toNat < Nat.pow 256 width) :
    UInt64.ofNat (LittleEndian.toNat (LittleEndian.ofNat width x.toNat)) = x := by
  rw [LittleEndian.toNat_ofNat, Nat.mod_eq_of_lt h, UInt64.ofNat_toNat]

lemma decode_bytesOf (h : Fits r) : decode (bytesOf r) = r := by
  have htime : (bytesOf r).take 4 = LittleEndian.ofNat 4 r.time.toNat := by
    rw [bytesOf, List.append_assoc, List.append_assoc,
      List.take_left' (LittleEndian.length_ofNat _ _)]
  have hid : ((bytesOf r).drop 4).take 8 = LittleEndian.ofNat 8 r.id.toNat := by
    rw [bytesOf, List.append_assoc, List.append_assoc,
      List.drop_left' (LittleEndian.length_ofNat _ _),
      List.take_left' (LittleEndian.length_ofNat _ _)]
  have hsize : ((bytesOf r).drop 12).take 4 = LittleEndian.ofNat 4 r.size.toNat := by
    have hfront : (LittleEndian.ofNat 4 r.time.toNat ++ LittleEndian.ofNat 8 r.id.toNat).length =
        12 := by
      rw [List.length_append, LittleEndian.length_ofNat, LittleEndian.length_ofNat]
    rw [bytesOf, List.append_assoc, List.drop_left' hfront,
      List.take_left' (LittleEndian.length_ofNat _ _)]
  rw [decode, htime, hid, hsize, ofNat_toNat_ofNat h.1, ofNat_toNat_ofNat r.id.toNat_lt,
    ofNat_toNat_ofNat h.2]

lemma fits_decode (record : List UInt8) : Fits (decode record) := by
  have hbound : ∀ n : Nat, (UInt64.ofNat
      (LittleEndian.toNat ((record.drop n).take 4))).toNat < 2 ^ 32 := by
    intro n
    have hle : ((record.drop n).take 4).length ≤ 4 := List.length_take_le _ _
    rw [toNat_ofNat_toNat hle (by decide)]
    exact Nat.lt_of_lt_of_le (LittleEndian.toNat_lt _)
      (Nat.pow_le_pow_right (by decide : 0 < 256) hle)
  exact ⟨hbound 0, hbound 12⟩

/-- Bytes with minus one in place of every position of a next request. -/
def withoutNext (bytes : List UInt8) : List UInt8 :=
  bytes.mapIdx fun i b => if i % length < 16 then b else 0xFF

lemma withoutNext_append (h : record.length = length) (bytes : List UInt8) :
    withoutNext (record ++ bytes) = withoutNext record ++ withoutNext bytes := by
  simp [withoutNext, List.mapIdx_append, h]

lemma withoutNext_record (h : record.length = length) :
    withoutNext record = record.take 16 ++ List.replicate 8 0xFF := by
  have hlength : record.length = 24 := h
  refine List.ext_getElem (by simp [withoutNext, hlength]) fun i hi hi' => ?_
  have hlt : i < 24 := by simpa [withoutNext, hlength] using hi
  have hmod : i % length = i := Nat.mod_eq_of_lt hlt
  by_cases hkept : i < 16
  · have htake : i < (record.take 16).length := by
      rw [List.length_take]
      omega
    rw [List.getElem_append_left htake, List.getElem_take]
    simp [withoutNext, hmod, hkept]
  · have htake : (record.take 16).length ≤ i := by
      rw [List.length_take]
      omega
    rw [List.getElem_append_right htake, List.getElem_replicate]
    simp [withoutNext, hmod, hkept]

/-- A field of a record is what is written for its value. -/
lemma ofNat_field (h : record.length = length) (n : Nat) {width : Nat} (hwidth : width ≤ 8)
    (hend : n + width ≤ length) :
    LittleEndian.ofNat width
      (UInt64.ofNat (LittleEndian.toNat ((record.drop n).take width))).toNat =
        (record.drop n).take width := by
  have hfield : ((record.drop n).take width).length = width := by
    rw [List.length_take, List.length_drop, h]
    omega
  have hbytes := LittleEndian.ofNat_toNat ((record.drop n).take width)
  rw [hfield] at hbytes
  rw [toNat_ofNat_toNat (Nat.le_of_eq hfield) hwidth, hbytes]

lemma bytesOf_decode (h : record.length = length) :
    bytesOf (decode record) = withoutNext record := by
  have htime := ofNat_field h 0 (by decide : 4 ≤ 8) (by decide)
  have hid := ofNat_field h 4 (by decide : 8 ≤ 8) (by decide)
  have hsize := ofNat_field h 12 (by decide : 4 ≤ 8) (by decide)
  rw [List.drop_zero] at htime
  have hfields : record.take 16 =
      record.take 4 ++ (record.drop 4).take 8 ++ (record.drop 12).take 4 := by
    rw [List.append_assoc, ← List.drop_drop (i := 8) (j := 4), ← List.take_add, ← List.take_add]
  rw [withoutNext_record h, hfields, bytesOf, decode]
  simp only [htime, hid, hsize]

/-! ## All records -/

/-- The records that are written are the chunks that are read. -/
lemma chunks_bytesOf (requests : List Request) :
    Text.chunks length (requests.map bytesOf).flatten = (requests.map bytesOf, []) := by
  induction requests with
  | nil => rfl
  | cons r requests ih =>
    rw [List.map_cons, List.flatten_cons,
      Text.chunks_append (by decide) (length_bytesOf r), ih]

lemma bytesOf_decode_chunks (h : ∀ record ∈ records, record.length = length) :
    ((records.map decode).map bytesOf).flatten = withoutNext records.flatten := by
  induction records with
  | nil => rfl
  | cons record records ih =>
    obtain ⟨hrecord, hrecords⟩ := List.forall_mem_cons.mp h
    rw [List.map_cons, List.map_cons, List.flatten_cons, List.flatten_cons,
      withoutNext_append hrecord, bytesOf_decode hrecord, ih hrecords]

/-- How bytes divide into records. -/
lemma chunks_records (bytes : List UInt8) :
    (Text.chunks length bytes).1.length = bytes.length / 24 ∧
      (Text.chunks length bytes).2.length = bytes.length % 24 ∧
      (Text.chunks length bytes).1.flatten = bytes.take (24 * (bytes.length / 24)) := by
  have hpos : 0 < length := by decide
  have hlength := Text.length_chunks hpos bytes
  have hlt := Text.length_rest_chunks_lt hpos bytes
  rw [show length = 24 from rfl] at hlength hlt ⊢
  have hnumber : (Text.chunks 24 bytes).1.length = bytes.length / 24 := by omega
  have hrest : (Text.chunks 24 bytes).2.length = bytes.length % 24 := by omega
  refine ⟨hnumber, hrest, ?_⟩
  have hflat : (Text.chunks 24 bytes).1.flatten ++ (Text.chunks 24 bytes).2 = bytes :=
    Text.flatten_chunks hpos bytes
  have hwhole := congrArg List.length hflat
  rw [List.length_append] at hwhole
  have htake : ((Text.chunks 24 bytes).1.flatten ++ (Text.chunks 24 bytes).2).take
      (24 * (bytes.length / 24)) = (Text.chunks 24 bytes).1.flatten :=
    List.take_left' (by omega)
  rw [← htake, hflat]

/-- Without a sample every item is kept. -/
lemma read_oracleGeneral (bytes : List UInt8) : read .oracleGeneral {} bytes = items bytes :=
  List.filter_eq_self.mpr fun item _ => by cases item <;> rfl

/-- **Binary traces, both ways.**  Requests can be written exactly if every one of them fits.  Then
each takes 24 bytes, and reading these to the end gives the requests again.  Otherwise the first
request that does not fit is blamed, by its number counted from one, with its first field that is
too wide.

Any bytes are read as one request for every 24 of them and, if bytes are left over, one error that
gives the number of the record that has been begun and how many bytes there are of it.  The
requests can be written again, which gives the bytes of the whole records, except that each next
position is now minus one. -/
theorem records_both_ways :
    (∀ requests, ((∃ bytes, encodeAll requests = .ok bytes) ↔ ∀ r ∈ requests, Fits r) ∧
      (∀ bytes, encodeAll requests = .ok bytes → bytes.length = 24 * requests.length ∧
        Cursor.toList { format := .oracleGeneral, options := {}, rest := bytes } =
          requests.map .ok) ∧
      ∀ e, encodeAll requests = .error e ↔
        ∃ before r after, requests = before ++ r :: after ∧ (∀ q ∈ before, Fits q) ∧
          Overflows r e.field e.value ∧ e.record = before.length + 1) ∧
    ∀ bytes, ∃ requests : List Request, requests.length = bytes.length / 24 ∧
      Cursor.toList { format := .oracleGeneral, options := {}, rest := bytes } =
        requests.map .ok ++
          (if bytes.length % 24 = 0 then []
          else [.error (.truncated (bytes.length / 24 + 1) (bytes.length % 24))]) ∧
      encodeAll requests = .ok (withoutNext (bytes.take (24 * (bytes.length / 24)))) := by
  refine ⟨fun requests => ⟨?_, fun bytes hbytes => ?_, fun e => encodeAll_eq_error⟩,
    fun bytes => ?_⟩
  · constructor
    · rintro ⟨bytes, hbytes⟩
      exact (encodeAll_eq_ok.mp hbytes).1
    · intro hfits
      exact ⟨_, encodeAll_eq_ok.mpr ⟨hfits, rfl⟩⟩
  · obtain ⟨hfits, rfl⟩ := encodeAll_eq_ok.mp hbytes
    have hchunks := chunks_bytesOf requests
    have hlength := Text.length_chunks (by decide : 0 < length) (requests.map bytesOf).flatten
    rw [hchunks, List.length_map, List.length_nil, Nat.add_zero] at hlength
    refine ⟨hlength.symm, ?_⟩
    have hback : (requests.map bytesOf).map decode = requests := by
      rw [List.map_map]
      exact (List.map_congr_left fun r hr => decode_bytesOf (hfits r hr)).trans (List.map_id _)
    rw [Cursor.toList_start, read_oracleGeneral, items, hchunks]
    change (requests.map bytesOf).map (Except.ok ∘ decode) = requests.map Except.ok
    rw [← List.map_map, hback]
  · obtain ⟨hnumber, hrest, hflat⟩ := chunks_records bytes
    refine ⟨(Text.chunks length bytes).1.map decode, ?_, ?_, ?_⟩
    · rw [List.length_map, hnumber]
    · rw [Cursor.toList_start, read_oracleGeneral, items]
      simp only [← List.length_eq_zero_iff, List.isEmpty_iff, hnumber, hrest, List.map_map]
      split <;> simp [Function.comp_def]
    · refine encodeAll_eq_ok.mpr ⟨?_, ?_⟩
      · intro r hr
        obtain ⟨record, -, rfl⟩ := List.mem_map.mp hr
        exact fits_decode record
      · rw [← hflat, bytesOf_decode_chunks (Text.length_of_mem_chunks (by decide) bytes)]

/-- A request whose time takes all of its four bytes is read back, and one that takes more than
four bytes for each field is blamed for its time, though it stands behind one that fits. -/
theorem widest_request_read_back :
    Cursor.toList { format := .oracleGeneral, options := {}, rest := bytesOf ⟨0xFFFFFFFF, 7, 1⟩ } =
        [.ok ⟨0xFFFFFFFF, 7, 1⟩] ∧
      encodeAll [⟨0xFFFFFFFF, 7, 1⟩, ⟨0x100000000, 7, 0x100000000⟩] =
        .error ⟨2, "clock_time", 0x100000000⟩ := by
  have hwritten : encodeAll [⟨0xFFFFFFFF, 7, 1⟩] = .ok (bytesOf ⟨0xFFFFFFFF, 7, 1⟩) := by decide
  have hfits : ∀ q ∈ [(⟨0xFFFFFFFF, 7, 1⟩ : Request)], Fits q := by
    rintro q (_ | ⟨_, ⟨⟩⟩)
    exact ⟨by decide, by decide⟩
  refine ⟨((records_both_ways.1 _).2.1 _ hwritten).2, ((records_both_ways.1 _).2.2 _).mpr ?_⟩
  exact ⟨[_], _, [], rfl, hfits, .time (by decide), rfl⟩

end CacheSim.Trace.Record
