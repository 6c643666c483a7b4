import CacheSim.Proofs.Text.Unsigned
import CacheSim.Proofs.Text.Utf8
import CacheSim.Proofs.Trace.Iteration

/-!
# Requests that are listed as text

A listing of requests is a text of lines: one for each request, with its three numbers in decimal,
and in between remarks, which are blank lines and comments.  In front of the first request one line
may be a heading.  White space around the numbers means nothing; in particular a carriage return
at the end of every line makes no difference.

* `Csv.account_listing`: what the lines of a listing are read as;
* `Csv.account_joined`: newlines between the lines cut the text into these lines;
* `Csv.items_listing`: a listing is read as the requests that it lists.
-/

namespace CacheSim.Trace.Csv

open Text

/-! ## Listings -/

/-- White space within a line. -/
def IsIndent (cs : List Char) : Prop :=
  IsPadding cs ∧ '\n' ∉ cs

/-- A text that shows a number, with or without white space around it. -/
def Shows (field : List Char) (n : UInt64) : Prop :=
  ∃ left right, IsIndent left ∧ IsIndent right ∧ field = left ++ unsigned n ++ right

/-- Whether a text, apart from white space at its ends, is empty or a comment. -/
def isSilent (text : List Char) : Bool :=
  text.isEmpty || text.head? == some '#'

/-- Lines that list requests; `hasBegun` tells whether no heading can follow. -/
inductive Listing : Bool → List (List Char) → List Request → Prop where
  | nil (hasBegun : Bool) : Listing hasBegun [] []
  | remark {hasBegun line lines requests} (hline : '\n' ∉ line) (hsilent : isSilent (trim line))
      (rest : Listing hasBegun lines requests) : Listing hasBegun (line :: lines) requests
  | heading {line lines requests} (hline : '\n' ∉ line) (hdata : isSilent (trim line) = false)
      (hheader : isHeader (trim line)) (rest : Listing true lines requests) :
      Listing false (line :: lines) requests
  | request {hasBegun time id size lines requests} {r : Request} (htime : Shows time r.time)
      (hid : Shows id r.id) (hsize : Shows size r.size) (rest : Listing true lines requests) :
      Listing hasBegun ((time ++ ',' :: id ++ ',' :: size) :: lines) (r :: requests)

/-- The line of a request, without white space. -/
def lineOf (r : Request) : List Char :=
  unsigned r.time ++ ',' :: unsigned r.id ++ ',' :: unsigned r.size

lemma shows_unsigned (n : UInt64) : Shows (unsigned n) n :=
  ⟨[], [], ⟨by simp [IsPadding], by simp⟩, ⟨by simp [IsPadding], by simp⟩, by simp⟩

/-- Requests can be listed, a line each. -/
lemma listing_lineOf (hasBegun : Bool) (requests : List Request) :
    Listing hasBegun (requests.map lineOf) requests := by
  induction requests generalizing hasBegun with
  | nil => exact .nil hasBegun
  | cons r requests ih =>
    exact .request (shows_unsigned _) (shows_unsigned _) (shows_unsigned _) (ih true)

/-! ## Fields -/

variable {field text time id size line : List Char} {n : UInt64} {r : Request}

lemma not_mem_unsigned {c : Char} (h : isDigit c = false) (n : UInt64) : c ∉ unsigned n := by
  intro hmem
  rw [isDigit_of_mem_unsigned n hmem] at h
  contradiction

lemma not_mem_padding {c : Char} {cs : List Char} (hc : isBlank c = false) (h : IsPadding cs) :
    c ∉ cs := by
  intro hmem
  rw [h c hmem] at hc
  contradiction

lemma newline_not_mem_of_shows (h : Shows field n) : '\n' ∉ field := by
  obtain ⟨left, right, hleft, hright, rfl⟩ := h
  simp only [List.mem_append, not_or]
  exact ⟨⟨hleft.2, not_mem_unsigned (by decide) n⟩, hright.2⟩

lemma comma_not_mem_of_shows (h : Shows field n) : ',' ∉ field := by
  obtain ⟨left, right, hleft, hright, rfl⟩ := h
  simp only [List.mem_append, not_or]
  exact ⟨⟨not_mem_padding (by decide) hleft.1, not_mem_unsigned (by decide) n⟩,
    not_mem_padding (by decide) hright.1⟩

lemma trim_of_shows (h : Shows field n) : trim field = unsigned n := by
  obtain ⟨left, right, hleft, hright, rfl⟩ := h
  exact trim_padded hleft.1 (beginsSolid_unsigned n) (endsSolid_unsigned n) hright.1

lemma column?_unsigned (c : Column) (n : UInt64) :
    column? c (some (unsigned n)) = .ok (some n) := by
  rw [column?.eq_def]
  split
  · next heq => cases heq
  · next heq => exact absurd (Option.some.inj heq) (unsigned_ne_nil n)
  · next field heq =>
    obtain rfl := Option.some.inj heq
    rw [readUnsigned?_unsigned]

lemma column_unsigned (c : Column) (n : UInt64) : column c (some (unsigned n)) = .ok n := by
  rw [column, column?_unsigned]
  rfl

lemma parseLine_of_shows (htime : Shows time r.time) (hid : Shows id r.id)
    (hsize : Shows size r.size) : parseLine (time ++ ',' :: id ++ ',' :: size) = .ok r := by
  have hpieces : (pieces ',' (time ++ ',' :: id ++ ',' :: size)).map trim =
      [unsigned r.time, unsigned r.id, unsigned r.size] := by
    rw [List.append_assoc, List.cons_append, pieces_append (comma_not_mem_of_shows htime),
      pieces_append (comma_not_mem_of_shows hid), pieces_of_not_mem (comma_not_mem_of_shows hsize)]
    simp only [List.map_cons, List.map_nil, trim_of_shows htime, trim_of_shows hid,
      trim_of_shows hsize]
  simp only [parseLine, hpieces, List.getElem?_cons_zero, List.getElem?_cons_succ,
    column_unsigned, column?_unsigned]
  rfl

/-- A line that lists a request still does so if the white space at its ends is taken away, and it
is no comment. -/
lemma trim_request (htime : Shows time r.time) (hid : Shows id r.id) (hsize : Shows size r.size) :
    parseLine (trim (time ++ ',' :: id ++ ',' :: size)) = .ok r ∧
      isSilent (trim (time ++ ',' :: id ++ ',' :: size)) = false := by
  obtain ⟨left, inner, hleft, hinner, rfl⟩ := htime
  obtain ⟨inner', right, hinner', hright, rfl⟩ := hsize
  have hempty : IsIndent [] := ⟨by simp [IsPadding], by simp⟩
  obtain ⟨digit, digits, hdigits⟩ := List.exists_cons_of_ne_nil (unsigned_ne_nil r.time)
  have hdigit : isDigit digit = true :=
    isDigit_of_mem_unsigned r.time (by rw [hdigits]; exact List.mem_cons_self)
  have hends : EndsSolid (unsigned r.time ++ inner ++ ',' :: id ++ ',' :: inner' ++
      unsigned r.size) := by
    intro c hc
    rw [List.getLast?_append_of_ne_nil _ (unsigned_ne_nil r.size)] at hc
    exact endsSolid_unsigned r.size c hc
  have hbegins : BeginsSolid (unsigned r.time ++ inner ++ ',' :: id ++ ',' :: inner' ++
      unsigned r.size) := by
    intro c hc
    rw [hdigits] at hc
    obtain rfl : digit = c := by simpa using hc
    exact isBlank_of_isDigit hdigit
  have htrim := trim_padded hleft.1 hbegins hends hright.1
  have hline : left ++ unsigned r.time ++ inner ++ ',' :: id ++
      ',' :: (inner' ++ unsigned r.size ++ right) =
        left ++ (unsigned r.time ++ inner ++ ',' :: id ++ ',' :: inner' ++ unsigned r.size) ++
          right := by
    simp
  rw [hline, htrim]
  constructor
  · have htime : Shows (unsigned r.time ++ inner) r.time := ⟨[], inner, hempty, hinner, rfl⟩
    have hsize : Shows (inner' ++ unsigned r.size) r.size := ⟨inner', [], hinner', hempty, by simp⟩
    simpa using parseLine_of_shows htime hid hsize
  · have hcomment : digit ≠ '#' := ne_of_isDigit hdigit (by decide)
    simp [isSilent, hdigits, hcomment]

/-! ## Lines -/

/-- What a line of text holds, apart from the white space at its ends. -/
def Line.ofText (text : List Char) : Line :=
  if isSilent (trim text) then .skipped else .data (trim text)

lemma ofBytes_of_ok {bytes : List UInt8} (h : decodeUtf8 bytes = .ok text) :
    Line.ofBytes bytes = Line.ofText text := by
  rw [Line.ofBytes, h, Line.ofText]
  dsimp only
  split
  · next heq => simp [heq, isSilent]
  · next heq => simp [heq, isSilent]
  · next hempty hcomment =>
    have hdata : isSilent (trim text) = false := by
      cases htrim : trim text with
      | nil => exact absurd htrim hempty
      | cons c cs =>
        have hc : c ≠ '#' := by
          rintro rfl
          exact hcomment cs htrim
        simp [isSilent, hc]
    rw [hdata]
    rfl

lemma ofBytes_encode (text : List Char) : Line.ofBytes (encodeUtf8 text) = Line.ofText text :=
  ofBytes_of_ok (decodeUtf8_encode text)

lemma ofText_newline (line : List Char) : Line.ofText (line ++ ['\n']) = Line.ofText line := by
  rw [Line.ofText, Line.ofText, trim_padding (by simp [IsPadding, isBlank])]

/-- A heading is no request. -/
lemma parseLine_of_isHeader (h : isHeader line) : ∃ defect, parseLine line = .error defect := by
  obtain ⟨first, others, hpieces⟩ := List.exists_cons_of_ne_nil (pieces_ne_nil ',' line)
  have hcolumn : ∃ defect, column .time (some (trim first)) = .error defect := by
    rw [isHeader, hpieces, List.headD_cons, Option.isNone_iff_eq_none] at h
    rw [column, column?.eq_def]
    split
    · exact ⟨_, rfl⟩
    · exact ⟨_, rfl⟩
    · next field heq =>
      obtain rfl := Option.some.inj heq
      rw [h]
      exact ⟨_, rfl⟩
  obtain ⟨defect, hdefect⟩ := hcolumn
  refine ⟨defect, ?_⟩
  simp only [parseLine, hpieces, List.map_cons, List.getElem?_cons_zero, hdefect]
  rfl

/-- A listing gives an account of its requests. -/
lemma account_listing {hasBegun : Bool} {lines : List (List Char)} {requests : List Request}
    (h : Listing hasBegun lines requests) (skipMalformed : Bool) (number : Nat) :
    account skipMalformed number hasBegun (lines.map Line.ofText) = requests.map .ok := by
  induction h generalizing number with
  | nil hasBegun => rfl
  | remark hline hsilent rest ih =>
    rw [List.map_cons, account, Line.ofText, if_pos hsilent]
    simpa [Line.item?, Line.beginsData] using ih (number + 1)
  | heading hline hdata hheader rest ih =>
    obtain ⟨defect, hdefect⟩ := parseLine_of_isHeader hheader
    rw [List.map_cons, account, Line.ofText, hdata, if_neg Bool.false_ne_true]
    simpa [Line.item?, hdefect, hheader, Line.beginsData] using ih (number + 1)
  | request htime hid hsize rest ih =>
    obtain ⟨hparse, hdata⟩ := trim_request htime hid hsize
    rw [List.map_cons, account, Line.ofText, hdata, if_neg Bool.false_ne_true]
    simp only [Line.item?, hparse, Line.beginsData, Bool.or_true, ih, Option.toList_some,
      List.singleton_append, List.map_cons]

lemma newline_not_mem {hasBegun : Bool} {lines : List (List Char)} {requests : List Request}
    (h : Listing hasBegun lines requests) : ∀ line ∈ lines, '\n' ∉ line := by
  induction h with
  | nil hasBegun => simp
  | remark hline hsilent rest ih => exact List.forall_mem_cons.mpr ⟨hline, ih⟩
  | heading hline hdata hheader rest ih => exact List.forall_mem_cons.mpr ⟨hline, ih⟩
  | request htime hid hsize rest ih =>
    refine List.forall_mem_cons.mpr ⟨?_, ih⟩
    simp [newline_not_mem_of_shows htime, newline_not_mem_of_shows hid,
      newline_not_mem_of_shows hsize]

/-- A text that is put together from lines is cut into these lines again.  Only an empty line at
the very end is lost, and there is nothing in it. -/
lemma account_joined {lines : List (List Char)} (h : ∀ line ∈ lines, '\n' ∉ line)
    (skipMalformed : Bool) (number : Nat) (hasBegun : Bool) :
    account skipMalformed number hasBegun
        ((Text.lines 10 (encodeUtf8 (['\n'].intercalate lines))).map Line.ofBytes) =
      account skipMalformed number hasBegun (lines.map Line.ofText) := by
  induction lines generalizing number hasBegun with
  | nil => rfl
  | cons line lines ih =>
    obtain ⟨hline, hlines⟩ := List.forall_mem_cons.mp h
    have hbytes : (10 : UInt8) ∉ encodeUtf8 line := fun hmem => hline (newline_mem_encode hmem)
    cases lines with
    | nil =>
      rw [List.intercalate_singleton, lines_of_not_mem hbytes]
      by_cases hempty : encodeUtf8 line = []
      · have hback := decodeUtf8_encode line
        rw [hempty, decodeUtf8, decodeFrom] at hback
        obtain rfl : [] = line := Except.ok.inj hback
        rfl
      · rw [if_neg hempty, List.map_singleton, ofBytes_encode, List.map_singleton]
    | cons line' lines =>
      have hnewline : encodeUtf8 ['\n'] = [10] := by decide
      rw [List.intercalate_cons_cons, encodeUtf8_append, encodeUtf8_append, hnewline,
        List.append_assoc, List.singleton_append, lines_append hbytes, List.map_cons,
        List.map_cons, ← hnewline, ← encodeUtf8_append, ofBytes_encode, ofText_newline, account,
        account, ih hlines]

/-- A listing is read as the requests that it lists. -/
lemma items_listing {lines : List (List Char)} {requests : List Request}
    (h : Listing false lines requests) (skipMalformed : Bool) :
    items skipMalformed (encodeUtf8 (['\n'].intercalate lines)) = requests.map .ok := by
  rw [← account_eq_items, account_joined (newline_not_mem h), account_listing h]

end CacheSim.Trace.Csv
