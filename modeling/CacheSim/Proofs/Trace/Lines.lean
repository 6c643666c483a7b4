import CacheSim.Proofs.Trace.Listing

/-!
# Text traces, line by line

A text trace is read as one item for every line that speaks: a line that is not text, or that is
neither blank nor a comment.  The first line with data is left out if it is a heading, and no other
line ever is.  Errors give the number of the line among all lines, whether they speak or not.

* `Csv.items_eq_said`: which lines are read, and as what;
* `Csv.lines_accounted_for`: the same for a cursor that is asked for all items, and what it gives
  for a listing of requests.
-/

namespace CacheSim.Trace.Csv

open Text

/-! ## What a line says -/

/-- Whether a line holds data: it is text, and it is neither blank nor a comment. -/
def holdsData (line : List UInt8) : Bool :=
  match decodeUtf8 line with
  | .error _ => false
  | .ok text => !isSilent (trim text)

/-- Whether a line speaks: it is not text, or it holds data. -/
def speaks (line : List UInt8) : Bool :=
  match decodeUtf8 line with
  | .error _ => true
  | .ok text => !isSilent (trim text)

/-- Whether a line is no request and its first column is no number. -/
def isHeading (line : List UInt8) : Bool :=
  match decodeUtf8 line with
  | .error _ => false
  | .ok text => !(parseLine (trim text)).isOk && isHeader (trim text)

/-- What a line says: a request, or why there is none. -/
def said (number : Nat) (line : List UInt8) : Item :=
  match decodeUtf8 line with
  | .error e => .error (.malformed number (.notText e))
  | .ok text => (parseLine (trim text)).mapError (.malformed number)

/-- Bytes are cut into lines at the newlines, of which each stands at the end of its line.  Only
the last line need not have one. -/
structure Cut (bytes : List UInt8) (lines : List (List UInt8)) : Prop where
  /-- Nothing is lost. -/
  flatten_eq : lines.flatten = bytes
  /-- There is something in every line. -/
  nonempty : ∀ line ∈ lines, line ≠ []
  /-- There is no newline before the end of a line. -/
  not_mem : ∀ line ∈ lines, 10 ∉ line.dropLast
  /-- There is one at the end. -/
  ended : ∀ line ∈ lines.dropLast, line.getLast? = some 10

lemma cut_lines (bytes : List UInt8) : Cut bytes (Text.lines 10 bytes) where
  flatten_eq := flatten_lines 10 bytes
  nonempty line hline := (not_mem_dropLast_of_mem_lines bytes line hline).1
  not_mem line hline := (not_mem_dropLast_of_mem_lines bytes line hline).2
  ended := getLast?_of_mem_lines bytes

/-! ## Items -/

variable {bytes line : List UInt8}

lemma beginsData_ofBytes (line : List UInt8) :
    (Line.ofBytes line).beginsData false = holdsData line := by
  cases hline : decodeUtf8 line with
  | error e => simp [Line.ofBytes, holdsData, hline, Line.beginsData]
  | ok text =>
    rw [ofBytes_of_ok hline, Line.ofText]
    simp only [holdsData, hline]
    cases isSilent (trim text) <;> rfl

/-- A line is read as what it says, unless it is silent or is the heading. -/
lemma item?_ofBytes (number : Nat) (isFirst : Bool) (line : List UInt8) :
    (Line.ofBytes line).item? false number isFirst =
      if speaks line && !(isFirst && isHeading line) then some (said number line) else none := by
  cases hline : decodeUtf8 line with
  | error e => simp [Line.ofBytes, speaks, isHeading, said, hline, Line.item?]
  | ok text =>
    rw [ofBytes_of_ok hline, Line.ofText]
    simp only [speaks, isHeading, said, hline]
    cases isSilent (trim text) with
    | true => rfl
    | false =>
      cases hparse : parseLine (trim text) with
      | ok request => simp [Line.item?, hparse, Except.isOk, Except.toBool, Except.mapError]
      | error defect =>
        cases isFirst <;> cases hheader : isHeader (trim text) <;>
          simp [Line.item?, hparse, hheader, Except.isOk, Except.toBool, Except.mapError]

/-- Which lines are read, and as what. -/
lemma items_eq_said (bytes : List UInt8) :
    items false bytes =
      (((Text.lines 10 bytes).zipIdx 1).filter fun line =>
        speaks line.1 &&
          !(line.2 == (Text.lines 10 bytes).findIdx holdsData + 1 && isHeading line.1)).map
        fun line => said line.2 line.1 := by
  have hfirst : ((Text.lines 10 bytes).map Line.ofBytes).findIdx (Line.beginsData false) =
      (Text.lines 10 bytes).findIdx holdsData := by
    rw [List.findIdx_map]
    congr 1
    funext line
    exact beginsData_ofBytes line
  rw [items, hfirst, List.zipIdx_map, List.filterMap_map, List.zipIdx_succ, List.filter_map,
    List.map_map, ← List.filterMap_eq_map, List.filterMap_filter]
  refine List.filterMap_congr ?_
  rintro ⟨line, i⟩ -
  simp [item?_ofBytes]

/-- Without a sample every item is kept. -/
lemma read_csv (bytes : List UInt8) : read .csv {} bytes = items false bytes :=
  List.filter_eq_self.mpr fun item _ => by cases item <;> rfl

/-- **A text trace is accounted for line by line.**  The bytes are cut into lines at the newlines.
The lines are numbered from one.  Asking for items until there is none gives, in order, what is said
by every line that speaks, where the first line with data is left out if it is a heading.  What a
line says is a request, or an error with the number of the line.

In particular every listing of requests, with or without a heading, remarks, white space around
the numbers, and a newline at the end, gives just the requests. -/
theorem lines_accounted_for :
    (∀ bytes, Cut bytes (Text.lines 10 bytes) ∧
      Cursor.toList { format := .csv, options := {}, rest := bytes } =
        (((Text.lines 10 bytes).zipIdx 1).filter fun line =>
          speaks line.1 &&
            !(line.2 == (Text.lines 10 bytes).findIdx holdsData + 1 && isHeading line.1)).map
          fun line => said line.2 line.1) ∧
    ∀ lines requests, Listing false lines requests →
      Cursor.toList
          { format := .csv, options := {}, rest := encodeUtf8 (['\n'].intercalate lines) } =
        requests.map .ok := by
  refine ⟨fun bytes => ⟨cut_lines bytes, ?_⟩, fun lines requests hlisting => ?_⟩
  · rw [Cursor.toList_start, read_csv, items_eq_said]
  · rw [Cursor.toList_start, read_csv, items_listing hlisting]

/-- A comment, a heading, a blank line and carriage returns come in between. -/
theorem listing_with_heading_accounted_for :
    Cursor.toList
        { format := .csv, options := {},
          rest := encodeUtf8 "# a day\r\ntime,obj_id,obj_size\r\n\r\n1,10,100\r\n2,11,200".toList } =
      [.ok ⟨1, 10, 100⟩, .ok ⟨2, 11, 200⟩] := by
  have hreturn : IsIndent ['\r'] := ⟨by simp [IsPadding, isBlank], by simp⟩
  have hempty : IsIndent [] := ⟨by simp [IsPadding], by simp⟩
  have hsize : Shows ("100\r".toList) 100 := ⟨[], ['\r'], hempty, hreturn, by decide⟩
  have hrequests : Listing true
      ["\r".toList, unsigned 1 ++ ',' :: unsigned 10 ++ ',' :: "100\r".toList, lineOf ⟨2, 11, 200⟩]
      [⟨1, 10, 100⟩, ⟨2, 11, 200⟩] :=
    .remark (by decide) (by decide)
      (.request (shows_unsigned 1) (shows_unsigned 10) hsize (listing_lineOf true [⟨2, 11, 200⟩]))
  have hlisting : Listing false
      ["# a day\r".toList, "time,obj_id,obj_size\r".toList, "\r".toList,
        unsigned 1 ++ ',' :: unsigned 10 ++ ',' :: "100\r".toList, lineOf ⟨2, 11, 200⟩]
      [⟨1, 10, 100⟩, ⟨2, 11, 200⟩] :=
    .remark (by decide) (by decide) (.heading (by decide) (by decide) (by decide) hrequests)
  exact lines_accounted_for.2 _ _ hlisting

end CacheSim.Trace.Csv
