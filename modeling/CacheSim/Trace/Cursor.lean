import CacheSim.Trace.Reader

/-!
# Reading a trace step by step

A `Cursor` is a trace that is being read.  Every step takes one line, or one record, off its front.
Besides the bytes that are left a cursor remembers only how many lines or records lie behind it,
and whether the data has begun.

A step need not give an item: a line may say nothing, and a request may be left out of the sample.
`Cursor.next?` steps until there is an item, and `Cursor.toList` asks for items until there is none.
-/

namespace CacheSim.Trace

/-- The first line of some bytes, with the newline at its end if it has one, and the bytes behind
it. -/
def takeLine : List UInt8 → List UInt8 × List UInt8
  | [] => ([], [])
  | b :: bytes => if b = 10 then ([b], bytes) else ((b :: (takeLine bytes).1), (takeLine bytes).2)

/-- A trace that is being read. -/
structure Cursor where
  /-- How the trace is written. -/
  format : Format
  /-- How it is read. -/
  options : ReadOptions
  /-- The bytes that are left. -/
  rest : List UInt8
  /-- The number of lines, or records, that have been read. -/
  position : Nat := 0
  /-- Whether the data has begun, so that no later line can be a header. -/
  hasBegun : Bool := false

namespace Cursor

/-- Reads a line. -/
def stepLine (c : Cursor) : Option Item × Cursor :=
  let line := Csv.Line.ofBytes (takeLine c.rest).1
  (line.item? c.options.skipMalformed (c.position + 1) (!c.hasBegun),
    { c with
      rest := (takeLine c.rest).2
      position := c.position + 1
      hasBegun := c.hasBegun || line.beginsData c.options.skipMalformed })

/-- Reads a record. -/
def stepRecord (c : Cursor) : Option Item × Cursor :=
  let record := c.rest.take Record.length
  (some
      (if record.length < Record.length then .error (.truncated (c.position + 1) record.length)
      else .ok (Record.decode record)),
    { c with rest := c.rest.drop Record.length, position := c.position + 1 })

/-- Reads a line or a record, of which at least one byte is left.  There may be nothing in it, and
a request that is not in the sample is left out. -/
def step (c : Cursor) : Option Item × Cursor :=
  let (item, c') :=
    match c.format with
    | .csv => c.stepLine
    | .oracleGeneral => c.stepRecord
  (item.filter (isKept c.options.sample), c')

theorem length_takeLine (bytes : List UInt8) :
    (takeLine bytes).1.length + (takeLine bytes).2.length = bytes.length := by
  induction bytes with
  | nil => rfl
  | cons b bytes ih =>
    rw [takeLine]
    split
    · simp [Nat.add_comm]
    · simp only [List.length_cons]
      omega

theorem takeLine_ne_nil {bytes : List UInt8} (h : bytes ≠ []) : (takeLine bytes).1 ≠ [] := by
  cases bytes with
  | nil => exact absurd rfl h
  | cons b bytes =>
    rw [takeLine]
    split <;> simp

/-- A step takes at least one byte. -/
theorem length_rest_step {c : Cursor} (h : c.rest ≠ []) :
    c.step.2.rest.length < c.rest.length := by
  have hpos := List.length_pos_iff.mpr h
  cases hformat : c.format with
  | csv =>
    have hline := List.length_pos_iff.mpr (takeLine_ne_nil h)
    have hsum := length_takeLine c.rest
    simp only [step, hformat, stepLine]
    omega
  | oracleGeneral =>
    simp only [step, hformat, stepRecord, List.length_drop, Record.length]
    omega

/-- The next item, and the cursor behind it. -/
def next? (c : Cursor) : Option (Item × Cursor) :=
  if _h : c.rest = [] then none
  else
    match c.step.1 with
    | some item => some (item, c.step.2)
    | none => c.step.2.next?
termination_by c.rest.length
decreasing_by exact length_rest_step _h

theorem length_rest_next? {c c' : Cursor} {item : Item} (h : c.next? = some (item, c')) :
    c'.rest.length < c.rest.length := by
  fun_induction next? c with
  | case1 => simp at h
  | case2 c hrest found hstep =>
    obtain ⟨-, rfl⟩ := Prod.mk.inj (Option.some.inj h)
    exact length_rest_step hrest
  | case3 c hrest hstep ih => exact Nat.lt_trans (ih h) (length_rest_step hrest)

/-- The items up to the end of the trace. -/
def toList (c : Cursor) : List Item :=
  match _h : c.next? with
  | none => []
  | some (item, c') => item :: c'.toList
termination_by c.rest.length
decreasing_by exact length_rest_next? _h

end Cursor

end CacheSim.Trace
