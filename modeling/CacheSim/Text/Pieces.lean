/-!
# Cutting lists

`pieces` cuts a list at every separator and drops the separators, so there is always one piece
more than there are separators.  `lines` keeps the separator at the end of each piece, and a last
piece is listed only if something is in it.  `chunks` cuts a list into chunks of one length and
tells what is left over.
-/

namespace CacheSim.Text

variable {α : Type}

/-- Puts an element in front of the first piece. -/
def consFirst (x : α) : List (List α) → List (List α)
  | [] => [[x]]
  | p :: ps => (x :: p) :: ps

/-- The pieces between separators. -/
def pieces [DecidableEq α] (sep : α) (xs : List α) : List (List α) :=
  xs.foldr (fun x ps => if x = sep then [] :: ps else consFirst x ps) [[]]

/-- The pieces that end in a separator, and what is left after the last one. -/
def lines [DecidableEq α] (sep : α) (xs : List α) : List (List α) :=
  xs.foldr (fun x ps => if x = sep then [x] :: ps else consFirst x ps) []

theorem flatten_lines [DecidableEq α] (sep : α) (xs : List α) : (lines sep xs).flatten = xs := by
  induction xs with
  | nil => rfl
  | cons x xs ih =>
    show (if x = sep then [x] :: lines sep xs else consFirst x (lines sep xs)).flatten = _
    split
    · simp [ih]
    · cases h : lines sep xs with
      | nil => simp [consFirst, h] at ih ⊢; exact ih
      | cons p ps => simp [consFirst, h] at ih ⊢; exact ih

/-- The chunks cut off so far, latest first, and the elements of the next chunk, latest first. -/
structure Chunking (α : Type) where
  /-- The finished chunks. -/
  full : List (List α) := []
  /-- The unfinished chunk. -/
  part : List α := []

/-- Adds an element to the chunk that is being filled. -/
def Chunking.push (length : Nat) (c : Chunking α) (x : α) : Chunking α :=
  if c.part.length + 1 < length then { c with part := x :: c.part }
  else ⟨(x :: c.part).reverse :: c.full, []⟩

/-- The chunks of a positive length, and what is left over. -/
def chunks (length : Nat) (xs : List α) : List (List α) × List α :=
  let c := xs.foldl (Chunking.push length) {}
  (c.full.reverse, c.part.reverse)

end CacheSim.Text
