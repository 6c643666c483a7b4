import Mathlib
import CacheSim.Text.Pieces

/-!
# Cutting lists, piece by piece

The functions that cut lists go through them once and keep account of the piece at hand.  Here they
are described by what they do to a list of which the first piece is known, so that a proof about
all pieces can be an induction on them.

* `chunks_append`: a chunk of the right length is cut off; the chunks and what is left over are
  the whole list (`flatten_chunks`);
* `lines_append`: so is a line that ends in its only separator (`not_mem_dropLast_of_mem_lines`,
  `getLast?_of_mem_lines`);
* `pieces_append`: so is a piece in front of a separator.
-/

namespace CacheSim.Text

variable {α : Type}

/-! ## Chunks -/

/-- What has been cut off before stays in front. -/
lemma foldl_push_full (length : Nat) (full : List (List α)) (c : Chunking α) (xs : List α) :
    xs.foldl (Chunking.push length) ⟨c.full ++ full, c.part⟩ =
      ⟨(xs.foldl (Chunking.push length) c).full ++ full,
        (xs.foldl (Chunking.push length) c).part⟩ := by
  induction xs generalizing c with
  | nil => rfl
  | cons x xs ih =>
    have hpush : Chunking.push length ⟨c.full ++ full, c.part⟩ x =
        ⟨(c.push length x).full ++ full, (c.push length x).part⟩ := by
      simp only [Chunking.push]
      split <;> rfl
    rw [List.foldl_cons, List.foldl_cons, hpush, ih]

/-- A chunk that is not full yet takes what there is. -/
lemma foldl_push_of_lt {length : Nat} {c : Chunking α} {xs : List α}
    (h : c.part.length + xs.length < length) :
    xs.foldl (Chunking.push length) c = ⟨c.full, xs.reverse ++ c.part⟩ := by
  induction xs generalizing c with
  | nil => rfl
  | cons x xs ih =>
    rw [List.length_cons] at h
    have hpush : c.push length x = ⟨c.full, x :: c.part⟩ := if_pos (by omega)
    rw [List.foldl_cons, hpush, ih (by simp only [List.length_cons]; omega)]
    simp

lemma chunks_of_lt {length : Nat} {xs : List α} (h : xs.length < length) :
    chunks length xs = ([], xs) := by
  have hfold : xs.foldl (Chunking.push length) {} = ⟨[], xs.reverse ++ []⟩ :=
    foldl_push_of_lt (by simpa using h)
  simp [chunks, hfold]

/-- A chunk of the right length is cut off. -/
lemma chunks_append {length : Nat} {xs : List α} (hpos : 0 < length) (h : xs.length = length)
    (ys : List α) :
    chunks length (xs ++ ys) = (xs :: (chunks length ys).1, (chunks length ys).2) := by
  obtain ⟨init, x, rfl⟩ : ∃ init x, xs = init ++ [x] := by
    refine ⟨xs.dropLast, xs.getLast ?_, (List.dropLast_append_getLast _).symm⟩
    rintro rfl
    rw [List.length_nil] at h
    omega
  rw [List.length_append, List.length_singleton] at h
  have hshort : ([] : List α).length + init.length < length := by
    rw [List.length_nil]
    omega
  have hinit : init.foldl (Chunking.push length) {} = ⟨[], init.reverse ++ []⟩ :=
    foldl_push_of_lt hshort
  have hfull : ¬ (init.reverse ++ ([] : List α)).length + 1 < length := by
    rw [List.append_nil, List.length_reverse]
    omega
  have hlast : Chunking.push length ⟨[], init.reverse ++ []⟩ x = ⟨[] ++ [init ++ [x]], []⟩ := by
    rw [Chunking.push, if_neg hfull]
    simp
  have hrest := foldl_push_full length [init ++ [x]] {} ys
  simp only [chunks, List.foldl_append, List.foldl_cons, List.foldl_nil, hinit, hlast, hrest]
  simp

/-- Cutting into chunks, by chunks: a list is too short for one, or begins with one. -/
lemma chunks_induction {length : Nat} (hpos : 0 < length) {P : List α → Prop}
    (short : ∀ xs : List α, xs.length < length → P xs)
    (append : ∀ xs ys : List α, xs.length = length → P ys → P (xs ++ ys)) (xs : List α) : P xs := by
  induction hlength : xs.length using Nat.strong_induction_on generalizing xs with
  | _ n ih =>
    by_cases hshort : xs.length < length
    · exact short xs hshort
    · have htake : (xs.take length).length = length := by
        rw [List.length_take]
        omega
      have hdrop : (xs.drop length).length < n := by
        rw [List.length_drop]
        omega
      rw [← List.take_append_drop length xs]
      exact append _ _ htake (ih _ hdrop _ rfl)

section Chunks

variable {length : Nat} (hpos : 0 < length) (xs : List α)
include hpos

/-- Nothing is lost. -/
lemma flatten_chunks : (chunks length xs).1.flatten ++ (chunks length xs).2 = xs := by
  induction xs using chunks_induction hpos with
  | short xs hshort => rw [chunks_of_lt hshort, List.flatten_nil, List.nil_append]
  | append xs ys hfull ih =>
    rw [chunks_append hpos hfull, List.flatten_cons, List.append_assoc, ih]

lemma length_of_mem_chunks : ∀ chunk ∈ (chunks length xs).1, chunk.length = length := by
  induction xs using chunks_induction hpos with
  | short xs hshort => simp [chunks_of_lt hshort]
  | append xs ys hfull ih =>
    rw [chunks_append hpos hfull]
    rintro chunk (_ | ⟨_, hmem⟩)
    · exact hfull
    · exact ih chunk hmem

lemma length_rest_chunks_lt : (chunks length xs).2.length < length := by
  induction xs using chunks_induction hpos with
  | short xs hshort => rwa [chunks_of_lt hshort]
  | append xs ys hfull ih => rwa [chunks_append hpos hfull]

lemma length_chunks :
    length * (chunks length xs).1.length + (chunks length xs).2.length = xs.length := by
  induction xs using chunks_induction hpos with
  | short xs hshort => simp [chunks_of_lt hshort]
  | append xs ys hfull ih =>
    rw [chunks_append hpos hfull]
    simp only [List.length_cons, List.length_append, Nat.mul_succ]
    omega

end Chunks

/-! ## Lines -/

variable [DecidableEq α] {sep : α}

lemma lines_cons (sep x : α) (xs : List α) :
    lines sep (x :: xs) = if x = sep then [x] :: lines sep xs else consFirst x (lines sep xs) :=
  rfl

lemma pieces_cons (sep x : α) (xs : List α) :
    pieces sep (x :: xs) = if x = sep then [] :: pieces sep xs else consFirst x (pieces sep xs) :=
  rfl

/-- There is always a first piece. -/
lemma pieces_ne_nil (sep : α) (xs : List α) : pieces sep xs ≠ [] := by
  cases xs with
  | nil => exact List.cons_ne_nil _ _
  | cons x xs =>
    rw [pieces_cons]
    split
    · exact List.cons_ne_nil _ _
    · cases pieces sep xs <;> exact List.cons_ne_nil _ _

/-- A line that ends in its only separator is cut off. -/
lemma lines_append {body : List α} (h : sep ∉ body) (xs : List α) :
    lines sep (body ++ sep :: xs) = (body ++ [sep]) :: lines sep xs := by
  induction body with
  | nil => rw [List.nil_append, lines_cons, if_pos rfl, List.nil_append]
  | cons x body ih =>
    obtain ⟨hx, hbody⟩ := List.ne_and_not_mem_of_not_mem_cons h
    rw [List.cons_append, lines_cons, if_neg (Ne.symm hx), ih hbody]
    rfl

/-- Without a separator everything is in one line, if there is anything. -/
lemma lines_of_not_mem {xs : List α} (h : sep ∉ xs) :
    lines sep xs = if xs = [] then [] else [xs] := by
  induction xs with
  | nil => rfl
  | cons x xs ih =>
    obtain ⟨hx, hxs⟩ := List.ne_and_not_mem_of_not_mem_cons h
    rw [lines_cons, if_neg (Ne.symm hx), ih hxs]
    cases xs <;> rfl

/-- Cutting into lines, by lines: there is no separator, or the first one ends the first line. -/
lemma lines_induction {P : List α → Prop} (last : ∀ xs, sep ∉ xs → P xs)
    (append : ∀ body xs, sep ∉ body → P xs → P (body ++ sep :: xs)) (xs : List α) : P xs := by
  induction hlength : xs.length using Nat.strong_induction_on generalizing xs with
  | _ n ih =>
    by_cases hsep : sep ∈ xs
    · obtain ⟨body, rest, rfl, hbody⟩ := List.eq_append_cons_of_mem hsep
      refine append body rest hbody (ih rest.length ?_ rest rfl)
      rw [← hlength, List.length_append, List.length_cons]
      omega
    · exact last xs hsep

/-- A line is not empty, and has no separator before its end. -/
lemma not_mem_dropLast_of_mem_lines (xs : List α) :
    ∀ line ∈ lines sep xs, line ≠ [] ∧ sep ∉ line.dropLast := by
  induction xs using lines_induction with
  | last xs hsep =>
    rw [lines_of_not_mem hsep]
    split
    · simp
    · next hxs =>
      intro line hline
      obtain rfl := List.mem_singleton.mp hline
      exact ⟨hxs, fun hmem => hsep (List.mem_of_mem_dropLast hmem)⟩
  | append body xs hbody ih =>
    rw [lines_append hbody]
    refine List.forall_mem_cons.mpr ⟨⟨by simp, ?_⟩, ih⟩
    rwa [List.dropLast_concat]

/-- All lines but the last have a separator at the end. -/
lemma getLast?_of_mem_lines (xs : List α) :
    ∀ line ∈ (lines sep xs).dropLast, line.getLast? = some sep := by
  induction xs using lines_induction with
  | last xs hsep =>
    rw [lines_of_not_mem hsep]
    split <;> simp
  | append body xs hbody ih =>
    rw [lines_append hbody]
    intro line hline
    cases hrest : lines sep xs with
    | nil => simp [hrest] at hline
    | cons first others =>
      rw [hrest] at hline ih
      rw [List.dropLast_cons_cons] at hline
      rcases List.mem_cons.mp hline with rfl | hline
      · simp
      · exact ih line hline

/-- A piece in front of a separator is cut off. -/
lemma pieces_append {piece : List α} (h : sep ∉ piece) (xs : List α) :
    pieces sep (piece ++ sep :: xs) = piece :: pieces sep xs := by
  induction piece with
  | nil => rw [List.nil_append, pieces_cons, if_pos rfl]
  | cons x piece ih =>
    obtain ⟨hx, hpiece⟩ := List.ne_and_not_mem_of_not_mem_cons h
    rw [List.cons_append, pieces_cons, if_neg (Ne.symm hx), ih hpiece]
    rfl

lemma pieces_of_not_mem {xs : List α} (h : sep ∉ xs) : pieces sep xs = [xs] := by
  induction xs with
  | nil => rfl
  | cons x xs ih =>
    obtain ⟨hx, hxs⟩ := List.ne_and_not_mem_of_not_mem_cons h
    rw [pieces_cons, if_neg (Ne.symm hx), ih hxs]
    rfl

end CacheSim.Text
