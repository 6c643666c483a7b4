import Mathlib

/-!
# Ends of lists

Where the first entries of a list are dropped until a property holds of the others, what is left is
the longest end of the list with this property.  A room into which the entries must fit together is
such a property.

* `longestEnd`: what is left, for any property;
* `suffix_longestEnd`: every end with the property is an end of it;
* `fittingEnd`: what is left for a room;
* `fittingEnd_rel`: two lists whose ends fit alike are left alike.
-/

namespace CacheSim

variable {α β : Type} {entries entries' : List α}

/-! ## Ends with a property -/

section Property

/-- The longest end of a list with a property; no entries if there is no such end. -/
def longestEnd (p : List α → Prop) [DecidablePred p] : List α → List α
  | [] => []
  | entry :: later => if p (entry :: later) then entry :: later else longestEnd p later

variable {p q : List α → Prop} [DecidablePred p] [DecidablePred q]

lemma longestEnd_of (h : p entries) : longestEnd p entries = entries := by
  cases entries with
  | nil => rfl
  | cons entry later => rw [longestEnd, if_pos h]

lemma longestEnd_suffix (p : List α → Prop) [DecidablePred p] (entries : List α) :
    longestEnd p entries <:+ entries := by
  induction entries with
  | nil => exact List.suffix_rfl
  | cons entry later ih =>
    rw [longestEnd]
    split
    · exact List.suffix_rfl
    · exact ih.trans (List.suffix_cons entry later)

lemma longestEnd_eq_nil_or (p : List α → Prop) [DecidablePred p] (entries : List α) :
    longestEnd p entries = [] ∨ p (longestEnd p entries) := by
  induction entries with
  | nil => exact Or.inl rfl
  | cons entry later ih =>
    rw [longestEnd]
    split
    · next hp => exact Or.inr hp
    · exact ih

/-- Any end with the property is an end of the longest one. -/
lemma suffix_longestEnd (h : entries' <:+ entries) (hp : p entries') :
    entries' <:+ longestEnd p entries := by
  induction entries with
  | nil => exact h
  | cons entry later ih =>
    rw [longestEnd]
    split
    · exact h
    · next hnot =>
      rcases List.suffix_cons_iff.mp h with rfl | hlater
      · exact absurd hp hnot
      · exact ih hlater

/-- Less is left of an end, and for a stronger property. -/
lemma longestEnd_mono (h : entries' <:+ entries) (himp : ∀ l, p l → q l) :
    longestEnd p entries' <:+ longestEnd q entries := by
  rcases longestEnd_eq_nil_or p entries' with hnil | hp
  · rw [hnil]
    exact List.nil_suffix
  · exact suffix_longestEnd ((longestEnd_suffix p entries').trans h) (himp _ hp)

end Property

/-! ## Ends that fit into a room -/

variable {sizeOf : α → Nat} {sizeOf' : β → Nat} {room room' : Nat}

/-- The longest end of a list of entries whose sizes fit into `room` together. -/
def fittingEnd (sizeOf : α → Nat) (room : Nat) : List α → List α
  | [] => []
  | entry :: later =>
    if ((entry :: later).map sizeOf).sum ≤ room then entry :: later
    else fittingEnd sizeOf room later

lemma fittingEnd_eq_longestEnd (sizeOf : α → Nat) (room : Nat) (entries : List α) :
    fittingEnd sizeOf room entries = longestEnd (fun l => (l.map sizeOf).sum ≤ room) entries := by
  induction entries with
  | nil => rfl
  | cons entry later ih => rw [fittingEnd, longestEnd, ih]

lemma fittingEnd_of_le (h : (entries.map sizeOf).sum ≤ room) :
    fittingEnd sizeOf room entries = entries :=
  (fittingEnd_eq_longestEnd sizeOf room entries).trans (longestEnd_of h)

lemma fittingEnd_suffix (sizeOf : α → Nat) (room : Nat) (entries : List α) :
    fittingEnd sizeOf room entries <:+ entries := by
  rw [fittingEnd_eq_longestEnd]
  exact longestEnd_suffix _ entries

lemma sum_fittingEnd_le (sizeOf : α → Nat) (room : Nat) (entries : List α) :
    ((fittingEnd sizeOf room entries).map sizeOf).sum ≤ room := by
  rw [fittingEnd_eq_longestEnd]
  rcases longestEnd_eq_nil_or (fun l => (l.map sizeOf).sum ≤ room) entries with hnil | hfits
  · rw [hnil]
    exact Nat.zero_le _
  · exact hfits

/-- Any end that fits is an end of the longest one. -/
lemma suffix_fittingEnd (h : entries' <:+ entries) (hfits : (entries'.map sizeOf).sum ≤ room) :
    entries' <:+ fittingEnd sizeOf room entries := by
  rw [fittingEnd_eq_longestEnd]
  exact suffix_longestEnd h hfits

/-- With less room less of a list fits. -/
lemma fittingEnd_mono (h : entries' <:+ entries) (hle : room ≤ room') :
    fittingEnd sizeOf room entries' <:+ fittingEnd sizeOf room' entries := by
  rw [fittingEnd_eq_longestEnd, fittingEnd_eq_longestEnd]
  exact longestEnd_mono h fun _ hfits => Nat.le_trans hfits hle

/-- Lists whose ends fit alike are left with ends that are alike. -/
lemma fittingEnd_rel {r : α → β → Prop} {others : List β} (h : List.Forall₂ r entries others)
    (hfits : ∀ (later : List α) (later' : List β), List.Forall₂ r later later' →
      ((later'.map sizeOf').sum ≤ room' ↔ (later.map sizeOf).sum ≤ room)) :
    List.Forall₂ r (fittingEnd sizeOf room entries) (fittingEnd sizeOf' room' others) := by
  induction h with
  | nil => exact .nil
  | cons hentry hlater ih =>
    rw [fittingEnd, fittingEnd]
    simp only [hfits _ _ (.cons hentry hlater)]
    split
    · exact .cons hentry hlater
    · exact ih

end CacheSim
