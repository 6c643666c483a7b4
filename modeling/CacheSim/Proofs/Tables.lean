import Mathlib

/-!
# Entries of ordered tables

The store, the roster and the queue keep their data in ordered tables.  What is said about them
as a whole -- the bytes of all stored objects, the multiset of all access counts -- is said about
the list of entries of a table, up to order.  This file describes how that list changes when an
entry is put into a table or taken out of it.

* `Table.toList_insert_of_not_mem`: a new key adds its entry;
* `Table.toList_erase_of_getElem?`: an erased key takes its entry with it;
* `Table.toList_insert`: an entry that is put in replaces the one of the same key.

Where the order of the entries matters it is that of the keys.

* `Table.toList_insert_last`, `Table.toList_erase_eq_filter`: the list itself, not up to order.
-/

namespace CacheSim
namespace Table

variable {κ β : Type} {cmp : κ → κ → Ordering} [Std.TransCmp cmp] [Std.LawfulEqCmp cmp]
variable {t : Std.TreeMap κ β cmp} {k : κ} {v : β}

/-- No entry is listed twice. -/
lemma nodup_toList (t : Std.TreeMap κ β cmp) : t.toList.Nodup := by
  refine Std.TreeMap.distinct_keys_toList.imp ?_
  rintro a b hne rfl
  exact hne Std.ReflCmp.compare_self

/-- No key is listed twice. -/
lemma nodup_keys (t : Std.TreeMap κ β cmp) : (t.toList.map Prod.fst).Nodup := by
  rw [List.Nodup, List.pairwise_map]
  refine Std.TreeMap.distinct_keys_toList.imp ?_
  intro a b hne heq
  exact hne (by rw [heq]; exact Std.ReflCmp.compare_self)

lemma mem_toList {e : κ × β} : e ∈ t.toList ↔ t[e.1]? = some e.2 :=
  Std.TreeMap.mem_toList_iff_getElem?_eq_some

omit [Std.TransCmp cmp] [Std.LawfulEqCmp cmp] in
lemma values_eq (t : Std.TreeMap κ β cmp) : t.values = t.toList.map Prod.snd := by
  have hfoldr : t.values = t.foldr (fun _ v values => v :: values) [] := rfl
  rw [hfoldr, Std.TreeMap.foldr_eq_foldr_toList, List.map_eq_foldr]

omit [Std.LawfulEqCmp cmp] in
lemma mem_iff_exists : k ∈ t ↔ ∃ v, t[k]? = some v := by
  rw [Std.TreeMap.mem_iff_isSome_getElem?, Option.isSome_iff_exists]

lemma getElem?_erase_eq_some {a : κ} {w : β} :
    (t.erase k)[a]? = some w ↔ k ≠ a ∧ t[a]? = some w := by
  rw [Std.TreeMap.getElem?_erase]
  split
  · next heq => simp [Std.LawfulEqCmp.eq_of_compare heq]
  · next hne =>
    have hka : k ≠ a := by
      rintro rfl
      exact hne Std.ReflCmp.compare_self
    simp [hka]

lemma getElem?_insert_eq_some {a : κ} {w : β} :
    (t.insert k v)[a]? = some w ↔ k = a ∧ v = w ∨ k ≠ a ∧ t[a]? = some w := by
  rw [Std.TreeMap.getElem?_insert]
  split
  · next heq => simp [Std.LawfulEqCmp.eq_of_compare heq]
  · next hne =>
    have hka : k ≠ a := by
      rintro rfl
      exact hne Std.ReflCmp.compare_self
    simp [hka]

/-- The entries of a table that agrees with `t` except for holding `v` under `k`. -/
lemma toList_perm_cons_erase {t' : Std.TreeMap κ β cmp}
    (h : ∀ a, t'[a]? = if cmp k a = .eq then some v else t[a]?) :
    t'.toList.Perm ((k, v) :: (t.erase k).toList) := by
  have hnew : (k, v) ∉ (t.erase k).toList := by
    rw [mem_toList, Std.TreeMap.getElem?_erase_self]
    simp
  refine (List.perm_ext_iff_of_nodup (nodup_toList _)
    (List.nodup_cons.mpr ⟨hnew, nodup_toList _⟩)).mpr ?_
  rintro ⟨a, b⟩
  rw [List.mem_cons, mem_toList, mem_toList, Std.TreeMap.getElem?_erase, h]
  by_cases hka : cmp k a = .eq
  · obtain rfl := Std.LawfulEqCmp.eq_of_compare hka
    simp [hka, eq_comm]
  · have hne : a ≠ k := by
      rintro rfl
      exact hka Std.ReflCmp.compare_self
    simp [hka, hne]

/-- An entry that is put in replaces the one of the same key. -/
lemma toList_insert (t : Std.TreeMap κ β cmp) (k : κ) (v : β) :
    (t.insert k v).toList.Perm ((k, v) :: (t.erase k).toList) :=
  toList_perm_cons_erase fun _ => Std.TreeMap.getElem?_insert

/-- An erased key takes its entry with it. -/
lemma toList_erase_of_getElem? (h : t[k]? = some v) :
    t.toList.Perm ((k, v) :: (t.erase k).toList) := by
  refine toList_perm_cons_erase fun a => ?_
  split
  · next hka => rw [← Std.LawfulEqCmp.eq_of_compare hka, h]
  · rfl

/-- A key that is not in the table can be erased without effect on the entries. -/
lemma toList_erase_of_not_mem (h : k ∉ t) : (t.erase k).toList.Perm t.toList := by
  refine (List.perm_ext_iff_of_nodup (nodup_toList _) (nodup_toList _)).mpr ?_
  rintro ⟨a, b⟩
  rw [mem_toList, mem_toList, Std.TreeMap.getElem?_erase]
  split
  · next hka =>
    obtain rfl := Std.LawfulEqCmp.eq_of_compare hka
    simp [Std.TreeMap.getElem?_eq_none h]
  · rfl

/-- A new key adds its entry. -/
lemma toList_insert_of_not_mem (h : k ∉ t) (v : β) :
    (t.insert k v).toList.Perm ((k, v) :: t.toList) :=
  (toList_insert t k v).trans ((toList_erase_of_not_mem h).cons _)

/-- An erased key makes the table smaller by one. -/
lemma size_erase_of_getElem? (h : t[k]? = some v) : (t.erase k).size + 1 = t.size := by
  have hlen := (toList_erase_of_getElem? h).length_eq
  rw [List.length_cons, Std.TreeMap.length_toList, Std.TreeMap.length_toList] at hlen
  exact hlen.symm

/-- Tables with the same keys have the same number of entries. -/
lemma size_eq_of_mem_iff {β' : Type} {t' : Std.TreeMap κ β' cmp} (h : ∀ k, k ∈ t ↔ k ∈ t') :
    t.size = t'.size := by
  have hperm : (t.toList.map Prod.fst).Perm (t'.toList.map Prod.fst) := by
    refine (List.perm_ext_iff_of_nodup (nodup_keys t) (nodup_keys t')).mpr fun k => ?_
    simp only [Std.TreeMap.map_fst_toList_eq_keys, Std.TreeMap.mem_keys, h k]
  simpa using hperm.length_eq

/-! ## The order of the entries -/

omit [Std.LawfulEqCmp cmp] in
/-- The entries are listed in the order of their keys, so they are determined by what they are. -/
lemma eq_toList_of_perm {l : List (κ × β)} (hsorted : l.Pairwise fun a b => cmp a.1 b.1 = .lt)
    (hperm : t.toList.Perm l) : t.toList = l := by
  refine hperm.eq_of_pairwise ?_ Std.TreeMap.ordered_keys_toList hsorted
  intro a b _ _ hab hba
  exact absurd (Std.OrientedCmp.gt_of_lt hab) (by simp [hba])

/-- An entry whose key is above all others comes last. -/
lemma toList_insert_last (h : ∀ e ∈ t.toList, cmp e.1 k = .lt) (v : β) :
    (t.insert k v).toList = t.toList ++ [(k, v)] := by
  have hnew : k ∉ t := by
    rw [mem_iff_exists]
    rintro ⟨w, hw⟩
    have hlt := h (k, w) (mem_toList.mpr hw)
    simp [Std.ReflCmp.compare_self] at hlt
  refine eq_toList_of_perm ?_ ((toList_insert_of_not_mem hnew v).trans
    (List.perm_append_singleton _ _).symm)
  refine List.pairwise_append.mpr
    ⟨Std.TreeMap.ordered_keys_toList, List.pairwise_singleton _ _, fun a ha b hb => ?_⟩
  rw [List.mem_singleton] at hb
  exact hb ▸ h a ha

/-- An erased key takes its entry out of the list. -/
lemma toList_erase_eq_filter (t : Std.TreeMap κ β cmp) (k : κ) :
    (t.erase k).toList = t.toList.filter fun e => cmp k e.1 != .eq := by
  refine eq_toList_of_perm (Std.TreeMap.ordered_keys_toList.filter _) ?_
  refine (List.perm_ext_iff_of_nodup (nodup_toList _) ((nodup_toList t).filter _)).mpr ?_
  rintro ⟨a, b⟩
  have hne : cmp k a ≠ .eq ↔ k ≠ a :=
    not_congr ⟨Std.LawfulEqCmp.eq_of_compare, fun heq => heq ▸ Std.ReflCmp.compare_self⟩
  rw [List.mem_filter, mem_toList, mem_toList, getElem?_erase_eq_some, and_comm, bne_iff_ne, hne]

end Table
end CacheSim
