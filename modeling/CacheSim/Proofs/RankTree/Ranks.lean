import CacheSim.Proofs.Quantile
import CacheSim.Proofs.RankTree.Multiset

/-!
# Ranks and percentiles

The rank of a value is the number of values below it, and the value at a position is found by the
stored counts.  On a sorted and counted tree the two are inverse to each other: a value lies above
the one at position `i` exactly when more than `i` values lie below it.  So everything that can be
asked of a percentile can be asked of ranks, which do not depend on how a multiset came about.

* `RankTree.Holds.rank_eq`: the rank of a value counts the values below it;
* `RankTree.Holds.percentile_lt_iff`: percentiles are characterised by ranks;
* `RankTree.Holds.percentile_eq`: equal multisets have equal percentiles;
* `RankTree.Holds.percentile_zero_le`, `RankTree.Holds.le_percentile_one`: the first and the last
  percentile are bounds.
-/

namespace CacheSim

variable {α : Type}

/-! ## Ranks and percentiles of a multiset -/

namespace RankTree

variable {t t' : RankTree α} {l : List α} {v : α} {i n : Nat} {p : Float}

lemma Valid.get?_eq [Ord α] (h : t.Valid) (i : Nat) : t.get? i = t.toList[i]? :=
  let ⟨_, hs⟩ := h
  hs.get?_eq i

/-- In a list whose members with a property all come first, the one at a position has the property
exactly if more members than come before it have. -/
lemma getElem?_iff_lt_countP {P : α → Bool} {a : α}
    (hfirst : l.Pairwise fun a b => P b = true → P a = true) (ha : l[i]? = some a) :
    P a = true ↔ i < l.countP P := by
  induction l generalizing i with
  | nil => simp at ha
  | cons b l ih =>
    obtain ⟨hb, hl⟩ := List.pairwise_cons.mp hfirst
    have hnone : P b ≠ true → l.countP P = 0 := by
      intro hnot
      rw [List.countP_eq_zero]
      exact fun d hd hP => hnot (hb d hd hP)
    rw [List.countP_cons]
    cases i with
    | zero =>
      obtain rfl : b = a := Option.some.inj ha
      split
      · next hP => simpa using hP
      · next hnot => simpa [hnone hnot] using hnot
    | succ i =>
      rw [ih hl ha]
      split
      · omega
      · next hnot =>
        rw [hnone hnot]
        omega

variable [Ord α] [Std.TransOrd α] [Std.LawfulEqOrd α]

lemma Valid.rank_eq (h : t.Valid) (v : α) :
    t.rank v = t.toList.countP fun a => compare a v == .lt := by
  obtain ⟨s, hs⟩ := h
  rw [rank, hs.root, hs.stored.countBelow_eq hs.sorted hs.counted, hs.toList_eq, List.countP_map,
    Nat.zero_add]
  rfl

/-- The values of a valid multiset that lie below another one come first. -/
lemma Valid.pairwise_below (h : t.Valid) (v : α) :
    t.toList.Pairwise fun a b => (compare b v == .lt) = true → (compare a v == .lt) = true := by
  obtain ⟨s, hs⟩ := h
  rw [hs.toList_eq, List.pairwise_map]
  refine hs.sorted.imp fun {a b} hbefore hlt => ?_
  rw [beq_iff_eq] at hlt ⊢
  by_contra hnot
  exact RankKey.value_not_lt_of_before hbefore hnot hlt

namespace Holds

/-- The rank of a value counts the values below it. -/
lemma rank_eq (h : t.Holds l) (v : α) : t.rank v = l.countP fun a => compare a v == .lt := by
  rw [h.valid.rank_eq, h.perm.countP_eq]

variable [Inhabited α]

omit [Std.TransOrd α] [Std.LawfulEqOrd α] in
lemma percentile_nil (h : t.Holds []) (p : Float) : t.percentile p = default := by
  have hsize : t.size = 0 := h.size_eq
  rw [percentile, if_pos hsize]

omit [Std.TransOrd α] [Std.LawfulEqOrd α] in
/-- A percentile is one of the values. -/
lemma percentile_eq_getElem (h : t.Holds l) (hl : l ≠ []) (p : Float) :
    t.toList[quantileIndex p t.size]? = some (t.percentile p) := by
  have hpos : 0 < t.size := by
    rw [h.size_eq]
    exact List.length_pos_iff.mpr hl
  have hsize : quantileIndex p t.size < t.toList.length := by
    rw [← h.valid.size_eq]
    exact quantileIndex_lt p hpos
  rw [percentile, if_neg hpos.ne', h.valid.get?_eq, List.getElem?_eq_getElem hsize]
  rfl

omit [Std.TransOrd α] [Std.LawfulEqOrd α] in
lemma percentile_mem (h : t.Holds l) (hl : l ≠ []) (p : Float) : t.percentile p ∈ l :=
  h.perm.mem_iff.mp (List.mem_of_getElem? (h.percentile_eq_getElem hl p))

/-- A percentile lies below a value exactly if the rank of the value exceeds the position of the
percentile. -/
lemma percentile_lt_iff (h : t.Holds l) (hl : l ≠ []) (p : Float) (v : α) :
    compare (t.percentile p) v = .lt ↔ quantileIndex p t.size < t.rank v := by
  rw [h.valid.rank_eq, ← beq_iff_eq]
  exact getElem?_iff_lt_countP (h.valid.pairwise_below v) (h.percentile_eq_getElem hl p)

/-- Equal multisets have equal percentiles. -/
lemma percentile_eq (h : t.Holds l) (h' : t'.Holds l) (p : Float) :
    t.percentile p = t'.percentile p := by
  have hsize : t.size = t'.size := h.size_eq.trans h'.size_eq.symm
  by_cases hl : l = []
  · subst hl
    rw [h.percentile_nil, h'.percentile_nil]
  · have hbelow : ∀ v, compare (t.percentile p) v = .lt ↔ compare (t'.percentile p) v = .lt := by
      intro v
      rw [h.percentile_lt_iff hl, h'.percentile_lt_iff hl, hsize, h.rank_eq, h'.rank_eq]
    have hlt := mt (hbelow (t'.percentile p)).mp (by simp [Std.ReflCmp.compare_self])
    have hgt := mt (hbelow (t.percentile p)).mpr (by simp [Std.ReflCmp.compare_self])
    refine Std.LawfulEqOrd.eq_of_compare ?_
    cases hcmp : compare (t.percentile p) (t'.percentile p) with
    | lt => exact absurd hcmp hlt
    | eq => rfl
    | gt => exact absurd (Std.OrientedCmp.gt_iff_lt.mp hcmp) hgt

/-- No value lies below the lowest percentile. -/
lemma percentile_zero_le (h : t.Holds l) (hv : v ∈ l) : compare v (t.percentile 0.0) ≠ .lt := by
  intro hlt
  have hself := h.percentile_lt_iff (List.ne_nil_of_mem hv) 0.0 (t.percentile 0.0)
  rw [quantileIndex_zero, h.rank_eq, List.countP_pos_iff] at hself
  exact absurd (hself.mpr ⟨v, hv, beq_iff_eq.mpr hlt⟩) (by simp [Std.ReflCmp.compare_self])

/-- No value lies above the highest percentile. -/
lemma le_percentile_one (h : t.Holds l) (hv : v ∈ l) (hfew : t.size < 2 ^ 53) :
    compare (t.percentile 1.0) v ≠ .lt := by
  -- the value itself does not count towards its rank
  have hrank : t.rank v < t.size := by
    rw [h.rank_eq, h.size_eq, List.countP_lt_length_iff]
    exact ⟨v, hv, by simp [Std.ReflCmp.compare_self]⟩
  rw [ne_eq, h.percentile_lt_iff (List.ne_nil_of_mem hv), quantileIndex_one hfew]
  omega

end Holds
end RankTree
end CacheSim
