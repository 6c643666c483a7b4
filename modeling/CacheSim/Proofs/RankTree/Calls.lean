import CacheSim.Proofs.RankTree.Ranks

/-!
# Ranked multisets as ascending lists

A ranked multiset is changed by three calls: a value is put in, one occurrence of a value is taken
out, everything is taken out.  The calls do the same to a plain list that is kept ascending, and
whatever is asked of the multiset after any calls can be read off that list.

* `RankTree.Call.perform`, `RankTree.Call.list`: a call to a multiset, and to an ascending list;
* `RankTree.Valid.walk_take`: a walk goes through the values in order;
* `RankTree.sorted_multiset_after_calls`: the multiset after any calls is the list after them.
-/

namespace CacheSim

variable {α : Type}

namespace RankTree

/-! ## Calls -/

/-- A call that changes a multiset. -/
inductive Call (α : Type) where
  /-- One occurrence of a value is put in. -/
  | insert (v : α)
  /-- One occurrence of a value is taken out, if there is one. -/
  | remove (v : α)
  /-- Everything is taken out. -/
  | clear

section Calls

variable [Ord α]

/-- Makes a call. -/
def Call.perform (t : RankTree α) : Call α → RankTree α
  | .insert v => t.insert v
  | .remove v => (t.remove v).2
  | .clear => t.clear

/-- What a call does to an ascending list. -/
def Call.list (l : List α) : Call α → List α
  | .insert v => l.orderedInsert (fun a b => (compare a b).isLE = true) v
  | .remove v => l.eraseP fun a => compare a v == .eq
  | .clear => []

/-- The answers of a multiset can be read off an ascending list.  A percentile is the element at the
clamped fraction of the length, truncated and at most the last one. -/
structure Reads [Inhabited α] (t : RankTree α) (l : List α) : Prop where
  size : t.size = l.length
  isEmpty : t.isEmpty = l.isEmpty
  walk : ∀ n, t.walk.take n = l.take n
  get? : ∀ i, t.get? i = l[i]?
  rank : ∀ v, t.rank v = l.countP fun a => compare a v == .lt
  min : t.min = l.head?.getD default
  max : t.max = l.getLast?.getD default
  percentile_nil : l = [] → ∀ p, t.percentile p = default
  percentile : l ≠ [] → ∀ p : Float,
    l[Nat.min (clampUnit p * (UInt64.ofNat l.length).toFloat).toUInt64.toNat (l.length - 1)]? =
      some (t.percentile p)
  percentile_nan : l ≠ [] → ∀ p : Float, p.isNaN = true → l[0]? = some (t.percentile p)
  percentile_mem : l ≠ [] → ∀ p, t.percentile p ∈ l

variable [Std.TransOrd α] [Std.LawfulEqOrd α] {t : RankTree α} {l : List α} {v : α}

/-! ## Ascending lists -/

/-- A list is ascending. -/
def Ascending (l : List α) : Prop :=
  l.Pairwise fun a b => (compare a b).isLE = true

omit [Std.TransOrd α] in
lemma eraseP_of_not_mem (hv : v ∉ l) : (l.eraseP fun a => compare a v == .eq) = l := by
  refine List.eraseP_of_forall_not fun a ha heq => hv ?_
  obtain rfl := Std.LawfulEqOrd.eq_of_compare (beq_iff_eq.mp heq)
  exact ha

omit [Std.TransOrd α] in
lemma perm_cons_eraseP (hv : v ∈ l) :
    l.Perm (v :: l.eraseP fun a => compare a v == .eq) := by
  have hself : (compare v v == .eq) = true := beq_iff_eq.mpr Std.ReflCmp.compare_self
  obtain ⟨a, before, after, -, heq, hl, herase⟩ :=
    List.exists_of_eraseP (p := fun a => compare a v == .eq) hv hself
  obtain rfl := Std.LawfulEqOrd.eq_of_compare (beq_iff_eq.mp heq)
  rw [herase]
  exact hl ▸ List.perm_middle

omit [Std.LawfulEqOrd α] in
lemma ascending_list (hl : Ascending l) (call : Call α) : Ascending (call.list l) := by
  cases call with
  | insert v =>
    have htotal : Std.Total fun a b : α => (compare a b).isLE = true := by
      refine ⟨fun a b => ?_⟩
      cases hab : compare a b with
      | lt | eq => exact Or.inl rfl
      | gt => exact Or.inr (by rw [Std.OrientedCmp.gt_iff_lt.mp hab]; rfl)
    have htrans : IsTrans α fun a b => (compare a b).isLE = true :=
      ⟨fun _ _ _ => Std.TransCmp.isLE_trans⟩
    exact List.Pairwise.orderedInsert v l hl
  | remove v => exact List.Pairwise.sublist List.eraseP_sublist hl
  | clear => exact List.Pairwise.nil

/-- Two ascending lists of the same values are the same. -/
lemma eq_of_perm {l' : List α} (hl : Ascending l) (hl' : Ascending l') (h : l.Perm l') : l = l' :=
  h.eq_of_pairwise (fun _ _ _ _ hab hba =>
    Std.LawfulEqOrd.eq_of_compare (Std.OrientedCmp.isLE_antisymm hab hba)) hl hl'

/-! ## The multiset and the list -/

omit [Std.TransOrd α] in
lemma Valid.ascending (h : t.Valid) : Ascending t.toList := by
  obtain ⟨s, hs⟩ := h
  rw [Ascending, hs.toList_eq, List.pairwise_map]
  refine hs.sorted.imp fun {a b} hbefore => ?_
  rcases RankKey.before_iff.mp hbefore with hlt | ⟨heq, -⟩
  · rw [hlt]
    rfl
  · have hself : compare b.value b.value = .eq := Std.ReflCmp.compare_self
    rw [heq, hself]
    rfl

/-- A value occurs if it is found. -/
lemma Valid.contains_iff (h : t.Valid) (v : α) : t.contains v = true ↔ v ∈ t.toList := by
  obtain ⟨s, hs⟩ := h
  rw [contains, Option.isSome_iff_exists]
  constructor
  · rintro ⟨key, hfind⟩
    obtain ⟨hmem, rfl⟩ := hs.mem_of_find? hfind
    rw [hs.toList_eq]
    exact List.mem_map_of_mem hmem
  · intro hv
    obtain ⟨item, -, -, hfind⟩ := hs.find?_eq_some hv
    exact ⟨item.key, hfind⟩

omit [Std.TransOrd α] [Std.LawfulEqOrd α] in
lemma erase_of_not_contains (h : ¬ t.contains v = true) : t.erase v = t := by
  rw [contains, Option.not_isSome_iff_eq_none] at h
  rw [erase, h]

/-- Multisets of the same values list them in the same way. -/
lemma Holds.toList_eq {t' : RankTree α} (h : t.Holds l) (h' : t'.Holds l) :
    t'.toList = t.toList :=
  eq_of_perm h'.valid.ascending h.valid.ascending (h'.perm.trans h.perm.symm)

lemma Holds.perform (h : t.Holds l) (call : Call α) : (call.perform t).Holds (call.list l) := by
  cases call with
  | insert v => exact (h.insert v).of_perm (List.perm_orderedInsert _ v l).symm
  | remove v =>
    by_cases hv : v ∈ l
    · exact (h.of_perm (perm_cons_eraseP hv)).erase
    · have hnot : ¬ t.contains v = true := by rwa [h.valid.contains_iff, h.perm.mem_iff]
      rw [Call.list, eraseP_of_not_mem hv, Call.perform, remove, erase_of_not_contains hnot]
      exact h
  | clear => exact Holds.clear t

/-- The multiset after any calls lists what the ascending list is after them. -/
lemma toList_after_calls (calls : List (Call α)) :
    (calls.foldl Call.perform ∅).Valid ∧ Ascending (calls.foldl Call.list []) ∧
      (calls.foldl Call.perform ∅).toList = calls.foldl Call.list [] := by
  have hrun : ∀ (t : RankTree α) l, t.Holds l → Ascending l →
      (calls.foldl Call.perform t).Holds (calls.foldl Call.list l) ∧
        Ascending (calls.foldl Call.list l) := by
    induction calls with
    | nil => exact fun t l h hl => ⟨h, hl⟩
    | cons call calls ih =>
      exact fun t l h hl => ih _ _ (h.perform call) (ascending_list hl call)
  obtain ⟨hholds, hl⟩ := hrun ∅ [] Holds.empty List.Pairwise.nil
  exact ⟨hholds.valid, hl, eq_of_perm hholds.valid.ascending hl hholds.perm⟩

/-! ## Answers -/

omit [Std.TransOrd α] [Std.LawfulEqOrd α] in
/-- A walk goes through the values in order, and ends with the last one. -/
lemma Valid.walk_take (h : t.Valid) (n : Nat) : t.walk.take n = t.toList.take n := by
  obtain ⟨s, hs⟩ := h
  rw [walk, hs.root, hs.stored.walk_take, hs.toList_eq]

/-- What can be read off the values of a valid multiset. -/
lemma Valid.reads [Inhabited α] (h : t.Valid) : t.Reads t.toList := by
  have hholds : t.Holds t.toList := ⟨h, List.Perm.refl _⟩
  have hpercentile : t.toList ≠ [] → ∀ p, t.toList[quantileIndex p t.toList.length]? =
      some (t.percentile p) := by
    intro hne p
    rw [← h.size_eq]
    exact hholds.percentile_eq_getElem hne p
  obtain ⟨s, hs⟩ := id h
  refine ⟨h.size_eq, ?_, h.walk_take, h.get?_eq, h.rank_eq, hs.min_eq, hs.max_eq, fun hnil p => ?_,
    hpercentile, fun hne p hp => ?_, fun hne p => hholds.percentile_mem hne p⟩
  · rw [isEmpty, h.size_eq, Bool.eq_iff_iff, beq_iff_eq, List.isEmpty_iff_length_eq_zero]
  · exact (hnil ▸ hholds : t.Holds []).percentile_nil p
  · rw [← hpercentile hne p, quantileIndex_nan hp]

/-- After any calls a multiset is the ascending list after them: it has its length, goes through it
in order, and gives its positions, ranks, ends and percentiles.  A removal tells whether the value
is in the list, and takes out one occurrence of it or nothing. -/
theorem sorted_multiset_after_calls [Inhabited α] (calls : List (Call α)) :
    let t := calls.foldl Call.perform ∅
    let l := calls.foldl Call.list []
    Ascending l ∧ t.Reads l ∧
      ∀ v, ((t.remove v).1 = true ↔ v ∈ l) ∧
        (v ∈ l → l.Perm (v :: (t.remove v).2.toList)) ∧ (v ∉ l → (t.remove v).2.toList = l) := by
  intro t l
  obtain ⟨hvalid, hl, hlist⟩ : t.Valid ∧ Ascending l ∧ t.toList = l := toList_after_calls calls
  have hmem : ∀ v, t.contains v = true ↔ v ∈ l := fun v => by
    rw [hvalid.contains_iff, hlist]
  have hreads : t.Reads l := hlist ▸ hvalid.reads
  refine ⟨hl, hreads, fun v => ⟨hmem v, fun hv => ?_, fun hv => ?_⟩⟩
  · rw [← hlist] at hv ⊢
    exact hvalid.toList_erase hv
  · rw [remove, erase_of_not_contains (mt (hmem v).mp hv)]
    exact hlist

/-- Numbers with a repeated one, of which one occurrence is taken out. -/
theorem sorted_multiset_of_repeated_numbers :
    let calls : List (Call Int) :=
      [.insert 3, .insert (-1), .insert 3, .remove 3, .remove 7, .insert 2]
    let t := calls.foldl Call.perform ∅
    let l := calls.foldl Call.list []
    l = [-1, 2, 3] ∧ Ascending l ∧ t.Reads l ∧
      ∀ v, ((t.remove v).1 = true ↔ v ∈ l) ∧
        (v ∈ l → l.Perm (v :: (t.remove v).2.toList)) ∧ (v ∉ l → (t.remove v).2.toList = l) :=
  ⟨by decide, sorted_multiset_after_calls
    [.insert 3, .insert (-1), .insert 3, .remove 3, .remove 7, .insert 2]⟩

end Calls
end RankTree
end CacheSim
