import CacheSim.Proofs.RankTree.Shape

/-!
# The search order of a ranked multiset

The keys of a tree are ordered by value, then by the number under which they entered.  A tree is
`RankShape.Sorted` when its keys are listed in this order.  Splitting, joining and erasing keep it.

The main results are

* `RankShape.split_below`, `RankShape.split_above`: a sorted tree is split at the pivot;
* `RankShape.Sorted.insert`: a key with a number of its own is put where it belongs;
* `RankShape.Sorted.items_erase`: from a sorted tree exactly the given item is erased.
-/

namespace CacheSim

variable {α : Type} [Ord α] [Std.TransOrd α] [Std.LawfulEqOrd α]

/-! ## The order of keys -/

namespace RankKey

variable {a b c : RankKey α} {v : α}

omit [Std.TransOrd α] in
lemma before_iff :
    a.before b = true ↔ compare a.value b.value = .lt ∨ a.value = b.value ∧ a.uid < b.uid := by
  unfold before
  split
  · next h => simp [h]
  · next h => simp [Std.LawfulEqOrd.eq_of_compare h]
  · next h =>
    have hne : a.value ≠ b.value := fun heq => by simp [Std.compare_eq_iff_eq.mpr heq] at h
    simp [h, hne]

lemma before_trans (hab : a.before b = true) (hbc : b.before c = true) : a.before c = true := by
  rw [before_iff] at *
  rcases hab with hab | ⟨hab, hab'⟩
  · rcases hbc with hbc | ⟨hbc, -⟩
    · exact Or.inl (Std.TransCmp.lt_trans hab hbc)
    · exact Or.inl (hbc ▸ hab)
  · rcases hbc with hbc | ⟨hbc, hbc'⟩
    · exact Or.inl (hab ▸ hbc)
    · exact Or.inr ⟨hab.trans hbc, Nat.lt_trans hab' hbc'⟩

lemma before_asymm (hab : a.before b = true) : b.before a = false := by
  rw [← Bool.not_eq_true]
  intro hba
  rcases before_iff.mp (before_trans hab hba) with h | ⟨-, h⟩
  · simp at h
  · omega

/-- Keys that entered under different numbers are ordered one way or the other. -/
lemma before_of_not_before (hne : a.uid ≠ b.uid) (h : a.before b = false) : b.before a = true := by
  rw [← Bool.not_eq_true, before_iff, not_or] at h
  rw [before_iff]
  cases hc : compare b.value a.value with
  | lt => exact Or.inl rfl
  | eq =>
    have heq : b.value = a.value := Std.LawfulEqOrd.eq_of_compare hc
    have hge : ¬ a.uid < b.uid := fun hlt => h.2 ⟨heq.symm, hlt⟩
    exact Or.inr ⟨heq, by omega⟩
  | gt => exact absurd (Std.OrientedCmp.gt_iff_lt.mp hc) h.1

omit [Std.TransOrd α] in
/-- The number zero comes first, so a key with it is a bound for its value. -/
lemma before_zero : a.before ⟨v, 0⟩ = true ↔ compare a.value v = .lt := by
  simp [before_iff]

lemma value_not_lt_of_before (h : a.before b = true) (ha : compare a.value v ≠ .lt) :
    compare b.value v ≠ .lt := by
  intro hb
  rcases before_iff.mp h with hab | ⟨hab, -⟩
  · exact ha (Std.TransCmp.lt_trans hab hb)
  · exact ha (hab ▸ hb)

end RankKey

namespace RankShape

/-- The keys of a tree are listed in their order. -/
def Sorted (t : RankShape α) : Prop :=
  t.keys.Pairwise fun a b => a.before b = true

variable {t l r : RankShape α} {k : RankItem α} {key pivot : RankKey α} {c : Nat}

lemma sorted_node : (node l k c r).Sorted ↔
    l.Sorted ∧ r.Sorted ∧ (∀ a ∈ l.keys, a.before k.key = true) ∧
      (∀ b ∈ r.keys, k.key.before b = true) := by
  simp only [Sorted, keys_node, List.pairwise_append, List.pairwise_cons, List.forall_mem_cons]
  constructor
  · rintro ⟨hl, ⟨hkr, hr⟩, hcross⟩
    exact ⟨hl, hr, fun a ha => (hcross a ha).1, hkr⟩
  · rintro ⟨hl, hr, hlk, hkr⟩
    exact ⟨hl, ⟨hkr, hr⟩, fun a ha =>
      ⟨hlk a ha, fun b hb => RankKey.before_trans (hlk a ha) (hkr b hb)⟩⟩

/-! ## Splitting -/

omit [Std.TransOrd α] [Std.LawfulEqOrd α] in
lemma mem_of_mem_split_right (h : key ∈ (t.split pivot).2.keys) : key ∈ t.keys := by
  rw [← keys_split pivot t]
  exact List.mem_append_right _ h

/-- The first part of a split lies below the pivot. -/
lemma split_below (hs : t.Sorted) (pivot : RankKey α) :
    ∀ a ∈ (t.split pivot).1.keys, a.before pivot = true := by
  induction t with
  | leaf => simp [split, keys, items]
  | node l k c r ihl ihr =>
    obtain ⟨hl, hr, hlk, -⟩ := sorted_node.mp hs
    intro a ha
    rw [split] at ha
    split at ha
    · next hk =>
      rw [keys_join] at ha
      rcases List.mem_append.mp ha with ha | ha
      · exact RankKey.before_trans (hlk a ha) hk
      · rcases List.mem_cons.mp ha with rfl | ha
        · exact hk
        · exact ihr hr a ha
    · exact ihl hl a ha

/-- The second part of a split does not lie below the pivot. -/
lemma split_above (hs : t.Sorted) (pivot : RankKey α) :
    ∀ a ∈ (t.split pivot).2.keys, a.before pivot = false := by
  induction t with
  | leaf => simp [split, keys, items]
  | node l k c r ihl ihr =>
    obtain ⟨hl, hr, -, hkr⟩ := sorted_node.mp hs
    intro a ha
    rw [split] at ha
    split at ha
    · exact ihr hr a ha
    · next hk =>
      rw [keys_join] at ha
      rcases List.mem_append.mp ha with ha | ha
      · exact ihl hl a ha
      · rcases List.mem_cons.mp ha with rfl | ha
        · exact Bool.not_eq_true _ ▸ hk
        · -- a key above `k` that lay below the pivot would put `k` below it too
          rw [← Bool.not_eq_true]
          exact fun hap => hk (RankKey.before_trans (hkr a ha) hap)

/-- A key with a number of its own is put where it belongs. -/
lemma Sorted.insert (hs : t.Sorted) (hnew : ∀ a ∈ t.keys, a.uid ≠ k.key.uid) :
    (t.insert k).Sorted := by
  have hbelow := split_below hs k.key
  -- what is not below the new key is above it
  have habove : ∀ b ∈ (t.split k.key).2.keys, k.key.before b = true := fun b hb =>
    RankKey.before_of_not_before (hnew b (mem_of_mem_split_right hb)) (split_above hs k.key b hb)
  have hparts : ((t.split k.key).1.keys ++ (t.split k.key).2.keys).Pairwise
      fun a b => a.before b = true := by
    rw [keys_split]
    exact hs
  obtain ⟨hl, hr, hcross⟩ := List.pairwise_append.mp hparts
  have hkeys : (t.insert k).keys = (t.split k.key).1.keys ++ k.key :: (t.split k.key).2.keys := by
    rw [keys, items_insert]
    simp [keys]
  rw [Sorted, hkeys]
  refine List.pairwise_append.mpr ⟨hl, List.pairwise_cons.mpr ⟨habove, hr⟩, fun a ha b hb => ?_⟩
  rcases List.mem_cons.mp hb with rfl | hb
  · exact hbelow a ha
  · exact hcross a ha b hb

/-! ## Searching -/

omit [Std.TransOrd α] [Std.LawfulEqOrd α] in
/-- The first key from a value on is before all others from that value on. -/
lemma Sorted.find?_before {v : α} (hs : t.Sorted)
    (hfind : (t.keys.find? fun k => compare k.value v != .lt) = some key) :
    ∀ k ∈ t.keys, compare k.value v ≠ .lt → k = key ∨ key.before k = true := by
  obtain ⟨-, before, after, hsplit, hbefore⟩ := List.find?_eq_some_iff_append.mp hfind
  intro k hk hnlt
  rw [Sorted, hsplit] at hs
  rw [hsplit] at hk
  rcases List.mem_append.mp hk with hk | hk
  · exact absurd (hbefore k hk) (by simpa using hnlt)
  · rcases List.mem_cons.mp hk with rfl | hk
    · exact Or.inl rfl
    · exact Or.inr ((List.pairwise_cons.mp (List.pairwise_append.mp hs).2.1).1 k hk)

/-! ## Erasing -/

omit [Ord α] [Std.TransOrd α] [Std.LawfulEqOrd α] in
lemma mem_keys_of_mem_items (h : k ∈ t.items) : k.key ∈ t.keys :=
  List.mem_map_of_mem h

/-- From a sorted tree exactly the given item is erased, and its slot is found. -/
lemma Sorted.items_erase (hs : t.Sorted) (hmem : k ∈ t.items) :
    ∃ before after, t.items = before ++ k :: after ∧
      (t.erase k.key).items = before ++ after ∧ t.slotOf? k.key = some k.slot := by
  induction t with
  | leaf => simp [items] at hmem
  | node l k' c r ihl ihr =>
    obtain ⟨hl, hr, hlk, hkr⟩ := sorted_node.mp hs
    rw [items, List.mem_append, List.mem_cons] at hmem
    -- the item is on the side of `k'` to which the search goes
    rcases hmem with hmem | rfl | hmem
    · have hbefore := hlk _ (mem_keys_of_mem_items hmem)
      obtain ⟨before, after, hitems, herase, hslot⟩ := ihl hl hmem
      refine ⟨before, after ++ k' :: r.items, ?_, ?_, ?_⟩
      · rw [items, hitems, List.append_assoc, List.cons_append]
      · rw [erase, if_pos hbefore, items_join, herase, List.append_assoc]
      · rw [slotOf?, if_pos hbefore, hslot]
    · have hself : k.key.before k.key = false := by simp [RankKey.before]
      refine ⟨l.items, r.items, rfl, ?_, ?_⟩
      · simp [erase, hself]
      · simp [slotOf?, hself]
    · have hbefore := hkr _ (mem_keys_of_mem_items hmem)
      have hnot := RankKey.before_asymm hbefore
      obtain ⟨before, after, hitems, herase, hslot⟩ := ihr hr hmem
      refine ⟨l.items ++ k' :: before, after, ?_, ?_, ?_⟩
      · rw [items, hitems, List.append_assoc, List.cons_append]
      · rw [erase, hnot, if_neg Bool.false_ne_true, if_pos hbefore, items_join, herase,
          List.append_assoc, List.cons_append]
      · rw [slotOf?, hnot, if_neg Bool.false_ne_true, if_pos hbefore, hslot]

lemma Sorted.slotOf?_eq (hs : t.Sorted) (hmem : k ∈ t.items) : t.slotOf? k.key = some k.slot := by
  obtain ⟨-, -, -, -, hslot⟩ := hs.items_erase hmem
  exact hslot

lemma Sorted.keys_erase (hs : t.Sorted) (hmem : k ∈ t.items) :
    t.keys.Perm (k.key :: (t.erase k.key).keys) := by
  obtain ⟨before, after, hitems, herase, -⟩ := hs.items_erase hmem
  rw [keys, keys, hitems, herase]
  simp

end RankShape
end CacheSim
