import CacheSim.Proofs.RankTree.FreeSlots
import CacheSim.Proofs.RankTree.HeapOrder
import CacheSim.Proofs.RankTree.LiveKeys

/-!
# The tree after any calls

Whatever calls were made to a ranked multiset, its links form one finite tree, which is a search
tree on its keys and a heap on their weights, and every slot of the arena is either free or that of
one node.  Slots are opened only while none is free, so there are as many of them as there were
values at most since everything was last taken out.  No operation touches a free slot.

* `RankTree.Treap`: the tree that the links form, with all that is kept of it;
* `RankTree.exists_treap`: what one call keeps, any calls keep;
* `RankTree.arena_size_after_calls`: how many slots there are;
* `RankTree.treap_after_calls`: the tree, the slots and the operations after any calls.
-/

namespace CacheSim
namespace RankTree

variable {α : Type} [Ord α] {t : RankTree α} {s : RankShape α} {v : α} {sizes : List Nat}

/-- The tree that the links of a multiset form is in order and a heap, and its root stores the
number of values. -/
structure Treap (t : RankTree α) (s : RankShape α) : Prop extends t.Shaped s where
  heaped : s.Heaped
  count_eq : s.count = t.size

lemma Shaped.treap (h : t.Shaped s) (hs : s.Heaped) : t.Treap s :=
  ⟨h, hs, h.counted.count_eq.trans h.size_eq.symm⟩

/-- While all numbers are words, no two nodes are equally heavy. -/
lemma Shaped.nodup_weights (h : t.Shaped s) (hroom : t.nextUid ≤ 2 ^ 64) :
    (s.keys.map RankKey.weight).Nodup :=
  RankKey.nodup_weights h.uids fun k hk => (h.uid_lt k hk).trans_le hroom

/-! ## One call -/

/-- Whether a call puts a value in. -/
def Call.isInsert : Call α → Bool
  | .insert _ => true
  | .remove _ | .clear => false

lemma treap_leaf (nextUid : Nat) : Treap (α := α) ⟨{}, none, 0, nextUid⟩ .leaf :=
  (shaped_leaf nextUid).treap trivial

lemma nextUid_perform (t : RankTree α) (call : Call α) :
    (call.perform t).nextUid = t.nextUid + [call].countP Call.isInsert := by
  cases call with
  | insert v => rfl
  | remove v => exact nextUid_erase t v
  | clear => rfl

variable [Std.TransOrd α] [Std.LawfulEqOrd α]

lemma Treap.insert (h : t.Treap s) (hroom : t.nextUid < 2 ^ 64) (v : α) :
    (t.insert v).Treap (s.insert (t.newItem v)) := by
  have hinsert := h.toShaped.insert v
  refine hinsert.treap (h.heaped.insert ?_)
  have hnodup := hinsert.nodup_weights hroom
  exact ((s.keys_insert_perm (t.newItem v)).map _).nodup_iff.mp hnodup

lemma Treap.erase (h : t.Treap s) (hroom : t.nextUid ≤ 2 ^ 64) {item : RankItem α}
    (hmem : item ∈ s.items) (hfind : t.find? v = some item.key) :
    (t.erase v).Treap (s.erase item.key) :=
  (h.toShaped.erase hmem hfind).treap (h.heaped.erase (h.nodup_weights hroom) item.key)

/-- A call leads from one tree to another. -/
lemma Treap.exists_perform (h : t.Treap s) (call : Call α)
    (hroom : t.nextUid + [call].countP Call.isInsert ≤ 2 ^ 64) :
    ∃ s', (call.perform t).Treap s' := by
  cases call with
  | insert v => exact ⟨_, h.insert hroom v⟩
  | remove v =>
    rcases h.erase_cases v with ⟨item, hmem, -, hfind⟩ | ⟨-, hsame⟩
    · exact ⟨_, h.erase hroom hmem hfind⟩
    · have hperform : (Call.remove v).perform t = t := hsame
      rw [hperform]
      exact ⟨s, h⟩
  | clear => exact ⟨.leaf, treap_leaf t.nextUid⟩

/-! ## Any calls -/

omit [Std.TransOrd α] [Std.LawfulEqOrd α] in
/-- A number has been given out for every insertion. -/
lemma nextUid_after_calls (calls : List (Call α)) :
    (calls.foldl Call.perform (∅ : RankTree α)).nextUid = calls.countP Call.isInsert := by
  induction calls using List.reverseRecOn with
  | nil => rfl
  | append_singleton calls call ih =>
    rw [List.foldl_concat, nextUid_perform, ih, List.countP_append]

/-- After fewer insertions than there are words the links form a search tree and a heap. -/
lemma exists_treap (calls : List (Call α)) (hfew : calls.countP Call.isInsert < 2 ^ 64) :
    ∃ s, (calls.foldl Call.perform ∅).Treap s := by
  induction calls using List.reverseRecOn with
  | nil => exact ⟨.leaf, treap_leaf 0⟩
  | append_singleton calls call ih =>
    rw [List.countP_append] at hfew
    obtain ⟨s, hs⟩ := ih (by omega)
    rw [List.foldl_concat]
    refine hs.exists_perform call ?_
    rw [nextUid_after_calls]
    exact hfew.le

/-! ## Slots -/

/-- Makes a call, and notes the size after it.  Taking everything out starts a new list of sizes. -/
def Call.follow (state : RankTree α × List Nat) (call : Call α) : RankTree α × List Nat :=
  let t := call.perform state.1
  match call with
  | .clear => (t, [t.size])
  | .insert _ | .remove _ => (t, t.size :: state.2)

/-- The sizes of a multiset during calls since everything was last taken out, the latest first. -/
def sizesSinceClear (calls : List (Call α)) : List Nat :=
  (calls.foldl Call.follow (∅, [0])).2

omit [Std.TransOrd α] [Std.LawfulEqOrd α] in
lemma foldl_follow_fst (calls : List (Call α)) (state : RankTree α × List Nat) :
    (calls.foldl Call.follow state).1 = calls.foldl Call.perform state.1 := by
  induction calls generalizing state with
  | nil => rfl
  | cons call calls ih =>
    rw [List.foldl_cons, ih]
    cases call <;> rfl

omit [Std.TransOrd α] [Std.LawfulEqOrd α] in
lemma Shaped.arena_size (h : t.Shaped s) :
    t.arena.nodes.size = t.size + t.arena.free.length := by
  have hlength := h.slots.length_eq
  rw [List.length_append, List.length_range] at hlength
  rw [h.size_eq, ← hlength, RankShape.keys, RankShape.slots, List.length_map, List.length_map]

omit [Std.TransOrd α] [Std.LawfulEqOrd α] in
/-- A slot is opened only if there are as many values as slots. -/
lemma Shaped.arena_size_insert (h : t.Shaped s) (v : α) :
    (t.insert v).arena.nodes.size = Max.max t.arena.nodes.size (t.size + 1) := by
  obtain ⟨nodes', hinsert, -, hsize⟩ := h.exists_insert v
  have hslots := h.arena_size
  rw [hinsert, hsize]
  split
  · next hfree =>
    rw [hfree, List.length_nil] at hslots
    exact hslots ▸ (Nat.max_eq_right (Nat.le_succ _)).symm
  · next hfree =>
    have hpos := List.length_pos_iff.mpr hfree
    exact (Nat.max_eq_left (by omega)).symm

lemma Shaped.arena_size_erase (h : t.Shaped s) (v : α) :
    (t.erase v).arena.nodes.size = t.arena.nodes.size := by
  rcases h.erase_cases v with ⟨item, hmem, -, hfind⟩ | ⟨-, hsame⟩
  · obtain ⟨nodes', herase, -, hsize⟩ := h.exists_erase hmem hfind
    rw [herase, hsize]
  · rw [hsame]

omit [Std.TransOrd α] [Std.LawfulEqOrd α] in
lemma size_erase_le (t : RankTree α) (v : α) : (t.erase v).size ≤ t.size := by
  rw [RankTree.erase]
  split
  · exact le_rfl
  · exact Nat.sub_le _ _

lemma isGreatest_cons {n m : Nat} (h : IsGreatest {size | size ∈ sizes} m) :
    IsGreatest {size | size ∈ n :: sizes} (Max.max n m) := by
  have hset : {size | size ∈ n :: sizes} = Insert.insert n {size | size ∈ sizes} := by
    ext size
    simp
  rw [hset]
  exact h.insert n

/-- If there are as many slots as there were values at most, there still are after a call. -/
lemma Shaped.follow (h : t.Shaped s) (hsizes : IsGreatest {size | size ∈ sizes} t.arena.nodes.size)
    (call : Call α) : IsGreatest {size | size ∈ (call.follow (t, sizes)).2}
      (call.perform t).arena.nodes.size := by
  cases call with
  | insert v =>
    rw [Call.perform, h.arena_size_insert, Nat.max_comm]
    exact isGreatest_cons hsizes
  | remove v =>
    have hle : (t.erase v).size ≤ t.arena.nodes.size := by
      rw [h.arena_size]
      exact (size_erase_le t v).trans (Nat.le_add_right _ _)
    have hsize : (t.remove v).2.arena.nodes.size = Max.max (t.erase v).size t.arena.nodes.size :=
      (h.arena_size_erase v).trans (Nat.max_eq_right hle).symm
    rw [Call.perform, hsize]
    exact isGreatest_cons hsizes
  | clear => exact ⟨List.mem_singleton.mpr rfl, fun n hn => (List.mem_singleton.mp hn).le⟩

/-- There are as many slots as there were values at most since everything was last taken out. -/
lemma arena_size_after_calls (calls : List (Call α)) :
    IsGreatest {size | size ∈ sizesSinceClear calls}
      (calls.foldl Call.perform (∅ : RankTree α)).arena.nodes.size := by
  induction calls using List.reverseRecOn with
  | nil => exact ⟨List.mem_singleton.mpr rfl, fun n hn => (List.mem_singleton.mp hn).le⟩
  | append_singleton calls call ih =>
    obtain ⟨s, hs⟩ := (toList_after_calls calls).1
    have hstate : calls.foldl Call.follow ((∅ : RankTree α), [0]) =
        (calls.foldl Call.perform ∅, sizesSinceClear calls) :=
      Prod.ext (foldl_follow_fst calls _) rfl
    rw [sizesSinceClear, List.foldl_concat, List.foldl_concat, hstate]
    exact hs.follow ih call

/-! ## The state after any calls -/

/-- What is kept of a multiset that holds `keys` and has had `sizes` since it was last cleared.
Splitting its tree anywhere, joining the parts, putting the next key in and taking any key out come
to an end, and touch no free slot. -/
structure Kept (t : RankTree α) (keys : List (RankKey α)) (sizes : List Nat) : Prop where
  treap : ∃ s, t.Treap s ∧ s.keys.Perm keys
  slots : IsGreatest {size | size ∈ sizes} t.arena.nodes.size
  split : ∀ pivot, t.arena.Spares fun _ a => a.split pivot t.root
  merge : ∀ pivot, ∃ l r a, t.arena.split pivot t.root = some ((l, r), a) ∧
    a.Spares fun _ a => a.merge l r
  insert : ∀ v, ∃ slot a, t.arena.alloc ⟨v, t.nextUid⟩ = some (slot, a) ∧
    a.Spares fun _ a => a.graft ⟨v, t.nextUid⟩ slot t.root
  erase : ∀ key, t.arena.Spares fun release a => a.eraseWith release key t.root

/-- After any calls the links form a search tree and a heap of the keys that were put in and not
taken out, in the slots that are not free.  There are as many slots as there were values at most
since everything was last taken out, and no operation touches a free one. -/
theorem treap_after_calls (calls : List (Call α)) (hfew : calls.countP Call.isInsert < 2 ^ 64) :
    (calls.foldl Call.perform ∅).Kept (calls.foldl Call.keys ([], 0)).1
      (sizesSinceClear calls) := by
  obtain ⟨s, hs⟩ := exists_treap calls hfew
  exact ⟨⟨s, hs, hs.liveKeys_perm.symm.trans (liveKeys_after_calls calls)⟩,
    arena_size_after_calls calls, hs.spares_split, hs.spares_merge, hs.spares_graft,
    hs.spares_erase⟩

/-- A number with a repeated one, a slot that is used again, and slots that were closed. -/
theorem treap_of_repeated_numbers :
    let calls : List (Call Int) :=
      [.insert 8, .insert 8, .insert 9, .clear, .insert 3, .insert (-1), .remove 3, .insert 3]
    calls.countP Call.isInsert < 2 ^ 64 ∧
      (calls.foldl Call.perform ∅).Kept [⟨-1, 4⟩, ⟨3, 5⟩] (sizesSinceClear calls) :=
  ⟨by decide, treap_after_calls
    [.insert 8, .insert 8, .insert 9, .clear, .insert 3, .insert (-1), .remove 3, .insert 3]
    (by decide)⟩

end RankTree
end CacheSim
