import CacheSim.Proofs.RankTree.Calls

/-!
# The keys that are live

The keys of a ranked multiset are in the slots of its arena that are not free.  Which keys these are
does not depend on the tree: a call does to the list of them, kept in the order of their insertion,
what it says.  Of several occurrences of a value the one that was put in first is taken out.

* `RankTree.liveKeys`, `RankTree.liveNodes`: the keys in the arena, and the nodes with them;
* `RankTree.Shaped.weight_eq`: such a node has the weight of its key;
* `RankTree.liveKeys_after_calls`: the keys after any calls, by calls on a list.
-/

namespace CacheSim

variable {α : Type}

/-- An item of a stored tree is in its slot, with the weight of its key. -/
lemma RankShape.Stored.exists_node {nodes : Array (RankNode α)} {t : RankShape α}
    (h : t.Stored nodes) : ∀ item ∈ t.items, ∃ c l r,
      nodes[item.slot]? = some ⟨item.key, item.key.weight, c, l, r⟩ := by
  induction t with
  | leaf => exact nofun
  | node l k c r ihl ihr =>
    obtain ⟨hk, hl, hr⟩ := h
    intro item hitem
    rw [items, List.mem_append, List.mem_cons] at hitem
    rcases hitem with hitem | rfl | hitem
    · exact ihl hl item hitem
    · exact ⟨c, l.link, r.link, hk⟩
    · exact ihr hr item hitem

lemma RankShape.Stored.key_eq {nodes : Array (RankNode α)} {t : RankShape α} (h : t.Stored nodes) :
    ∀ item ∈ t.items, nodes[item.slot]?.map RankNode.key = some item.key := by
  intro item hitem
  obtain ⟨c, l, r, hnode⟩ := h.exists_node item hitem
  rw [hnode]
  rfl

namespace RankTree

/-- The keys in the slots that are not free. -/
def liveKeys (t : RankTree α) : List (RankKey α) :=
  (List.range t.arena.nodes.size).filterMap fun slot =>
    if slot ∈ t.arena.free then none else t.arena.nodes[slot]?.map RankNode.key

/-- The nodes in the slots that are not free. -/
def liveNodes (t : RankTree α) : List (RankNode α) :=
  (List.range t.arena.nodes.size).filterMap fun slot =>
    if slot ∈ t.arena.free then none else t.arena.nodes[slot]?

lemma map_key_liveNodes (t : RankTree α) : t.liveNodes.map RankNode.key = t.liveKeys := by
  rw [liveNodes, liveKeys, List.map_filterMap]
  refine List.filterMap_congr fun slot _ => ?_
  split <;> rfl

/-- What a call does to the keys in the order of their insertion, and to the number of the next
one. -/
def Call.keys [Ord α] (state : List (RankKey α) × Nat) : Call α → List (RankKey α) × Nat
  | .insert v => (state.1 ++ [⟨v, state.2⟩], state.2 + 1)
  | .remove v => (state.1.eraseP fun k => compare k.value v == .eq, state.2)
  | .clear => ([], state.2)

variable [Ord α] {t : RankTree α} {s : RankShape α} {v : α}

/-- The live keys are those of the tree. -/
lemma Shaped.liveKeys_perm (h : t.Shaped s) : t.liveKeys.Perm s.keys := by
  set key := fun slot =>
    if slot ∈ t.arena.free then none else t.arena.nodes[slot]?.map RankNode.key
  have hfree : t.arena.free.filterMap key = [] :=
    List.filterMap_eq_nil_iff.mpr fun slot hslot => if_pos hslot
  have hslots : s.slots.filterMap key = s.keys := by
    rw [RankShape.slots, List.filterMap_map, RankShape.keys, ← List.filterMap_eq_map]
    refine List.filterMap_congr fun item hitem => ?_
    have hnot : item.slot ∉ t.arena.free :=
      (List.nodup_append'.mp h.nodup_slots).2.2 (List.mem_map_of_mem hitem)
    exact (if_neg hnot).trans (h.stored.key_eq item hitem)
  have hall := h.slots.filterMap key
  rw [List.filterMap_append, hfree, List.append_nil, hslots] at hall
  exact hall.symm

lemma Shaped.weight_eq (h : t.Shaped s) :
    ∀ node ∈ t.liveNodes, node.weight = node.key.weight := by
  intro node hnode
  obtain ⟨slot, hslot, hget⟩ := List.mem_filterMap.mp hnode
  split at hget
  · cases hget
  · next hfree =>
    have hmem : slot ∈ s.slots :=
      (List.mem_append.mp (h.slots.mem_iff.mpr hslot)).resolve_right hfree
    obtain ⟨item, hitem, rfl⟩ := List.mem_map.mp hmem
    obtain ⟨c, l, r, hstored⟩ := h.stored.exists_node item hitem
    rw [hstored] at hget
    obtain rfl := Option.some.inj hget
    rfl

/-- The number of a live node was given out. -/
lemma Shaped.node_uid_lt (h : t.Shaped s) : ∀ node ∈ t.liveNodes, node.key.uid < t.nextUid := by
  intro node hnode
  have hkey : node.key ∈ t.liveKeys :=
    t.map_key_liveNodes ▸ List.mem_map_of_mem hnode
  exact h.uid_lt _ (h.liveKeys_perm.mem_iff.mp hkey)

variable [Std.TransOrd α] [Std.LawfulEqOrd α]

/-- Of the occurrences of a value the one that was put in first is found. -/
lemma Shaped.find?_first (h : t.Shaped s) {key : RankKey α} (hfind : t.find? v = some key) :
    ∀ k ∈ s.keys, k.value = v → key.uid ≤ k.uid := by
  rw [h.find?_eq, Option.filter_eq_some_iff] at hfind
  obtain ⟨hfirst, heq⟩ := hfind
  intro k hk hval
  rcases h.sorted.find?_before hfirst k hk (by simp [hval]) with rfl | hbefore
  · exact le_rfl
  · have hself : compare key.value k.value ≠ .lt := by
      rw [hval, beq_iff_eq.mp heq]
      exact nofun
    exact ((RankKey.before_iff.mp hbefore).resolve_left hself).2.le

/-! ## Calls -/

/-- The list holds the keys of the tree in the order of their insertion. -/
structure Lists (t : RankTree α) (s : RankShape α) (state : List (RankKey α) × Nat) : Prop
    extends t.Shaped s where
  perm : s.keys.Perm state.1
  next : t.nextUid = state.2
  ascending : state.1.Pairwise fun a b => a.uid < b.uid

variable {state : List (RankKey α) × Nat}

lemma Lists.insert (h : t.Lists s state) (v : α) :
    (t.insert v).Lists (s.insert (t.newItem v)) ((Call.insert v).keys state) := by
  refine ⟨h.toShaped.insert v, ?_, congrArg (· + 1) h.next, ?_⟩
  · have hkey : (t.newItem v).key = ⟨v, state.2⟩ := congrArg (RankKey.mk v) h.next
    rw [Call.keys, ← hkey]
    exact ((s.keys_insert_perm _).trans (h.perm.cons _)).trans
      (List.perm_append_singleton _ _).symm
  · refine List.pairwise_append.mpr ⟨h.ascending, List.pairwise_singleton _ _, fun a ha b hb => ?_⟩
    rw [List.mem_singleton.mp hb, ← h.next]
    exact h.uid_lt a (h.perm.mem_iff.mpr ha)

/-- The first occurrence of a value in the list is the one that is found in the tree. -/
lemma Lists.erase (h : t.Lists s state) {item : RankItem α} (hmem : item ∈ s.items)
    (hval : item.key.value = v) (hfind : t.find? v = some item.key) :
    (t.erase v).Lists (s.erase item.key) ((Call.remove v).keys state) := by
  have hkey : item.key ∈ state.1 := h.perm.mem_iff.mp (RankShape.mem_keys_of_mem_items hmem)
  have hself : (compare item.key.value v == .eq) = true := by simp [hval]
  obtain ⟨k, before, after, hbefore, heq, hsplit, herase⟩ :=
    List.exists_of_eraseP (p := fun k => compare k.value v == .eq) hkey hself
  have hk : k ∈ s.keys := h.perm.mem_iff.mpr (hsplit ▸ List.mem_append_right _ List.mem_cons_self)
  have hfirst := h.find?_first hfind k hk (Std.LawfulEqOrd.eq_of_compare (beq_iff_eq.mp heq))
  have hasc := h.ascending
  rw [hsplit] at hasc hkey
  -- anything behind the first occurrence was put in later than it
  obtain rfl : item.key = k := by
    rcases List.mem_append.mp hkey with hmem | hmem
    · exact absurd hself (hbefore _ hmem)
    · rcases List.mem_cons.mp hmem with heq | hmem
      · exact heq
      · have hlt := (List.pairwise_cons.mp (List.pairwise_append.mp hasc).2.1).1 _ hmem
        omega
  have hperm : (item.key :: (s.erase item.key).keys).Perm (item.key :: (before ++ after)) :=
    ((h.sorted.keys_erase hmem).symm.trans (hsplit ▸ h.perm)).trans List.perm_middle
  refine ⟨h.toShaped.erase hmem hfind, ?_, (nextUid_erase t v).trans h.next, ?_⟩
  · rw [Call.keys, herase]
    exact hperm.cons_inv
  · exact h.ascending.sublist List.eraseP_sublist

/-- A call does to the keys of the tree what it does to the list. -/
lemma Lists.exists_perform (h : t.Lists s state) (call : Call α) :
    ∃ s', (call.perform t).Lists s' (call.keys state) := by
  cases call with
  | insert v => exact ⟨_, h.insert v⟩
  | remove v =>
    rcases h.erase_cases v with ⟨item, hmem, hval, hfind⟩ | ⟨hv, hsame⟩
    · exact ⟨_, h.erase hmem hval hfind⟩
    · have hnone : ∀ k ∈ state.1, ¬ (compare k.value v == .eq) = true := by
        intro k hk heq
        refine hv (h.toList_eq ▸ List.mem_map.mpr ⟨k, h.perm.mem_iff.mpr hk, ?_⟩)
        exact Std.LawfulEqOrd.eq_of_compare (beq_iff_eq.mp heq)
      have hperform : (Call.remove v).perform t = t := hsame
      rw [hperform, Call.keys, List.eraseP_of_forall_not hnone]
      exact ⟨s, h⟩
  | clear => exact ⟨.leaf, shaped_leaf t.nextUid, List.Perm.nil, h.next, List.Pairwise.nil⟩

/-- After any calls the live keys are those of the list after them. -/
lemma liveKeys_after_calls (calls : List (Call α)) :
    (calls.foldl Call.perform ∅).liveKeys.Perm (calls.foldl Call.keys ([], 0)).1 := by
  have hlists : ∃ s, (calls.foldl Call.perform ∅).Lists s (calls.foldl Call.keys ([], 0)) := by
    induction calls using List.reverseRecOn with
    | nil => exact ⟨.leaf, shaped_leaf 0, List.Perm.nil, rfl, List.Pairwise.nil⟩
    | append_singleton calls call ih =>
      obtain ⟨s, hs⟩ := ih
      rw [List.foldl_concat, List.foldl_concat]
      exact hs.exists_perform call
  obtain ⟨s, hs⟩ := hlists
  exact hs.liveKeys_perm.trans hs.perm

end RankTree
end CacheSim
