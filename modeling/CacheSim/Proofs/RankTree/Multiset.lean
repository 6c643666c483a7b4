import CacheSim.Proofs.RankTree.Searches

/-!
# Ranked multisets as multisets

A ranked multiset is `RankTree.Shaped` by a tree when its links form that tree, and the tree is
sorted and counted, shares out the slots of the arena with the free ones, and has no key with a
number that is still to be given out.  It is `RankTree.Valid` when there is such a tree.
`RankTree.Holds t l` says that a valid `t` holds exactly the values of the list `l`, in whatever
order the list names them.  Every operation keeps validity and changes the values as its name says;
these are the only facts about ranked multisets that the roster's theory uses.
-/

namespace CacheSim
namespace RankTree

variable {α : Type} {t : RankTree α} {s : RankShape α} {v : α} {l l' : List α}

section Shapes

variable [Ord α]

/-- The links form the tree `s`, which is in order and counted.  Every slot is free or in the tree,
and there is no key from the future. -/
structure Shaped (t : RankTree α) (s : RankShape α) : Prop where
  root : t.root = s.link
  stored : s.Stored t.arena.nodes
  slots : (s.slots ++ t.arena.free).Perm (List.range t.arena.nodes.size)
  sorted : s.Sorted
  counted : s.Counted
  size_eq : t.size = s.keys.length
  uids : (s.keys.map RankKey.uid).Nodup
  uid_lt : ∀ k ∈ s.keys, k.uid < t.nextUid

/-- The links form a tree as they should. -/
def Valid (t : RankTree α) : Prop :=
  ∃ s, t.Shaped s

lemma shaped_leaf (nextUid : Nat) : Shaped (α := α) ⟨{}, none, 0, nextUid⟩ .leaf :=
  ⟨rfl, trivial, List.Perm.nil, List.Pairwise.nil, trivial, rfl, List.nodup_nil, nofun⟩

lemma valid_empty : (∅ : RankTree α).Valid :=
  ⟨.leaf, shaped_leaf 0⟩

lemma valid_clear (t : RankTree α) : t.clear.Valid :=
  ⟨.leaf, shaped_leaf t.nextUid⟩

namespace Shaped

lemma nodup_slots (h : t.Shaped s) : (s.slots ++ t.arena.free).Nodup :=
  h.slots.nodup_iff.mpr List.nodup_range

lemma slot_lt (h : t.Shaped s) : ∀ i ∈ s.slots ++ t.arena.free, i < t.arena.nodes.size :=
  fun _ hi => List.mem_range.mp (h.slots.mem_iff.mp hi)

/-- The values are those of the keys in order. -/
lemma toList_eq (h : t.Shaped s) : t.toList = s.keys.map RankKey.value := by
  rw [toList, walk, h.root, h.stored.walk_take, List.take_of_length_le]
  rw [List.length_map, h.size_eq]

lemma get?_eq (h : t.Shaped s) (i : Nat) : t.get? i = t.toList[i]? := by
  rw [get?, h.toList_eq, List.getElem?_map]
  split
  · next hle =>
    rw [h.size_eq] at hle
    rw [List.getElem?_eq_none hle]
    rfl
  · rw [h.root, h.stored.get?_eq h.counted]

lemma min_eq [Inhabited α] (h : t.Shaped s) : t.min = t.toList.head?.getD default := by
  rw [min, h.root, h.stored.farthest_left_eq, h.toList_eq, List.head?_map]
  rfl

lemma max_eq [Inhabited α] (h : t.Shaped s) : t.max = t.toList.getLast?.getD default := by
  rw [max, h.root, h.stored.farthest_right_eq, h.toList_eq, List.getLast?_map]
  rfl

end Shaped
end Shapes

/-! ## Insertion -/

section Insertion

variable [Ord α]

/-- The item that an insertion puts into the tree. -/
def newItem (t : RankTree α) (v : α) : RankItem α :=
  ⟨t.arena.nextSlot, ⟨v, t.nextUid⟩⟩

/-- The next slot is neither in the tree nor free afterwards. -/
lemma Shaped.nodup_nextSlot (h : t.Shaped s) :
    (t.arena.nextSlot :: s.slots ++ t.arena.free.tail).Nodup := by
  have hnodup := h.nodup_slots
  rw [RankArena.nextSlot]
  cases hfree : t.arena.free with
  | nil =>
    rw [hfree, List.append_nil] at hnodup
    rw [List.headD_nil, List.tail_nil, List.append_nil]
    refine List.nodup_cons.mpr ⟨fun hmem => ?_, hnodup⟩
    exact (h.slot_lt _ (List.mem_append_left _ hmem)).ne rfl
  | cons slot free =>
    rw [hfree] at hnodup
    exact List.perm_middle.nodup_iff.mp hnodup

/-- The next slot is given a node, and the tree stays where it is. -/
lemma Shaped.exists_alloc (h : t.Shaped s) (v : α) :
    ∃ nodes', t.arena.alloc ⟨v, t.nextUid⟩ =
        some (t.arena.nextSlot, ⟨nodes', t.arena.free.tail⟩) ∧
      nodes'[t.arena.nextSlot]? = some (.single ⟨v, t.nextUid⟩) ∧ s.Stored nodes' ∧
      nodes'.size = if t.arena.free = [] then t.arena.nodes.size + 1 else t.arena.nodes.size := by
  obtain ⟨nodes', halloc, hnew, hsame, hsize⟩ :=
    t.arena.exists_alloc (fun i hi => h.slot_lt i (List.mem_append_right _ hi)) ⟨v, t.nextUid⟩
  have hfresh : t.arena.nextSlot ∉ s.slots := fun hmem =>
    (List.nodup_cons.mp h.nodup_nextSlot).1 (List.mem_append_left _ hmem)
  exact ⟨nodes', halloc, hnew,
    h.stored.congr fun i hi => hsame i fun heq => hfresh (heq ▸ hi), hsize⟩

/-- The new key is put into the tree at the next slot. -/
lemma Shaped.exists_insert (h : t.Shaped s) (v : α) :
    ∃ nodes', t.insert v = ⟨⟨nodes', t.arena.free.tail⟩, (s.insert (t.newItem v)).link,
        t.size + 1, t.nextUid + 1⟩ ∧
      (s.insert (t.newItem v)).Stored nodes' ∧
      nodes'.size = if t.arena.free = [] then t.arena.nodes.size + 1 else t.arena.nodes.size := by
  obtain ⟨nodes₁, halloc, hnew, hstored, hsize⟩ := h.exists_alloc v
  obtain ⟨nodes₂, hgraft, hgrafted, hsame⟩ :=
    hstored.exists_graft (k := t.newItem v) t.arena.free.tail hnew
      (List.nodup_append.mp h.nodup_nextSlot).1
  have hplace : t.arena.place ⟨v, t.nextUid⟩ t.root =
      some ((s.insert (t.newItem v)).link, ⟨nodes₂, t.arena.free.tail⟩) := by
    rw [h.root]
    exact bind_of_some halloc hgraft
  refine ⟨nodes₂, ?_, hgrafted, hsame.size_eq.trans hsize⟩
  rw [RankTree.insert, hplace]
  rfl

variable [Std.TransOrd α] [Std.LawfulEqOrd α]

lemma Shaped.insert (h : t.Shaped s) (v : α) :
    (t.insert v).Shaped (s.insert (t.newItem v)) := by
  obtain ⟨nodes', hinsert, hstored, hsize⟩ := h.exists_insert v
  have hkeys := s.keys_insert_perm (t.newItem v)
  rw [hinsert]
  refine ⟨rfl, hstored, ?_, h.sorted.insert fun a ha => (h.uid_lt a ha).ne, h.counted.insert _,
    ?_, ?_, fun k hk => ?_⟩
  · -- the next slot is the first free one, or else a new one is opened
    refine ((s.slots_insert_perm (t.newItem v)).append_right _).trans ?_
    have hold := h.slots
    rw [List.cons_append, newItem, RankArena.nextSlot, hsize]
    cases hfree : t.arena.free with
    | nil =>
      rw [hfree, List.append_nil] at hold
      simp only [List.headD_nil, List.tail_nil, List.append_nil, if_true, List.range_succ]
      exact (hold.cons _).trans (List.perm_append_singleton _ _).symm
    | cons slot free =>
      rw [hfree] at hold
      exact List.perm_middle.symm.trans hold
  · rw [hkeys.length_eq, List.length_cons, ← h.size_eq]
  · rw [(hkeys.map RankKey.uid).nodup_iff, List.map_cons, List.nodup_cons]
    refine ⟨fun hmem => ?_, h.uids⟩
    obtain ⟨k, hk, heq⟩ := List.mem_map.mp hmem
    exact (h.uid_lt k hk).ne heq
  · rcases List.mem_cons.mp (hkeys.mem_iff.mp hk) with rfl | hk
    · exact Nat.lt_succ_self _
    · exact Nat.lt_succ_of_lt (h.uid_lt k hk)

lemma Valid.insert (h : t.Valid) (v : α) : (t.insert v).Valid :=
  let ⟨_, hs⟩ := h
  ⟨_, hs.insert v⟩

lemma Valid.toList_insert (h : t.Valid) (v : α) : (t.insert v).toList.Perm (v :: t.toList) := by
  obtain ⟨s, hs⟩ := h
  rw [(hs.insert v).toList_eq, hs.toList_eq]
  exact (s.keys_insert_perm (t.newItem v)).map RankKey.value

end Insertion

/-! ## Erasure -/

section Erasure

variable [Ord α]

/-- Numbers that have been given out are not given out again after an erasure. -/
lemma nextUid_erase (t : RankTree α) (v : α) : (t.erase v).nextUid = t.nextUid := by
  rw [RankTree.erase]
  split <;> rfl

variable [Std.TransOrd α] [Std.LawfulEqOrd α]

lemma Shaped.find?_eq (h : t.Shaped s) (v : α) :
    t.find? v = (s.keys.find? fun k => compare k.value v != .lt).filter
      fun k => compare k.value v == .eq := by
  rw [find?, h.root, h.stored.firstFrom?_eq h.sorted, Option.or_none]

/-- A value that occurs is found, as an item that holds it. -/
lemma Shaped.find?_eq_some (h : t.Shaped s) (hv : v ∈ t.toList) :
    ∃ item ∈ s.items, item.key.value = v ∧ t.find? v = some item.key := by
  rw [h.toList_eq] at hv
  obtain ⟨k, hk, rfl⟩ := List.mem_map.mp hv
  have hsome : (s.keys.find? fun a => compare a.value k.value != .lt).isSome := by
    rw [List.find?_isSome]
    exact ⟨k, hk, by simp⟩
  obtain ⟨key, hkey⟩ := Option.isSome_iff_exists.mp hsome
  have hnlt : compare key.value k.value ≠ .lt := by simpa using List.find?_some hkey
  -- `k` is not before the key that is found, so its value is not below that of the key
  have hle : key.value = k.value ∨ compare key.value k.value = .lt := by
    rcases h.sorted.find?_before hkey k hk (by simp) with rfl | hbefore
    · exact Or.inl rfl
    · exact (RankKey.before_iff.mp hbefore).symm.imp_left And.left
  have heq : key.value = k.value := by
    rcases hle with heq | hlt
    · exact heq
    · exact absurd hlt hnlt
  obtain ⟨item, hitem, rfl⟩ := List.mem_map.mp (List.mem_of_find?_eq_some hkey)
  refine ⟨item, hitem, heq, ?_⟩
  rw [h.find?_eq, hkey, Option.filter_some, heq]
  simp

/-- What is found is a key that holds the value. -/
lemma Shaped.mem_of_find? (h : t.Shaped s) {key : RankKey α} (hfind : t.find? v = some key) :
    key ∈ s.keys ∧ key.value = v := by
  rw [h.find?_eq, Option.filter_eq_some_iff] at hfind
  exact ⟨List.mem_of_find?_eq_some hfind.1, Std.LawfulEqOrd.eq_of_compare (beq_iff_eq.mp hfind.2)⟩

/-- An erasure takes out an item that holds the value, or else it does nothing. -/
lemma Shaped.erase_cases (h : t.Shaped s) (v : α) :
    (∃ item ∈ s.items, item.key.value = v ∧ t.find? v = some item.key) ∨
      v ∉ t.toList ∧ t.erase v = t := by
  by_cases hv : v ∈ t.toList
  · exact Or.inl (h.find?_eq_some hv)
  · refine Or.inr ⟨hv, ?_⟩
    cases hfind : t.find? v with
    | none => rw [RankTree.erase, hfind]
    | some key =>
      obtain ⟨hmem, rfl⟩ := h.mem_of_find? hfind
      exact absurd (h.toList_eq ▸ List.mem_map_of_mem hmem) hv

/-- The key that is found is erased, and its slot is given back. -/
lemma Shaped.exists_erase (h : t.Shaped s) {item : RankItem α} (hmem : item ∈ s.items)
    (hfind : t.find? v = some item.key) :
    ∃ nodes', t.erase v = ⟨⟨nodes', item.slot :: t.arena.free⟩, (s.erase item.key).link,
        t.size - 1, t.nextUid⟩ ∧
      (s.erase item.key).Stored nodes' ∧ nodes'.size = t.arena.nodes.size := by
  have hslot := h.sorted.slotOf?_eq hmem
  obtain ⟨nodes', herase, hstored, hsame⟩ :=
    h.stored.exists_eraseWith (List.nodup_append.mp h.nodup_slots).1 RankShape.releases_release
      item.key
  rw [← h.root] at herase
  rw [RankShape.freed, hslot] at herase hsame
  refine ⟨nodes', ?_, hstored, hsame.size_eq⟩
  simp only [RankTree.erase, hfind, RankArena.erase, herase, Option.getD_some, Option.elim_some,
    RankArena.release]

lemma Shaped.erase (h : t.Shaped s) {item : RankItem α} (hmem : item ∈ s.items)
    (hfind : t.find? v = some item.key) : (t.erase v).Shaped (s.erase item.key) := by
  obtain ⟨nodes', herase, hstored, hsize⟩ := h.exists_erase hmem hfind
  have hslot := h.sorted.slotOf?_eq hmem
  have hsub := s.keys_erase_sublist item.key
  rw [herase]
  refine ⟨rfl, hstored, ?_, h.sorted.sublist hsub, h.counted.erase _, ?_,
    h.uids.sublist (hsub.map _), fun k hk => h.uid_lt k (hsub.subset hk)⟩
  · rw [hsize]
    exact (List.perm_middle.trans ((RankShape.slots_erase_perm hslot).symm.append_right _)).trans
      h.slots
  · rw [h.size_eq, (h.sorted.keys_erase hmem).length_eq, List.length_cons, Nat.add_sub_cancel]

/-- Erasing a value that occurs takes out one key that holds it. -/
lemma Shaped.exists_erased (h : t.Shaped s) (hv : v ∈ t.toList) :
    ∃ item ∈ s.items, item.key.value = v ∧ (t.erase v).Shaped (s.erase item.key) := by
  obtain ⟨item, hmem, hval, hfind⟩ := h.find?_eq_some hv
  exact ⟨item, hmem, hval, h.erase hmem hfind⟩

lemma Valid.erase (h : t.Valid) (hv : v ∈ t.toList) : (t.erase v).Valid := by
  obtain ⟨s, hs⟩ := h
  obtain ⟨item, -, -, herase⟩ := hs.exists_erased hv
  exact ⟨_, herase⟩

lemma Valid.toList_erase (h : t.Valid) (hv : v ∈ t.toList) :
    t.toList.Perm (v :: (t.erase v).toList) := by
  obtain ⟨s, hs⟩ := h
  obtain ⟨item, hmem, rfl, herase⟩ := hs.exists_erased hv
  rw [hs.toList_eq, herase.toList_eq]
  exact (hs.sorted.keys_erase hmem).map RankKey.value

end Erasure

/-! ## Contents -/

/-- A valid multiset that holds exactly the values of a list. -/
structure Holds [Ord α] (t : RankTree α) (l : List α) : Prop where
  valid : t.Valid
  perm : t.toList.Perm l

lemma Valid.size_eq [Ord α] (h : t.Valid) : t.size = t.toList.length := by
  obtain ⟨s, hs⟩ := h
  rw [hs.toList_eq, List.length_map, hs.size_eq]

namespace Holds

variable [Ord α]

lemma size_eq (h : t.Holds l) : t.size = l.length :=
  h.valid.size_eq.trans h.perm.length_eq

lemma of_perm (h : t.Holds l) (hl : l.Perm l') : t.Holds l' :=
  ⟨h.valid, h.perm.trans hl⟩

lemma empty : (∅ : RankTree α).Holds [] :=
  ⟨valid_empty, List.Perm.nil⟩

lemma clear (t : RankTree α) : t.clear.Holds [] :=
  ⟨valid_clear t, List.Perm.nil⟩

variable [Std.TransOrd α] [Std.LawfulEqOrd α]

lemma insert (h : t.Holds l) (v : α) : (t.insert v).Holds (v :: l) :=
  ⟨h.valid.insert v, (h.valid.toList_insert v).trans (h.perm.cons v)⟩

lemma erase (h : t.Holds (v :: l)) : (t.erase v).Holds l := by
  have hv : v ∈ t.toList := h.perm.mem_iff.mpr List.mem_cons_self
  exact ⟨h.valid.erase hv, ((h.valid.toList_erase hv).symm.trans h.perm).cons_inv⟩

end Holds
end RankTree
end CacheSim
