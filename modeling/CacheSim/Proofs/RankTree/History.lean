import CacheSim.Proofs.RankTree.Treap

/-!
# The tree does not depend on history

The live keys of a ranked multiset determine its tree: it is the only search tree on them that is a
heap on their weights.  So two multisets with the same live keys have the same nodes with the same
links, only in other slots, whatever was put in and taken out on the way.

* `RankShape.Alike.exists_relabel`: trees that differ in their slots are renamed into each other;
* `RankTree.tree_of_liveKeys`: the tree of the live keys.
-/

namespace CacheSim

variable {α : Type}

/-- The node with other names for the slots that it links to. -/
def RankNode.relabel (f : Nat → Nat) (node : RankNode α) : RankNode α :=
  { node with left := node.left.map f, right := node.right.map f }

namespace RankShape

/-- The tree with other names for its slots. -/
def relabel (f : Nat → Nat) : RankShape α → RankShape α
  | leaf => leaf
  | node l k c r => node (l.relabel f) ⟨f k.slot, k.key⟩ c (r.relabel f)

variable {s t : RankShape α} {f g : Nat → Nat} {nodes nodes' : Array (RankNode α)}

lemma link_relabel (f : Nat → Nat) (t : RankShape α) : (t.relabel f).link = t.link.map f := by
  cases t <;> rfl

lemma slots_relabel (f : Nat → Nat) (t : RankShape α) : (t.relabel f).slots = t.slots.map f := by
  induction t with
  | leaf => rfl
  | node l k c r ihl ihr =>
    rw [relabel, slots_node, slots_node, ihl, ihr, List.map_append, List.map_cons]

lemma relabel_congr (h : ∀ i ∈ t.slots, f i = g i) : t.relabel f = t.relabel g := by
  induction t with
  | leaf => rfl
  | node l k c r ihl ihr =>
    rw [slots_node] at h
    rw [relabel, relabel, ihl fun i hi => h i (List.mem_append_left _ hi),
      ihr fun i hi => h i (List.mem_append_right _ (List.mem_cons_of_mem _ hi)),
      h k.slot (List.mem_append_right _ List.mem_cons_self)]

/-- Trees that differ in their slots at most are renamed into each other. -/
lemma Alike.exists_relabel (h : s.Alike t) (hs : s.slots.Nodup) : ∃ f, s.relabel f = t := by
  induction h with
  | leaf => exact ⟨id, rfl⟩
  | @node l l' r r' k k' c root left right ihl ihr =>
    obtain ⟨hl, hr, hkl, hkr, hlr⟩ := nodup_node.mp hs
    obtain ⟨f, rfl⟩ := ihl hl
    obtain ⟨g, rfl⟩ := ihr hr
    -- the names on both sides are put together, since the sides share no slots
    refine ⟨fun i => if i ∈ l.slots then f i else if i = k.slot then k'.slot else g i, ?_⟩
    have hk : (⟨k'.slot, k.key⟩ : RankItem α) = k' := by rw [root]
    rw [relabel, if_neg hkl, if_pos rfl, hk]
    congr 1
    · exact relabel_congr fun i hi => if_pos hi
    · refine relabel_congr fun i hi => ?_
      have hne : i ≠ k.slot := fun heq => hkr (heq ▸ hi)
      rw [if_neg fun hmem => hlr i hmem hi, if_neg hne]

/-- A tree that is stored under other names is stored in nodes with other links. -/
lemma Stored.get_relabel (h : t.Stored nodes) (h' : (t.relabel f).Stored nodes') :
    ∀ i ∈ t.slots, nodes'[f i]? = nodes[i]?.map (RankNode.relabel f) := by
  induction t with
  | leaf => exact nofun
  | node l k c r ihl ihr =>
    obtain ⟨hk, hl, hr⟩ := h
    obtain ⟨hk', hl', hr'⟩ := h'
    intro i hi
    rw [slots_node, List.mem_append, List.mem_cons] at hi
    rcases hi with hi | rfl | hi
    · exact ihl hl hl' i hi
    · rw [hk, hk', link_relabel, link_relabel]
      rfl
    · exact ihr hr hr' i hi

/-- Sorted trees on the same keys list them in the same way. -/
lemma Sorted.keys_eq [Ord α] [Std.TransOrd α] [Std.LawfulEqOrd α] (hs : s.Sorted) (ht : t.Sorted)
    (h : s.keys.Perm t.keys) : s.keys = t.keys := by
  refine h.eq_of_pairwise (fun a b _ _ hab hba => ?_) hs ht
  rw [RankKey.before_asymm hab] at hba
  exact absurd hba Bool.false_ne_true

end RankShape

namespace RankTree

variable [Ord α] [Std.TransOrd α] [Std.LawfulEqOrd α] {t t' : RankTree α} {s s' : RankShape α}

/-- The links of two multisets form the same tree, with slots named by `f` in the second. -/
structure Renamed (t t' : RankTree α) (s : RankShape α) (f : Nat → Nat) : Prop where
  treap : t.Treap s
  treap' : t'.Treap (s.relabel f)
  injective : Set.InjOn f {slot | slot ∈ s.slots}
  root : t'.root = t.root.map f
  nodes : ∀ slot ∈ s.slots,
    t'.arena.nodes[f slot]? = t.arena.nodes[slot]?.map (RankNode.relabel f)

omit [Std.TransOrd α] [Std.LawfulEqOrd α] in
/-- Trees with the same keys are the same up to the names of their slots. -/
lemma Treap.exists_renamed (h : t.Treap s) (h' : t'.Treap s') (hkeys : s.keys = s'.keys) :
    ∃ f, t.Renamed t' s f := by
  have halike := h.heaped.alike h'.heaped h.counted h'.counted hkeys
  obtain ⟨f, rfl⟩ := halike.exists_relabel (List.nodup_append.mp h.nodup_slots).1
  have hslots := (List.nodup_append.mp h'.nodup_slots).1
  rw [RankShape.slots_relabel] at hslots
  refine ⟨f, h, h', fun i hi j hj => List.inj_on_of_nodup_map hslots hi hj, ?_,
    h.stored.get_relabel h'.stored⟩
  rw [h.root, h'.root, RankShape.link_relabel]

omit [Std.TransOrd α] [Std.LawfulEqOrd α] in
/-- No two live keys are the same. -/
lemma Shaped.nodup_liveKeys (h : t.Shaped s) : t.liveKeys.Nodup :=
  h.liveKeys_perm.nodup_iff.mpr h.uids.of_map

/-- Whatever calls were made, the live keys are those that were put in and not taken out.  The tree
is the only search tree on them that is a heap on their weights and counts its nodes, and multisets
with the same live keys have the same one up to the names of the slots. -/
theorem tree_of_liveKeys (calls calls' : List (Call α))
    (hfew : calls.countP Call.isInsert < 2 ^ 64) (hfew' : calls'.countP Call.isInsert < 2 ^ 64)
    (hsame : ∀ k, k ∈ (calls.foldl Call.perform ∅).liveKeys ↔
      k ∈ (calls'.foldl Call.perform ∅).liveKeys) :
    ∃ s f, (calls.foldl Call.perform ∅).Renamed (calls'.foldl Call.perform ∅) s f ∧
      s.keys.Perm (calls.foldl Call.perform ∅).liveKeys ∧
      (calls.foldl Call.perform ∅).liveKeys.Perm (calls.foldl Call.keys ([], 0)).1 ∧
      ∀ u : RankShape α, u.Sorted → u.Heaped → u.Counted →
        u.keys.Perm (calls.foldl Call.perform ∅).liveKeys → s.Alike u := by
  obtain ⟨s, hs⟩ := exists_treap calls hfew
  obtain ⟨s', hs'⟩ := exists_treap calls' hfew'
  have hlive := (List.perm_ext_iff_of_nodup hs.nodup_liveKeys hs'.nodup_liveKeys).mpr hsame
  have hkeys : s.keys = s'.keys :=
    hs.sorted.keys_eq hs'.sorted ((hs.liveKeys_perm.symm.trans hlive).trans hs'.liveKeys_perm)
  obtain ⟨f, hf⟩ := hs.exists_renamed hs' hkeys
  refine ⟨s, f, hf, hs.liveKeys_perm.symm, liveKeys_after_calls calls,
    fun u hsorted hheaped hcounted hu => ?_⟩
  exact hs.heaped.alike hheaped hs.counted hcounted
    (hs.sorted.keys_eq hsorted (hs.liveKeys_perm.symm.trans hu.symm))

/-- Two values that were left by different insertions and removals, one of them in a slot that had
been used before. -/
theorem tree_of_two_live_numbers :
    let calls : List (Call Int) := [.insert 9, .insert 5, .insert 4, .remove 9]
    let calls' : List (Call Int) :=
      [.insert 7, .insert 5, .remove 7, .insert 4, .insert 8, .remove 8]
    calls.countP Call.isInsert < 2 ^ 64 ∧ calls'.countP Call.isInsert < 2 ^ 64 ∧
      (∀ k, k ∈ (calls.foldl Call.perform ∅).liveKeys ↔
        k ∈ (calls'.foldl Call.perform ∅).liveKeys) ∧
      ∃ s f, (calls.foldl Call.perform ∅).Renamed (calls'.foldl Call.perform ∅) s f ∧
        s.keys.Perm (calls.foldl Call.perform ∅).liveKeys ∧
        (calls.foldl Call.perform ∅).liveKeys.Perm [⟨5, 1⟩, ⟨4, 2⟩] ∧
        ∀ u : RankShape Int, u.Sorted → u.Heaped → u.Counted →
          u.keys.Perm (calls.foldl Call.perform ∅).liveKeys → s.Alike u := by
  intro calls calls'
  have hfew : calls.countP Call.isInsert < 2 ^ 64 := by decide
  have hfew' : calls'.countP Call.isInsert < 2 ^ 64 := by decide
  have hlist : (calls.foldl Call.keys ([], 0)).1 = [⟨5, 1⟩, ⟨4, 2⟩] := rfl
  have hlist' : (calls'.foldl Call.keys ([], 0)).1 = [⟨5, 1⟩, ⟨4, 2⟩] := rfl
  have hsame : ∀ k, k ∈ (calls.foldl Call.perform ∅).liveKeys ↔
      k ∈ (calls'.foldl Call.perform ∅).liveKeys := fun k => by
    rw [(liveKeys_after_calls calls).mem_iff, (liveKeys_after_calls calls').mem_iff, hlist, hlist']
  exact ⟨hfew, hfew', hsame, tree_of_liveKeys calls calls' hfew hfew' hsame⟩

end RankTree
end CacheSim
