import CacheSim.Proofs.RankTree.Shape
import CacheSim.Proofs.SplitMix

/-!
# The heap order of a ranked multiset

A tree is `RankShape.Heaped` when every node is heavier than all nodes below it.  Splitting keeps
that, and joining keeps it for trees without equal weights: of two equally heavy roots neither could
be above the other.  The weights of keys with different numbers are different as long as the numbers
are words, since the hash is injective.

* `RankKey.nodup_weights`: no two keys of a tree have the same weight;
* `RankShape.Heaped.merge`, `RankShape.Heaped.insert`, `RankShape.Heaped.erase`: the order is kept;
* `RankShape.Heaped.alike`: a list of keys is that of one tree only, up to slots.
-/

namespace CacheSim

variable {α : Type}

namespace RankKey

/-- Keys have the same weight only if their numbers are the same word. -/
lemma weight_eq_iff {a b : RankKey α} :
    a.weight = b.weight ↔ UInt64.ofNat a.uid = UInt64.ofNat b.uid :=
  splitMix_injective.eq_iff

lemma weight_eq_iff_of_lt {a b : RankKey α} (ha : a.uid < 2 ^ 64) (hb : b.uid < 2 ^ 64) :
    a.weight = b.weight ↔ a.uid = b.uid := by
  rw [weight_eq_iff, ← UInt64.toNat_inj, UInt64.toNat_ofNat_of_lt' ha,
    UInt64.toNat_ofNat_of_lt' hb]

/-- Keys whose numbers are different words have different weights. -/
lemma nodup_weights {keys : List (RankKey α)} (hnodup : (keys.map uid).Nodup)
    (hlt : ∀ k ∈ keys, k.uid < 2 ^ 64) : (keys.map weight).Nodup :=
  (hnodup.of_map _).map_on fun a ha b hb hab =>
    List.inj_on_of_nodup_map hnodup ha hb ((weight_eq_iff_of_lt (hlt a ha) (hlt b hb)).mp hab)

end RankKey

namespace RankShape

/-- Every node is heavier than all nodes below it. -/
def Heaped : RankShape α → Prop
  | leaf => True
  | node l k _ r =>
    (∀ a ∈ l.keys ++ r.keys, a.weight < k.key.weight) ∧ l.Heaped ∧ r.Heaped

variable {s t l r : RankShape α} {k : RankItem α} {c : Nat}

lemma Heaped.join (hl : l.Heaped) (hr : r.Heaped)
    (hk : ∀ a ∈ l.keys ++ r.keys, a.weight < k.key.weight) : (l.join k r).Heaped :=
  ⟨hk, hl, hr⟩

lemma heaped_single (k : RankItem α) : (single k).Heaped :=
  ⟨nofun, trivial, trivial⟩

/-- If no two keys of a node have the same weight, none of one subtree has one of the other. -/
lemma nodup_weights_node (h : ((node l k c r).keys.map RankKey.weight).Nodup) :
    (l.keys.map RankKey.weight).Nodup ∧ (r.keys.map RankKey.weight).Nodup ∧
      ((l.keys ++ r.keys).map RankKey.weight).Nodup := by
  rw [keys_node, List.map_append, List.map_cons] at h
  have hboth := (List.perm_middle.nodup_iff.mp h).of_cons
  rw [← List.map_append] at hboth
  exact ⟨(List.nodup_append.mp h).1, ((List.nodup_append.mp h).2.1).of_cons, hboth⟩

/-- A root is as heavy as any node of its tree. -/
lemma Heaped.le_root (h : (node l k c r).Heaped) :
    ∀ a ∈ (node l k c r).keys, a.weight ≤ k.key.weight := by
  intro a ha
  rw [keys_node, List.mem_append, List.mem_cons] at ha
  rcases ha with ha | rfl | ha
  · exact UInt64.le_of_lt (h.1 a (List.mem_append_left _ ha))
  · exact UInt64.le_refl _
  · exact UInt64.le_of_lt (h.1 a (List.mem_append_right _ ha))

/-- Trees without equal weights are joined to a heap. -/
lemma Heaped.merge (hs : s.Heaped) (ht : t.Heaped)
    (hne : ((s.keys ++ t.keys).map RankKey.weight).Nodup) : (s.merge t).Heaped := by
  induction s, t using merge_induction with
  | left t => exact ht
  | right l k c r => exact hs
  | first l k c r l' k' c' r' hweight ih =>
    obtain ⟨hk, hl, hr⟩ := hs
    rw [merge_node, if_pos hweight]
    refine hl.join (ih hr ht ?_) fun a ha => ?_
    · refine hne.sublist (List.Sublist.map _ (List.Sublist.append_right ?_ _))
      rw [keys_node]
      exact (List.sublist_cons_self _ _).trans (List.sublist_append_right _ _)
    · rw [keys_merge, List.mem_append, List.mem_append] at ha
      rcases ha with ha | ha | ha
      · exact hk a (List.mem_append_left _ ha)
      · exact hk a (List.mem_append_right _ ha)
      · exact UInt64.lt_of_le_of_lt (ht.le_root a ha) hweight
  | second l k c r l' k' c' r' hweight ih =>
    obtain ⟨hk', hl', hr'⟩ := ht
    -- the roots are not equally heavy
    have hlt : k.key.weight < k'.key.weight := by
      refine UInt64.lt_of_le_of_ne (UInt64.not_lt.mp hweight) fun heq => ?_
      have hmem : k.key.weight ∈ (node l k c r).keys.map RankKey.weight :=
        List.mem_map_of_mem (by simp [keys_node])
      have hmem' : k'.key.weight ∈ (node l' k' c' r').keys.map RankKey.weight :=
        List.mem_map_of_mem (by simp [keys_node])
      rw [List.map_append, List.nodup_append'] at hne
      rw [heq] at hmem
      exact hne.2.2 hmem hmem'
    rw [merge_node, if_neg hweight]
    refine (ih hs hl' ?_).join hr' fun a ha => ?_
    · refine hne.sublist (List.Sublist.map _ (List.Sublist.append_left ?_ _))
      rw [keys_node]
      exact List.sublist_append_left _ _
    · rw [keys_merge, List.mem_append, List.mem_append] at ha
      rcases ha with (ha | ha) | ha
      · exact UInt64.lt_of_le_of_lt (hs.le_root a ha) hlt
      · exact hk' a (List.mem_append_left _ ha)
      · exact hk' a (List.mem_append_right _ ha)

/-! ## Insertion and erasure -/

section Order

variable [Ord α]

lemma Heaped.split (ht : t.Heaped) (pivot : RankKey α) :
    (t.split pivot).1.Heaped ∧ (t.split pivot).2.Heaped := by
  induction t with
  | leaf => exact ⟨trivial, trivial⟩
  | node l k c r ihl ihr =>
    obtain ⟨hk, hl, hr⟩ := ht
    rw [RankShape.split]
    split
    · refine ⟨hl.join (ihr hr).1 fun a ha => hk a ?_, (ihr hr).2⟩
      rw [← keys_split pivot r]
      exact (List.Sublist.append_left (List.sublist_append_left _ _) _).subset ha
    · refine ⟨(ihl hl).1, (ihl hl).2.join hr fun a ha => hk a ?_⟩
      rw [← keys_split pivot l]
      exact (List.Sublist.append_right (List.sublist_append_right _ _) _).subset ha

lemma Heaped.insert (ht : t.Heaped) (hne : ((k.key :: t.keys).map RankKey.weight).Nodup) :
    (t.insert k).Heaped := by
  obtain ⟨hbelow, habove⟩ := ht.split k.key
  have hall : (((t.split k.key).1.keys ++ [k.key] ++ (t.split k.key).2.keys).map
      RankKey.weight).Nodup := by
    rw [← keys_split k.key t] at hne
    rw [List.append_assoc, List.singleton_append]
    exact (List.perm_middle.map _).nodup_iff.mpr hne
  refine (hbelow.merge (heaped_single k) ?_).merge habove ?_
  · exact hall.sublist (List.Sublist.map _ (List.sublist_append_left _ _))
  · rw [keys_merge]
    exact hall

lemma Heaped.erase (ht : t.Heaped) (hne : (t.keys.map RankKey.weight).Nodup)
    (key : RankKey α) : (t.erase key).Heaped := by
  induction t with
  | leaf => trivial
  | node l k c r ihl ihr =>
    obtain ⟨hk, hl, hr⟩ := ht
    obtain ⟨hnel, hner, hboth⟩ := nodup_weights_node hne
    rw [RankShape.erase]
    split
    · refine (ihl hl hnel).join hr fun a ha => hk a ?_
      exact ((l.keys_erase_sublist key).append_right _).subset ha
    · split
      · refine hl.join (ihr hr hner) fun a ha => hk a ?_
        exact ((r.keys_erase_sublist key).append_left _).subset ha
      · exact hl.merge hr hboth

end Order

/-! ## Uniqueness -/

/-- Trees that differ in their slots at most. -/
inductive Alike : RankShape α → RankShape α → Prop
  | leaf : Alike leaf leaf
  | node {l l' r r' : RankShape α} {k k' : RankItem α} (c : Nat) (root : k.key = k'.key)
      (left : l.Alike l') (right : r.Alike r') : Alike (node l k c r) (node l' k' c r')

lemma eq_leaf_of_keys_eq_nil (h : t.keys = []) : t = leaf := by
  cases t with
  | leaf => rfl
  | node l k c r => simp [keys_node] at h

/-- A key that is not the root of a heap is lighter than the root. -/
lemma Heaped.lt_root (h : (node l k c r).Heaped) {key : RankKey α}
    (hmem : key ∈ (node l k c r).keys) (hne : key ≠ k.key) : key.weight < k.key.weight := by
  rw [keys_node, List.mem_append, List.mem_cons] at hmem
  refine h.1 key (List.mem_append.mpr ?_)
  rcases hmem with hl | heq | hr
  · exact Or.inl hl
  · exact absurd heq hne
  · exact Or.inr hr

/-- The keys of a counted heap, in order, determine it up to slots. -/
lemma Heaped.alike (hs : s.Heaped) (ht : t.Heaped) (hcs : s.Counted) (hct : t.Counted)
    (hkeys : s.keys = t.keys) : s.Alike t := by
  induction s generalizing t with
  | leaf => exact eq_leaf_of_keys_eq_nil hkeys.symm ▸ Alike.leaf
  | node l k c r ihl ihr =>
    cases t with
    | leaf => exact absurd (eq_leaf_of_keys_eq_nil hkeys) nofun
    | node l' k' c' r' =>
      -- of two different roots each would be lighter than the other
      have hroot : k.key = k'.key := by
        by_contra hne
        have hmem : k.key ∈ (node l' k' c' r').keys := hkeys ▸ by simp [keys_node]
        have hmem' : k'.key ∈ (node l k c r).keys := hkeys ▸ by simp [keys_node]
        exact UInt64.lt_asymm (ht.lt_root hmem hne) (hs.lt_root hmem' (Ne.symm hne))
      obtain rfl : c = c' :=
        (hcs.count_eq.trans (congrArg List.length hkeys)).trans hct.count_eq.symm
      have hl : k'.key ∉ l.keys := fun hmem =>
        UInt64.lt_irrefl _ (hroot ▸ hs.1 _ (List.mem_append_left _ hmem))
      have hr : k'.key ∉ r.keys := fun hmem =>
        UInt64.lt_irrefl _ (hroot ▸ hs.1 _ (List.mem_append_right _ hmem))
      rw [keys_node, keys_node] at hkeys
      obtain ⟨hleft, -, hright⟩ := (List.append_cons_inj_of_notMem hl hr).mp hkeys
      exact .node c hroot (ihl hs.2.1 ht.2.1 hcs.2.1 hct.2.1 hleft)
        (ihr hs.2.2 ht.2.2 hcs.2.2 hct.2.2 hright)

end RankShape
end CacheSim
