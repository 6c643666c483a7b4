import Mathlib
import CacheSim.RankTree.Arena

/-!
# The trees that links form

What the links of an arena form, followed from a root, is described by a `RankShape`: a binary tree
whose nodes name the slots that they are in.  Splitting, joining and erasing are defined on shapes
as they are on arenas, but by recursion on the tree, so that order, counts and weights can be
treated without any links.  That the arena does the same as the shape is the subject of
`CacheSim.Proofs.RankTree.Links`.

* `RankShape.items_split`, `RankShape.items_merge`: no item is lost, and the order is kept;
* `RankShape.Counted`: every node stores the number of nodes below and including it, and the
  operations keep that.
-/

namespace CacheSim

/-- A key in its slot. -/
structure RankItem (α : Type) where
  /-- The slot. -/
  slot : Nat
  /-- The key. -/
  key : RankKey α

/-- A binary tree of items, each with the number of nodes that it stores. -/
inductive RankShape (α : Type) where
  | leaf
  | node (left : RankShape α) (item : RankItem α) (count : Nat) (right : RankShape α)

namespace RankShape

variable {α : Type}

/-- The slot of the root. -/
def link : RankShape α → Option Nat
  | leaf => none
  | node _ k _ _ => some k.slot

/-- The number of nodes, as stored. -/
def count : RankShape α → Nat
  | leaf => 0
  | node _ _ c _ => c

/-- The items in order. -/
def items : RankShape α → List (RankItem α)
  | leaf => []
  | node l k _ r => l.items ++ k :: r.items

/-- The keys in order. -/
def keys (t : RankShape α) : List (RankKey α) :=
  t.items.map RankItem.key

/-- The slots in the order of the keys. -/
def slots (t : RankShape α) : List Nat :=
  t.items.map RankItem.slot

/-- A node over two trees, counted. -/
def join (l : RankShape α) (k : RankItem α) (r : RankShape α) : RankShape α :=
  node l k (1 + l.count + r.count) r

/-- The tree of a single item. -/
def single (k : RankItem α) : RankShape α :=
  join leaf k leaf

/-- The keys below `pivot`, and all others. -/
def split [Ord α] (pivot : RankKey α) : RankShape α → RankShape α × RankShape α
  | leaf => (leaf, leaf)
  | node l k _ r =>
    if k.key.before pivot then (l.join k (r.split pivot).1, (r.split pivot).2)
    else ((l.split pivot).1, (l.split pivot).2.join k r)

/-- Joins the node `l`-`k`-`r` to a tree of larger keys, where `rest` joins `r` to one. -/
def mergeNode (l : RankShape α) (k : RankItem α) (c : Nat) (r : RankShape α)
    (rest : RankShape α → RankShape α) : RankShape α → RankShape α
  | leaf => node l k c r
  | node l' k' c' r' =>
    if k.key.weight > k'.key.weight then l.join k (rest (node l' k' c' r'))
    else (mergeNode l k c r rest l').join k' r'

/-- Joins two trees, all keys of the first being below those of the second.  Of the two roots the
heavier one becomes the root. -/
def merge : RankShape α → RankShape α → RankShape α
  | leaf, t => t
  | node l k c r, t => mergeNode l k c r r.merge t

/-- Removes a key. -/
def erase [Ord α] (key : RankKey α) : RankShape α → RankShape α
  | leaf => leaf
  | node l k _ r =>
    if key.before k.key then (l.erase key).join k r
    else if k.key.before key then l.join k (r.erase key)
    else l.merge r

/-- The slot at which the search for a key ends. -/
def slotOf? [Ord α] (key : RankKey α) : RankShape α → Option Nat
  | leaf => none
  | node l k _ r =>
    if key.before k.key then l.slotOf? key
    else if k.key.before key then r.slotOf? key
    else some k.slot

/-- Puts an item into a tree. -/
def insert [Ord α] (k : RankItem α) (t : RankShape α) : RankShape α :=
  ((t.split k.key).1.merge (single k)).merge (t.split k.key).2

variable {s t l r : RankShape α} {k k' : RankItem α} {key pivot : RankKey α} {c c' : Nat}

/-! ## Items -/

@[simp] lemma merge_leaf (t : RankShape α) : t.merge leaf = t := by
  cases t <;> rfl

lemma merge_node (l r l' r' : RankShape α) (k k' : RankItem α) (c c' : Nat) :
    (node l k c r).merge (node l' k' c' r') =
      if k.key.weight > k'.key.weight then l.join k (r.merge (node l' k' c' r'))
      else ((node l k c r).merge l').join k' r' := rfl

@[simp] lemma items_join (l : RankShape α) (k : RankItem α) (r : RankShape α) :
    (l.join k r).items = l.items ++ k :: r.items := rfl

/-- What holds of two trees that are joined: one of them is empty, or one of the two roots is joined
last. -/
lemma merge_induction {P : RankShape α → RankShape α → Prop} (left : ∀ t, P leaf t)
    (right : ∀ l k c r, P (node l k c r) leaf)
    (first : ∀ l k c r l' k' c' r', k.key.weight > k'.key.weight →
      P r (node l' k' c' r') → P (node l k c r) (node l' k' c' r'))
    (second : ∀ l k c r l' k' c' r', ¬ k.key.weight > k'.key.weight →
      P (node l k c r) l' → P (node l k c r) (node l' k' c' r'))
    (s t : RankShape α) : P s t := by
  induction s generalizing t with
  | leaf => exact left t
  | node l k c r _ ihr =>
    induction t with
    | leaf => exact right l k c r
    | node l' k' c' r' ihl' _ =>
      by_cases hweight : k.key.weight > k'.key.weight
      · exact first l k c r l' k' c' r' hweight (ihr _)
      · exact second l k c r l' k' c' r' hweight ihl'

@[simp] lemma items_merge (s t : RankShape α) : (s.merge t).items = s.items ++ t.items := by
  induction s, t using merge_induction with
  | left t => rfl
  | right l k c r => simp [items]
  | first l k c r l' k' c' r' hweight ih => simp [merge_node, hweight, items, ih]
  | second l k c r l' k' c' r' hweight ih => simp [merge_node, hweight, items, ih]

@[simp] lemma items_split [Ord α] (pivot : RankKey α) (t : RankShape α) :
    (t.split pivot).1.items ++ (t.split pivot).2.items = t.items := by
  induction t with
  | leaf => rfl
  | node l k c r ihl ihr =>
    unfold split
    split
    · simp [items, ← ihr]
    · simp [items, ← ihl]

/-- The items after an insertion: the new one between those below it and the others. -/
lemma items_insert [Ord α] (k : RankItem α) (t : RankShape α) :
    (t.insert k).items = (t.split k.key).1.items ++ k :: (t.split k.key).2.items := by
  simp [insert, single, items]

lemma items_insert_perm [Ord α] (k : RankItem α) (t : RankShape α) :
    (t.insert k).items.Perm (k :: t.items) := by
  rw [items_insert]
  refine List.perm_middle.trans ?_
  rw [items_split]

lemma items_erase_sublist [Ord α] (key : RankKey α) (t : RankShape α) :
    (t.erase key).items.Sublist t.items := by
  induction t with
  | leaf => exact List.Sublist.slnil
  | node l k c r ihl ihr =>
    rw [erase, items]
    split
    · exact ihl.append_right _
    · split
      · exact (ihr.cons_cons k).append_left _
      · rw [items_merge]
        exact (List.sublist_cons_self k _).append_left _

lemma keys_erase_sublist [Ord α] (key : RankKey α) (t : RankShape α) :
    (t.erase key).keys.Sublist t.keys :=
  (items_erase_sublist key t).map RankItem.key

lemma slots_erase_sublist [Ord α] (key : RankKey α) (t : RankShape α) :
    (t.erase key).slots.Sublist t.slots :=
  (items_erase_sublist key t).map RankItem.slot

lemma keys_insert_perm [Ord α] (k : RankItem α) (t : RankShape α) :
    (t.insert k).keys.Perm (k.key :: t.keys) :=
  (items_insert_perm k t).map RankItem.key

lemma slots_insert_perm [Ord α] (k : RankItem α) (t : RankShape α) :
    (t.insert k).slots.Perm (k.slot :: t.slots) :=
  (items_insert_perm k t).map RankItem.slot

lemma keys_node : (node l k c r).keys = l.keys ++ k.key :: r.keys := by
  simp [keys, items]

lemma keys_join : (l.join k r).keys = l.keys ++ k.key :: r.keys := keys_node

lemma slots_node : (node l k c r).slots = l.slots ++ k.slot :: r.slots := by
  simp [slots, items]

lemma slots_join : (l.join k r).slots = l.slots ++ k.slot :: r.slots := slots_node

lemma keys_merge (s t : RankShape α) : (s.merge t).keys = s.keys ++ t.keys := by
  simp [keys]

lemma slots_merge (s t : RankShape α) : (s.merge t).slots = s.slots ++ t.slots := by
  simp [slots]

lemma keys_split [Ord α] (pivot : RankKey α) (t : RankShape α) :
    (t.split pivot).1.keys ++ (t.split pivot).2.keys = t.keys := by
  rw [keys, keys, ← List.map_append, items_split, keys]

lemma slots_split [Ord α] (pivot : RankKey α) (t : RankShape α) :
    (t.split pivot).1.slots ++ (t.split pivot).2.slots = t.slots := by
  rw [slots, slots, ← List.map_append, items_split, slots]

/-- If a key is found, its slot is the one that is left out. -/
lemma slots_erase_perm [Ord α] {slot : Nat} (h : t.slotOf? key = some slot) :
    t.slots.Perm (slot :: (t.erase key).slots) := by
  induction t with
  | leaf => simp [slotOf?] at h
  | node l k c r ihl ihr =>
    rw [slotOf?] at h
    rw [erase, slots_node]
    split at h
    · next hbelow =>
      rw [if_pos hbelow, slots_join]
      exact (ihl h).append_right _
    · next hbelow =>
      rw [if_neg hbelow]
      split at h
      · next habove =>
        rw [if_pos habove, slots_join]
        exact (((ihr h).cons _).append_left _).trans
          (((List.Perm.swap _ _ _).append_left _).trans List.perm_middle)
      · next habove =>
        rw [if_neg habove, slots_merge, Option.some.inj h]
        exact List.perm_middle

lemma slot_mem_of_slotOf? [Ord α] {slot : Nat} (h : t.slotOf? key = some slot) : slot ∈ t.slots :=
  (slots_erase_perm h).mem_iff.mpr List.mem_cons_self

/-! ## Counts -/

/-- Every node stores the number of nodes below and including it. -/
def Counted : RankShape α → Prop
  | leaf => True
  | node l _ c r => c = 1 + l.count + r.count ∧ l.Counted ∧ r.Counted

lemma Counted.count_eq (h : t.Counted) : t.count = t.keys.length := by
  induction t with
  | leaf => rfl
  | node l k c r ihl ihr =>
    obtain ⟨hc, hl, hr⟩ := h
    rw [count, hc, keys_node, List.length_append, List.length_cons, ihl hl, ihr hr]
    omega

lemma Counted.join (hl : l.Counted) (hr : r.Counted) (k : RankItem α) : (l.join k r).Counted :=
  ⟨rfl, hl, hr⟩

lemma Counted.merge (hs : s.Counted) (ht : t.Counted) : (s.merge t).Counted := by
  induction s, t using merge_induction with
  | left t => exact ht
  | right l k c r => exact hs
  | first l k c r l' k' c' r' hweight ih =>
    rw [merge_node, if_pos hweight]
    exact hs.2.1.join (ih hs.2.2 ht) k
  | second l k c r l' k' c' r' hweight ih =>
    rw [merge_node, if_neg hweight]
    exact (ih hs ht.2.1).join ht.2.2 k'

variable [Ord α]

lemma Counted.split (ht : t.Counted) (pivot : RankKey α) :
    (t.split pivot).1.Counted ∧ (t.split pivot).2.Counted := by
  induction t with
  | leaf => exact ⟨trivial, trivial⟩
  | node l k c r ihl ihr =>
    obtain ⟨-, hl, hr⟩ := ht
    rw [RankShape.split]
    split
    · exact ⟨hl.join (ihr hr).1 k, (ihr hr).2⟩
    · exact ⟨(ihl hl).1, (ihl hl).2.join hr k⟩

lemma Counted.erase (ht : t.Counted) (key : RankKey α) : (t.erase key).Counted := by
  induction t with
  | leaf => trivial
  | node l k c r ihl ihr =>
    obtain ⟨-, hl, hr⟩ := ht
    rw [RankShape.erase]
    split
    · exact (ihl hl).join hr k
    · split
      · exact hl.join (ihr hr) k
      · exact hl.merge hr

lemma Counted.insert (ht : t.Counted) (k : RankItem α) : (t.insert k).Counted := by
  have hsingle : (single k).Counted := Counted.join (l := leaf) (r := leaf) trivial trivial k
  exact ((ht.split k.key).1.merge hsingle).merge (ht.split k.key).2

end RankShape
end CacheSim
