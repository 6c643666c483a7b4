import CacheSim.Proofs.RankTree.Links
import CacheSim.Proofs.RankTree.SearchOrder
import CacheSim.RankTree.Basic

/-!
# Searching stored trees

A search in an arena follows links without changing them.  From the root of a stored tree it comes
to an end, with what can be read off the list of the tree's keys.

* `RankShape.Stored.firstFrom?_eq`, `RankShape.Stored.countBelow_eq`: searches for a value, in a
  sorted tree;
* `RankShape.Stored.get?_eq`: the search for a position, in a counted tree;
* `RankShape.Stored.walk_take`: a walk from the first key on.
-/

namespace CacheSim

variable {α : Type}

namespace RankShape

variable {t l r : RankShape α} {k : RankItem α} {c : Nat} {a : RankArena α} {v : α}

/-- The root of a stored tree is the first node that a search meets. -/
lemma Stored.bind_root {β : Type} {f : RankNode α → Option β} (h : (node l k c r).Stored a.nodes) :
    (do f (← a.nodes[k.slot]?)) = f ⟨k.key, k.key.weight, c, l.link, r.link⟩ :=
  bind_of_some h.1 rfl

/-! ## Positions and ends -/

/-- The stored counts lead to the position. -/
lemma Stored.get?_eq (h : t.Stored a.nodes) (hc : t.Counted) (i : Nat) :
    a.get? i t.link = t.keys[i]?.map RankKey.value := by
  induction t generalizing i with
  | leaf => exact RankArena.get?.eq_1 a i
  | node l k c r ihl ihr =>
    obtain ⟨-, hcl, hcr⟩ := hc
    have hcount := hcl.count_eq
    rw [link, RankArena.get?, h.bind_root, keys_node]
    refine bind_of_some h.2.1.countOf_link ?_
    split
    · next hlt => rw [ihl h.2.1 hcl, List.getElem?_append_left (hcount ▸ hlt)]
    · next hge =>
      rw [List.getElem?_append_right (by omega)]
      split
      · next heq =>
        have hzero : i - l.keys.length = 0 := by omega
        rw [hzero]
        rfl
      · have hsucc : i - l.keys.length = i - (l.count + 1) + 1 := by omega
        rw [ihr h.2.2 hcr, hsucc, List.getElem?_cons_succ]

lemma Stored.farthest_left_eq (h : t.Stored a.nodes) (found : α) :
    a.farthest RankNode.left found t.link = some ((t.keys.head?.map RankKey.value).getD found) := by
  induction t generalizing found with
  | leaf => exact RankArena.farthest.eq_1 a _ found
  | node l k c r ihl _ =>
    rw [link, RankArena.farthest, h.bind_root, ihl h.2.1, keys_node, List.head?_append]
    cases l.keys.head? <;> rfl

lemma Stored.farthest_right_eq (h : t.Stored a.nodes) (found : α) :
    a.farthest RankNode.right found t.link =
      some ((t.keys.getLast?.map RankKey.value).getD found) := by
  induction t generalizing found with
  | leaf => exact RankArena.farthest.eq_1 a _ found
  | node l k c r _ ihr =>
    rw [link, RankArena.farthest, h.bind_root, ihr h.2.2, keys_node, List.getLast?_append,
      List.getLast?_cons]
    cases r.keys.getLast? <;> rfl

/-! ## Values -/

section Values

variable [Ord α] [Std.TransOrd α] [Std.LawfulEqOrd α]

/-- If the root is below a value, everything left of it is. -/
lemma below_of_left (hs : (node l k c r).Sorted) (hk : k.key.before ⟨v, 0⟩ = true) :
    ∀ a ∈ l.keys, compare a.value v = .lt := by
  intro a ha
  by_contra hnot
  exact RankKey.value_not_lt_of_before ((sorted_node.mp hs).2.2.1 a ha) hnot
    (RankKey.before_zero.mp hk)

/-- If the root is not below a value, nothing right of it is. -/
lemma not_below_of_right (hs : (node l k c r).Sorted) (hk : ¬ k.key.before ⟨v, 0⟩ = true) :
    ∀ b ∈ r.keys, compare b.value v ≠ .lt := fun b hb =>
  RankKey.value_not_lt_of_before ((sorted_node.mp hs).2.2.2 b hb) (mt RankKey.before_zero.mpr hk)

/-- The first key from a value on is the first one in order. -/
lemma Stored.firstFrom?_eq (h : t.Stored a.nodes) (hs : t.Sorted) (v : α)
    (best : Option (RankKey α)) :
    a.firstFrom? v best t.link = (t.keys.find? fun k => compare k.value v != .lt).or best := by
  induction t generalizing best with
  | leaf => exact RankArena.firstFrom?.eq_1 a v best
  | node l k c r ihl ihr =>
    obtain ⟨hl, hr, -, -⟩ := sorted_node.mp hs
    rw [link, RankArena.firstFrom?, h.bind_root, keys_node, List.find?_append, List.find?_cons]
    split
    · next hk =>
      have hnone : (l.keys.find? fun k => compare k.value v != .lt) = none :=
        List.find?_eq_none.mpr fun a ha => by simp [below_of_left hs hk a ha]
      rw [ihr h.2.2 hr, hnone, RankKey.before_zero.mp hk]
      rfl
    · next hk =>
      have hnot : (compare k.key.value v != .lt) = true := by
        simpa using mt RankKey.before_zero.mpr hk
      rw [ihl h.2.1 hl, hnot]
      cases l.keys.find? fun k => compare k.value v != .lt <;> rfl

lemma Stored.countBelow_eq (h : t.Stored a.nodes) (hs : t.Sorted) (hc : t.Counted) (v : α)
    (rank : Nat) :
    a.countBelow v rank t.link =
      some (rank + t.keys.countP fun k => compare k.value v == .lt) := by
  induction t generalizing rank with
  | leaf => exact RankArena.countBelow.eq_1 a v rank
  | node l k c r ihl ihr =>
    obtain ⟨hl, hr, -, -⟩ := sorted_node.mp hs
    obtain ⟨-, hcl, hcr⟩ := hc
    rw [link, RankArena.countBelow, h.bind_root, keys_node, List.countP_append, List.countP_cons]
    split
    · next hk =>
      have hall : (l.keys.countP fun k => compare k.value v == .lt) = l.keys.length :=
        List.countP_eq_length.mpr fun a ha => by simp [below_of_left hs hk a ha]
      refine bind_of_some h.2.1.countOf_link ?_
      rw [ihr h.2.2 hr hcr, hall, hcl.count_eq, if_pos (by simp [RankKey.before_zero.mp hk])]
      congr 1
      omega
    · next hk =>
      have hnone : (r.keys.countP fun k => compare k.value v == .lt) = 0 :=
        List.countP_eq_zero.mpr fun b hb => by simpa using not_below_of_right hs hk b hb
      rw [ihl h.2.1 hl hcl, hnone, if_neg (by simpa using mt RankKey.before_zero.mpr hk)]
      rfl

end Values

/-! ## Walks -/

/-- Items whose turn comes, each with the tree right of it. -/
abbrev Turns (α : Type) := List (RankItem α × RankShape α)

/-- The nodes on the way to the first key of a tree come before other turns, the last one first. -/
def turns (rest : Turns α) : RankShape α → Turns α
  | leaf => rest
  | node l k _ r => l.turns ((k, r) :: rest)

/-- The keys that are still to come. -/
def Turns.keys (turns : Turns α) : List (RankKey α) :=
  turns.flatMap fun turn => turn.1.key :: turn.2.keys

/-- Every turn is a node of the arena, with the tree right of it. -/
def Turns.Stored (nodes : Array (RankNode α)) (turns : Turns α) : Prop :=
  ∀ turn ∈ turns, turn.2.Stored nodes ∧
    ∃ node, nodes[turn.1.slot]? = some node ∧ node.key = turn.1.key ∧ node.right = turn.2.link

/-- The slots of the items whose turn comes. -/
def Turns.slots (turns : Turns α) : List Nat :=
  turns.map fun turn => turn.1.slot

lemma keys_turns (t : RankShape α) (rest : Turns α) :
    (t.turns rest).keys = t.keys ++ rest.keys := by
  induction t generalizing rest with
  | leaf => rfl
  | node l k c r ihl _ =>
    rw [turns, ihl, keys_node, List.append_assoc]
    rfl

lemma Stored.turns {rest : Turns α} (h : t.Stored a.nodes) (hrest : rest.Stored a.nodes) :
    (t.turns rest).Stored a.nodes := by
  induction t generalizing rest with
  | leaf => exact hrest
  | node l k c r ihl _ =>
    exact ihl h.2.1 (List.forall_mem_cons.mpr ⟨⟨h.2.2, _, h.1, rfl, rfl⟩, hrest⟩)

lemma Stored.pushLeft_eq (h : t.Stored a.nodes) (rest : Turns α) :
    a.pushLeft rest.slots t.link = some (t.turns rest).slots := by
  induction t generalizing rest with
  | leaf => exact RankArena.pushLeft.eq_1 a _
  | node l k c r ihl _ =>
    rw [link, RankArena.pushLeft, h.bind_root]
    exact ihl h.2.1 ((k, r) :: rest)

/-- A walk goes through the keys of the items whose turn comes. -/
lemma Turns.take_eq {turns : Turns α} (h : turns.Stored a.nodes) (n : Nat) :
    RankTree.Walk.take n ⟨a, turns.slots⟩ = (turns.keys.map RankKey.value).take n := by
  induction n generalizing turns with
  | zero => rfl
  | succ n ih =>
    cases turns with
    | nil => rfl
    | cons turn rest =>
      obtain ⟨⟨hright, node, hnode, hkey, hlink⟩, hrest⟩ := List.forall_mem_cons.mp h
      have hnext : RankTree.Walk.next? ⟨a, Turns.slots (turn :: rest)⟩ =
          some (turn.1.key.value, ⟨a, (turn.2.turns rest).slots⟩) := by
        refine bind_of_some hnode ?_
        rw [hlink, hkey]
        exact bind_of_some (hright.pushLeft_eq rest) rfl
      have hkeys : Turns.keys (turn :: rest) = turn.1.key :: (turn.2.turns rest).keys := by
        rw [keys_turns]
        rfl
      rw [RankTree.Walk.take, hnext, hkeys, List.map_cons, List.take_succ_cons]
      exact congrArg _ (ih (hright.turns hrest))

/-- A walk that starts at the root of a tree goes through its values in order. -/
lemma Stored.walk_take (h : t.Stored a.nodes) (n : Nat) :
    RankTree.Walk.take n ⟨a, (a.pushLeft [] t.link).getD []⟩ =
      (t.keys.map RankKey.value).take n := by
  have hnone : Turns.Stored a.nodes ([] : Turns α) := nofun
  have hpush := h.pushLeft_eq []
  rw [Turns.slots, List.map_nil] at hpush
  rw [hpush, Option.getD_some, Turns.take_eq (h.turns hnone), keys_turns]
  simp [Turns.keys]

end RankShape
end CacheSim
