import CacheSim.Quantile
import CacheSim.RankTree.Arena

/-!
# Ranked multisets

A `RankTree` holds a multiset of values in ascending order and answers which value has a given rank,
how many values lie below a given one, and which value sits at a percentile.

The values are the nodes of a search tree in an arena.  Equal values are told apart by the number
under which they entered.  Every occurrence of a value keeps a slot for as long as it is in the
multiset.  Slots are used again, so the arena has never more of them than the largest size that the
multiset has had since it was last cleared.

A call that finds its links broken would leave an arena without nodes; no calls lead there.
-/

namespace CacheSim

/-- A multiset of values that is kept in order. -/
structure RankTree (α : Type) where
  /-- The nodes of the tree. -/
  arena : RankArena α
  /-- The slot of the root. -/
  root : Option Nat
  /-- The number of values. -/
  size : Nat
  /-- The number of insertions made so far.  It stands for a 64-bit word as long as fewer than
  `2 ^ 64` insertions are made, which `Cache.InRange` shows for a cache. -/
  nextUid : Nat

namespace RankTree

variable {α : Type}

/-- The multiset without values. -/
def empty : RankTree α := ⟨{}, none, 0, 0⟩

instance : EmptyCollection (RankTree α) := ⟨empty⟩

instance : Inhabited (RankTree α) := ⟨empty⟩

/-- Whether there are no values. -/
def isEmpty (t : RankTree α) : Bool :=
  t.size == 0

/-- Adds one occurrence of a value. -/
def insert [Ord α] (t : RankTree α) (v : α) : RankTree α :=
  let placed := (t.arena.place ⟨v, t.nextUid⟩ t.root).getD (none, {})
  { arena := placed.2, root := placed.1, size := t.size + 1, nextUid := t.nextUid + 1 }

/-- The occurrence that stands for a value: the first one of it. -/
def find? [Ord α] (t : RankTree α) (v : α) : Option (RankKey α) :=
  (t.arena.firstFrom? v none t.root).filter fun k => compare k.value v == .eq

/-- Whether a value occurs. -/
def contains [Ord α] (t : RankTree α) (v : α) : Bool :=
  (t.find? v).isSome

/-- Takes out one occurrence of a value, if it occurs. -/
def erase [Ord α] (t : RankTree α) (v : α) : RankTree α :=
  match t.find? v with
  | none => t
  | some key =>
    let erased := (t.arena.erase key t.root).getD (none, {})
    { arena := erased.2, root := erased.1, size := t.size - 1, nextUid := t.nextUid }

/-- Takes out one occurrence of a value, and tells whether there was one. -/
def remove [Ord α] (t : RankTree α) (v : α) : Bool × RankTree α :=
  (t.contains v, t.erase v)

/-- Takes out every value and closes all slots.  Later insertions keep counting from where they
were. -/
def clear (t : RankTree α) : RankTree α :=
  { t with arena := {}, root := none, size := 0 }

/-- The value at position `i` in ascending order. -/
def get? (t : RankTree α) (i : Nat) : Option α :=
  if t.size ≤ i then none else t.arena.get? i t.root

/-- The number of values strictly below `v`. -/
def rank [Ord α] (t : RankTree α) (v : α) : Nat :=
  (t.arena.countBelow v 0 t.root).getD 0

/-- The smallest value, or the default if there is none. -/
def min [Inhabited α] (t : RankTree α) : α :=
  (t.arena.farthest RankNode.left default t.root).getD default

/-- The largest value, or the default if there is none. -/
def max [Inhabited α] (t : RankTree α) : α :=
  (t.arena.farthest RankNode.right default t.root).getD default

/-- The value at percentile `p`, or the default if there are no values. -/
def percentile [Inhabited α] (t : RankTree α) (p : Float) : α :=
  if t.size = 0 then default else (t.get? (quantileIndex p t.size)).getD default

/-! ## Going through the values -/

/-- Where a walk through the values stands. -/
structure Walk (α : Type) where
  /-- The nodes that it goes through. -/
  arena : RankArena α
  /-- The slots of the nodes whose turn comes, the next one first, each before what is right of
  it. -/
  stack : List Nat

namespace Walk

/-- The next value, and where the walk stands after it. -/
def next? (w : Walk α) : Option (α × Walk α) :=
  match w.stack with
  | [] => none
  | slot :: rest => do
    let node ← w.arena.nodes[slot]?
    let stack ← w.arena.pushLeft rest node.right
    some (node.key.value, { w with stack := stack })

/-- The next values, at most `n` of them. -/
def take : Nat → Walk α → List α
  | 0, _ => []
  | n + 1, w =>
    match w.next? with
    | none => []
    | some (v, w) => v :: take n w

end Walk

/-- A walk through all values in ascending order. -/
def walk (t : RankTree α) : Walk α :=
  ⟨t.arena, (t.arena.pushLeft [] t.root).getD []⟩

/-- The values in ascending order. -/
def toList (t : RankTree α) : List α :=
  t.walk.take t.size

end RankTree

end CacheSim
