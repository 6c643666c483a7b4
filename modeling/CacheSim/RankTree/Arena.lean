import CacheSim.Hash.SplitMix

/-!
# Search trees in an arena

The nodes of a search tree are kept in numbered slots and name their subtrees by slots.  Keys are
ordered by value, then by the number under which they entered, so the order is strict.  The hash of
that number is the weight of a node, and the tree is kept a max-heap on weights; since weights of
different numbers differ, the keys determine the tree.  Every node stores the number of nodes below
and including it.

A slot that is given back keeps its node until it is used again, which happens before a new slot is
opened, the latest one first.

Nothing in an arena keeps links from leading in a circle or out of it.  A function that follows
links has a result if it comes to an end and meets slots only; otherwise it has none.
-/

namespace CacheSim

/-- An occurrence of a value. -/
structure RankKey (α : Type) where
  /-- The value itself. -/
  value : α
  /-- The number of insertions made before this one, which stands for a 64-bit word like
  `RankTree.nextUid`. -/
  uid : Nat

namespace RankKey

variable {α : Type}

/-- The weight that balances the tree. -/
def weight (k : RankKey α) : UInt64 :=
  splitMix (UInt64.ofNat k.uid)

/-- Keys are ordered by value, then by the number under which they entered. -/
def before [Ord α] (a b : RankKey α) : Bool :=
  match compare a.value b.value with
  | .lt => true
  | .eq => decide (a.uid < b.uid)
  | .gt => false

end RankKey

/-- A node of a search tree. -/
structure RankNode (α : Type) where
  /-- The key. -/
  key : RankKey α
  /-- The weight of the key. -/
  weight : UInt64
  /-- The number of nodes below and including this one. -/
  count : Nat
  /-- The slot of the subtree of smaller keys. -/
  left : Option Nat
  /-- The slot of the subtree of larger keys. -/
  right : Option Nat

/-- A node without subtrees. -/
def RankNode.single {α : Type} (k : RankKey α) : RankNode α :=
  ⟨k, k.weight, 1, none, none⟩

/-- Slots for the nodes of a search tree. -/
structure RankArena (α : Type) where
  /-- What is in the slots. -/
  nodes : Array (RankNode α) := #[]
  /-- The slots that may be used again, those given back last first. -/
  free : List Nat := []

namespace RankArena

variable {α : Type}

/-! ## Slots -/

/-- Puts a node into a slot. -/
def put (a : RankArena α) (slot : Nat) (node : RankNode α) : Option (RankArena α) :=
  if slot < a.nodes.size then some { a with nodes := a.nodes.setIfInBounds slot node } else none

/-- Finds a slot for a key. -/
def alloc (a : RankArena α) (k : RankKey α) : Option (Nat × RankArena α) :=
  match a.free with
  | [] => some (a.nodes.size, { a with nodes := a.nodes.push (.single k) })
  | slot :: free => do
    let a ← { a with free := free }.put slot (.single k)
    some (slot, a)

/-- Gives a slot back. -/
def release (a : RankArena α) (slot : Nat) : RankArena α :=
  { a with free := slot :: a.free }

/-- The number of nodes of the tree at a slot, as stored. -/
def countOf (a : RankArena α) : Option Nat → Option Nat
  | none => some 0
  | some slot => (a.nodes[slot]?).map RankNode.count

/-- Changes the links of a node, and counts again. -/
def relink (a : RankArena α) (slot : Nat) (change : RankNode α → RankNode α) :
    Option (RankArena α) := do
  let node := change (← a.nodes[slot]?)
  let below ← a.countOf node.left
  let above ← a.countOf node.right
  a.put slot { node with count := 1 + below + above }

/-! ## Changing a tree -/

/-- Splits a tree into the keys below `pivot` and all others. -/
def split [Ord α] (pivot : RankKey α) (a : RankArena α) (root : Option Nat) :
    Option ((Option Nat × Option Nat) × RankArena α) :=
  match root with
  | none => some ((none, none), a)
  | some slot => do
    let node ← a.nodes[slot]?
    if node.key.before pivot then
      let ((left, right), a) ← a |>.split pivot node.right
      let a ← a.relink slot fun node => { node with right := left }
      some ((some slot, right), a)
    else
      let ((left, right), a) ← a |>.split pivot node.left
      let a ← a.relink slot fun node => { node with left := right }
      some ((left, some slot), a)
partial_fixpoint

/-- Joins two trees, all keys of the first being below those of the second.  Of the two roots the
heavier one becomes the root. -/
def merge (a : RankArena α) (left right : Option Nat) : Option (Option Nat × RankArena α) :=
  match left, right with
  | none, other => some (other, a)
  | other, none => some (other, a)
  | some x, some y => do
    let nodeX ← a.nodes[x]?
    let nodeY ← a.nodes[y]?
    if nodeX.weight > nodeY.weight then
      let (merged, a) ← a |>.merge nodeX.right (some y)
      let a ← a.relink x fun node => { node with right := merged }
      some (some x, a)
    else
      let (merged, a) ← a |>.merge (some x) nodeY.left
      let a ← a.relink y fun node => { node with left := merged }
      some (some y, a)
partial_fixpoint

/-- Removes a key from a tree.  How its slot is given back is left open, since nothing depends on
what becomes of the slot then. -/
def eraseWith [Ord α] (release : RankArena α → Nat → RankArena α) (key : RankKey α)
    (a : RankArena α) (root : Option Nat) : Option (Option Nat × RankArena α) :=
  match root with
  | none => some (none, a)
  | some slot => do
    let node ← a.nodes[slot]?
    if key.before node.key then
      let (left, a) ← a |>.eraseWith release key node.left
      let a ← a.relink slot fun node => { node with left := left }
      some (some slot, a)
    else if node.key.before key then
      let (right, a) ← a |>.eraseWith release key node.right
      let a ← a.relink slot fun node => { node with right := right }
      some (some slot, a)
    else
      (release a slot).merge node.left node.right
partial_fixpoint

/-- Removes a key from a tree, and gives its slot back. -/
def erase [Ord α] (key : RankKey α) (a : RankArena α) (root : Option Nat) :
    Option (Option Nat × RankArena α) :=
  a.eraseWith release key root

/-- Joins the key at a slot of its own to a tree. -/
def graft [Ord α] (a : RankArena α) (k : RankKey α) (slot : Nat) (root : Option Nat) :
    Option (Option Nat × RankArena α) := do
  let ((left, right), a) ← a.split k root
  let (left, a) ← a.merge left (some slot)
  a.merge left right

/-- Puts a key into a tree. -/
def place [Ord α] (a : RankArena α) (k : RankKey α) (root : Option Nat) :
    Option (Option Nat × RankArena α) := do
  let (slot, a) ← a.alloc k
  a.graft k slot root

/-! ## Searching a tree -/

/-- The first key whose value is at least `v`, or else the best one so far. -/
def firstFrom? [Ord α] (a : RankArena α) (v : α) (best : Option (RankKey α)) (root : Option Nat) :
    Option (RankKey α) :=
  match root with
  | none => best
  | some slot => do
    let node ← a.nodes[slot]?
    if node.key.before ⟨v, 0⟩ then a |>.firstFrom? v best node.right
    else a |>.firstFrom? v (some node.key) node.left
partial_fixpoint

/-- The number of keys whose value is below `v`, added to those so far. -/
def countBelow [Ord α] (a : RankArena α) (v : α) (rank : Nat) (root : Option Nat) : Option Nat :=
  match root with
  | none => some rank
  | some slot => do
    let node ← a.nodes[slot]?
    if node.key.before ⟨v, 0⟩ then
      let below ← a.countOf node.left
      a |>.countBelow v (rank + (below + 1)) node.right
    else a |>.countBelow v rank node.left
partial_fixpoint

/-- The value at position `i` in order. -/
def get? (a : RankArena α) (i : Nat) (root : Option Nat) : Option α :=
  match root with
  | none => none
  | some slot => do
    let node ← a.nodes[slot]?
    let below ← a.countOf node.left
    if i < below then a |>.get? i node.left
    else if i = below then some node.key.value
    else a |>.get? (i - (below + 1)) node.right
partial_fixpoint

/-- The value where links of one kind end, or else the one found so far. -/
def farthest (a : RankArena α) (next : RankNode α → Option Nat) (found : α) (root : Option Nat) :
    Option α :=
  match root with
  | none => some found
  | some slot => do
    let node ← a.nodes[slot]?
    a |>.farthest next node.key.value (next node)
partial_fixpoint

/-- Notes the nodes on the way to the first key of a tree, the last one in front. -/
def pushLeft (a : RankArena α) (stack : List Nat) (root : Option Nat) : Option (List Nat) :=
  match root with
  | none => some stack
  | some slot => do
    let node ← a.nodes[slot]?
    a |>.pushLeft (slot :: stack) node.left
partial_fixpoint

end RankArena

end CacheSim
