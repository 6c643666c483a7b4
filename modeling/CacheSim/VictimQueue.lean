import Std.Data.TreeMap
import Std.Data.TreeSet

/-!
# The queue of eviction candidates

A `VictimQueue` gives each queued ticket a priority and hands out the ticket with the least one;
among equal priorities the lesser ticket goes first.  Priorities may be changed at any time, so
the queue is an ordered set of pairs together with a map that leads from a ticket to its priority.
Nothing is asked of tickets but that they can be compared.
-/

namespace CacheSim

/-- An eviction priority; the smallest is evicted first. -/
abbrev Priority := Int

/-- A queued ticket with its priority. -/
structure Candidate (α : Type) where
  /-- The priority under which the ticket is queued. -/
  priority : Priority
  /-- The ticket. -/
  ticket : α
  deriving DecidableEq

variable {α : Type} [Ord α]

namespace Candidate

/-- Candidates are ordered by priority, then by ticket. -/
instance : Ord (Candidate α) := ⟨compareLex (compareOn priority) (compareOn ticket)⟩

instance [Std.TransOrd α] : Std.TransOrd (Candidate α) :=
  inferInstanceAs (Std.TransCmp (compareLex (compareOn priority) (compareOn ticket)))

instance [Std.TransOrd α] [Std.LawfulEqOrd α] : Std.LawfulEqOrd (Candidate α) where
  eq_of_compare {a b} h := by
    have h' := Ordering.then_eq_eq.1 h
    have hp : a.priority = b.priority := Std.LawfulEqOrd.eq_of_compare h'.1
    have ht : a.ticket = b.ticket := Std.LawfulEqOrd.eq_of_compare h'.2
    cases a; cases b; simp_all

end Candidate

/-- Tickets queued by priority. -/
structure VictimQueue (α : Type) [Ord α] where
  /-- The candidates in order. -/
  order : Std.TreeSet (Candidate α)
  /-- The priority of each queued ticket. -/
  priorities : Std.TreeMap α Priority

namespace VictimQueue

/-- The queue without candidates. -/
def empty : VictimQueue α := ⟨∅, ∅⟩

instance : EmptyCollection (VictimQueue α) := ⟨empty⟩

/-- The candidates, first victim first. -/
def toList (q : VictimQueue α) : List (Candidate α) :=
  q.order.toList

/-- The number of candidates. -/
def size (q : VictimQueue α) : Nat :=
  q.order.size

/-- Whether there are no candidates. -/
def isEmpty (q : VictimQueue α) : Bool :=
  q.order.isEmpty

/-- The priority of a ticket. -/
def priority? (q : VictimQueue α) (t : α) : Option Priority :=
  q.priorities[t]?

/-- Whether a ticket is queued. -/
def contains (q : VictimQueue α) (t : α) : Bool :=
  q.priorities.contains t

/-- Queues a ticket under a priority, in place of the one it was queued under. -/
def set (q : VictimQueue α) (t : α) (p : Priority) : VictimQueue α :=
  let others :=
    match q.priorities[t]? with
    | none => q.order
    | some old => q.order.erase ⟨old, t⟩
  ⟨others.insert ⟨p, t⟩, q.priorities.insert t p⟩

/-- Takes a ticket out of the queue. -/
def erase (q : VictimQueue α) (t : α) : VictimQueue α :=
  match q.priorities[t]? with
  | none => q
  | some p => ⟨q.order.erase ⟨p, t⟩, q.priorities.erase t⟩

/-- Takes a ticket out of the queue, and tells the priority it was queued under. -/
def remove (q : VictimQueue α) (t : α) : Option Priority × VictimQueue α :=
  (q.priorities[t]?, q.erase t)

/-- The first candidate. -/
def first? (q : VictimQueue α) : Option (Candidate α) :=
  q.order.min?

/-- Takes out the first candidate. -/
def pop? (q : VictimQueue α) : Option (Candidate α × VictimQueue α) :=
  q.order.min?.map fun c => (c, ⟨q.order.erase c, q.priorities.erase c.ticket⟩)

end VictimQueue

end CacheSim
