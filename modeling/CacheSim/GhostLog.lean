import Std.Data.TreeMap
import CacheSim.Word

/-!
# Ghosts of evicted objects

A `GhostLog` remembers the most recently evicted objects.  It is bounded by the bytes of the
objects it remembers and holds at most one ghost of each object: a second eviction replaces the
first ghost, and whenever the log is over its budget the oldest ghosts are forgotten.

Ghosts are filed under places, each with the places of its two neighbours in time, and a second
map leads from an object to its place.  A place is never used again.  Following the neighbours from
the oldest ghost gives `GhostLog.toList`, and following them back from the newest one gives
`GhostLog.newestFirst`.
-/

namespace CacheSim

/-- What is remembered of an evicted object. -/
structure Ghost where
  /-- The object. -/
  id : UInt64
  /-- Its size in bytes. -/
  size : UInt64
  /-- How often it had been accessed when it was evicted. -/
  accesses : UInt32
  /-- How long it had been cached when it was evicted. -/
  age : UInt64
  deriving DecidableEq

/-- A filed ghost with its neighbours. -/
structure GhostNode where
  /-- The ghost. -/
  ghost : Ghost
  /-- The place of the next older ghost. -/
  older : Option Nat
  /-- The place of the next newer ghost. -/
  newer : Option Nat

/-- A log of evicted objects within a budget of bytes. -/
structure GhostLog where
  /-- The ghosts by place, with their neighbours. -/
  nodes : Std.TreeMap Nat GhostNode
  /-- The place of each remembered object. -/
  places : Std.TreeMap UInt64 Nat
  /-- The place of the oldest ghost. -/
  head : Option Nat
  /-- The place of the newest ghost. -/
  tail : Option Nat
  /-- The place of the next ghost. -/
  nextPlace : Nat
  /-- The bytes of all ghosts. -/
  totalSize : UInt64
  /-- The bytes that may be remembered. -/
  budget : UInt64

namespace GhostLog

/-- The log that remembers nothing yet. -/
def empty (budget : UInt64) : GhostLog where
  nodes := ∅
  places := ∅
  head := none
  tail := none
  nextPlace := 0
  totalSize := 0
  budget := budget

/-- The ghosts that are met from a place onwards, when one neighbour is followed at most `n`
times. -/
def walk (log : GhostLog) (next : GhostNode → Option Nat) : Nat → Option Nat → List Ghost
  | 0, _ => []
  | n + 1, place =>
    match place.bind (log.nodes[·]?) with
    | none => []
    | some node => node.ghost :: walk log next n (next node)

/-- The ghosts, oldest first. -/
def toList (log : GhostLog) : List Ghost :=
  log.walk GhostNode.newer log.nodes.size log.head

/-- The ghosts, newest first. -/
def newestFirst (log : GhostLog) : List Ghost :=
  log.walk GhostNode.older log.nodes.size log.tail

/-- The number of ghosts. -/
def size (log : GhostLog) : Nat :=
  log.places.size

/-- Whether nothing is remembered. -/
def isEmpty (log : GhostLog) : Bool :=
  log.places.isEmpty

/-- Whether an object is remembered. -/
def contains (log : GhostLog) (id : UInt64) : Bool :=
  log.places.contains id

/-- The ghost of an object. -/
def get? (log : GhostLog) (id : UInt64) : Option Ghost :=
  (log.places[id]?.bind (log.nodes[·]?)).map GhostNode.ghost

/-- Lets the ghost at a place know its newer neighbour.  Without a place that neighbour is the
oldest ghost. -/
def setNewer (log : GhostLog) (place newer : Option Nat) : GhostLog :=
  match place with
  | none => { log with head := newer }
  | some place =>
    { log with nodes := log.nodes.modify place fun node => { node with newer := newer } }

/-- Lets the ghost at a place know its older neighbour.  Without a place that neighbour is the
newest ghost. -/
def setOlder (log : GhostLog) (place older : Option Nat) : GhostLog :=
  match place with
  | none => { log with tail := older }
  | some place =>
    { log with nodes := log.nodes.modify place fun node => { node with older := older } }

/-- Takes out the ghost at a place, so that its neighbours become neighbours of each other. -/
def unlink (log : GhostLog) (place : Nat) (node : GhostNode) : GhostLog :=
  let log := { log with nodes := log.nodes.erase place }
  (log.setNewer node.older node.newer).setOlder node.newer node.older

/-- Puts a ghost behind the newest one. -/
def link (log : GhostLog) (ghost : Ghost) : GhostLog :=
  let place := log.nextPlace
  let log := { log with
    nodes := log.nodes.insert place ⟨ghost, log.tail, none⟩
    nextPlace := place + 1 }
  { log.setNewer log.tail (some place) with tail := some place }

/-- Forgets an object. -/
def remove (log : GhostLog) (id : UInt64) : Except Fault GhostLog :=
  match log.places[id]? with
  | none => .ok log
  | some place =>
    match log.nodes[place]? with
    | none => .ok { log with places := log.places.erase id }
    | some node => do
      let rest ← Word.sub log.totalSize node.ghost.size
      .ok { log.unlink place node with
        places := log.places.erase id
        totalSize := rest }

/-- Forgets the oldest ghosts while the log is over its budget, at most `n` of them. -/
def purge : Nat → GhostLog → Except Fault GhostLog
  | 0, log => .ok log
  | n + 1, log =>
    if log.totalSize ≤ log.budget then .ok log
    else
      match log.head.bind (log.nodes[·]?) with
      | none => .ok log
      | some oldest => log.remove oldest.ghost.id >>= purge n

/-- Files a ghost as the newest one, without regard to the budget. -/
def append (log : GhostLog) (ghost : Ghost) : Except Fault GhostLog := do
  let total ← Word.add log.totalSize ghost.size
  .ok { log.link ghost with
    places := log.places.insert ghost.id log.nextPlace
    totalSize := total }

/-- Remembers an eviction.  An older ghost of the same object is replaced; a ghost that is larger
than the whole budget is forgotten with all others. -/
def record (log : GhostLog) (ghost : Ghost) : Except Fault GhostLog := do
  let log ← log.remove ghost.id
  let log ← log.append ghost
  purge log.nodes.size log

/-- Forgets everything. -/
def clear (log : GhostLog) : GhostLog :=
  { log with nodes := ∅, places := ∅, head := none, tail := none, totalSize := 0 }

/-- Looks for an object among ghosts that are listed newest first, of which `passed` bytes have been
passed over, and gives up once `window` bytes are passed. -/
def scan (id window : UInt64) : UInt64 → List Ghost → Except Fault Bool
  | _, [] => .ok false
  | passed, ghost :: older =>
    if window ≤ passed then .ok false
    else if ghost.id = id then .ok true
    else Word.add passed ghost.size >>= fun passed => scan id window passed older

/-- Whether an object was evicted within the most recent `window` bytes of evictions: the ghosts
newer than its own are together smaller than the window. -/
def withinLast (log : GhostLog) (id window : UInt64) : Except Fault Bool :=
  scan id window 0 log.newestFirst

end GhostLog

end CacheSim
