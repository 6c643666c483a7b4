import CacheSim.Roster
import CacheSim.Tally
import CacheSim.Trace.Request

/-!
# A simulated cache

A `Cache` stores objects within a capacity of bytes.  Its clock is the number of requests
served.  A request for a stored object is a hit.  Any other request is a miss: objects are
evicted until the new one fits, and it is admitted; an object that is larger than the whole cache
is passed by.

The stored objects are also on the roster of the policy, which picks the victims.  The two are
kept in step by every operation.
-/

namespace CacheSim

/-- Why a cache cannot go on. -/
inductive Refusal where
  /-- There is nothing to evict, though room is needed. -/
  | nothingToEvict (occupied capacity : UInt64)
  /-- A counter left its range. -/
  | fault (f : Fault)
  deriving DecidableEq

namespace Refusal

/-- The text of the refusal. -/
def message : Refusal → String
  | nothingToEvict occupied capacity =>
    "Cache over budget (" ++ toString occupied ++ " of " ++ toString capacity ++
      " bytes) but nothing is evictable"
  | fault f => f.message

end Refusal

/-- A fault of a counter is a refusal. -/
instance : MonadLift (Except Fault) (Except Refusal) where
  monadLift := Except.mapError .fault

/-- A stored object. -/
structure Stored where
  /-- The ticket of its admission. -/
  ticket : Ticket
  /-- The bytes it takes. -/
  size : UInt64
  deriving DecidableEq

/-- A simulated cache. -/
structure Cache where
  /-- The bytes that can be stored. -/
  capacity : UInt64
  /-- The bytes that are stored. -/
  occupied : UInt64
  /-- The stored objects by id. -/
  stored : Std.TreeMap ObjectId Stored
  /-- The stored objects as the policy sees them. -/
  roster : Roster
  /-- The serial number of the next admission. -/
  nextSerial : UInt64
  /-- The number of requests served. -/
  clock : UInt64
  /-- Whether every object counts as one byte. -/
  unitSizes : Bool
  /-- The counters. -/
  tally : Tally

/-- What a request led to. -/
structure Reply where
  /-- Whether the object was stored. -/
  hit : Bool
  /-- The evicted objects, in the order of their evictions. -/
  victims : List Ticket
  deriving DecidableEq

namespace Cache

/-- A cache without objects. -/
def new (capacity : UInt64) (roster : Roster) (unitSizes : Bool) : Cache where
  capacity := capacity
  occupied := 0
  stored := ∅
  roster := roster
  nextSerial := 0
  clock := 0
  unitSizes := unitSizes
  tally := { cacheSize := capacity, simulatedSize := capacity }

/-- Reports the counters under another cache size than the simulated one. -/
def withNominalSize (c : Cache) (size : UInt64) : Cache :=
  { c with tally := { c.tally with cacheSize := size } }

/-- The number of stored objects. -/
def size (c : Cache) : Nat :=
  c.stored.size

/-- Whether nothing is stored. -/
def isEmpty (c : Cache) : Bool :=
  c.stored.isEmpty

/-- Whether an object is stored. -/
def contains (c : Cache) (id : ObjectId) : Bool :=
  c.stored.contains id

/-- The bytes that a request counts for. -/
def effectiveSize (c : Cache) (r : Request) : UInt64 :=
  if c.unitSizes then 1 else r.size

/-- Takes a victim out of the store. -/
def drop (c : Cache) (t : Ticket) : Except Fault Cache :=
  match c.stored[t.id]? with
  | none => .ok c
  | some object => do
    let occupied ← Word.sub c.occupied object.size
    let tally ← c.tally.countEviction
    .ok { c with stored := c.stored.erase t.id, occupied := occupied, tally := tally }

/-- Evicts the next victim at `now`. -/
def evict (c : Cache) (now : UInt64) : Except Refusal (Ticket × Cache) :=
  match c.roster.popVictim? with
  | none => .error (.nothingToEvict c.occupied c.capacity)
  | some (victim, roster) => do
    let c ← ({ c with roster := roster } : Cache).drop victim
    let roster ← c.roster.evict now victim
    .ok (victim, { c with roster := roster })

/-- Evicts until `size` more bytes fit, at most `n` times. -/
def makeRoom (now size : UInt64) : Nat → Cache → Except Refusal (List Ticket × Cache)
  | n, c => do
    let needed ← Word.add c.occupied size
    if needed ≤ c.capacity then .ok ([], c)
    else
      match n with
      | 0 => .error (.nothingToEvict c.occupied c.capacity)
      | n + 1 =>
        let (victim, c) ← c.evict now
        let (victims, c) ← makeRoom now size n c
        .ok (victim :: victims, c)

/-- Stores an object that fits. -/
def store (c : Cache) (id : ObjectId) (size : UInt64) : Except Fault Cache := do
  let ticket : Ticket := ⟨c.nextSerial, id⟩
  let nextSerial ← Word.add c.nextSerial 1
  let occupied ← Word.add c.occupied size
  let roster ← c.roster.insert c.clock ticket size
  .ok { c with
    nextSerial := nextSerial
    stored := c.stored.insert id ⟨ticket, size⟩
    occupied := occupied
    roster := roster }

/-- Counts a request, moving the clock on. -/
def tick (c : Cache) (size : UInt64) : Except Fault Cache := do
  let clock ← Word.add c.clock 1
  let tally ← c.tally.countRequest size
  .ok { c with clock := clock, tally := tally }

/-- Serves a request for an object that is not stored. -/
def admitMissing (c : Cache) (id : ObjectId) (size : UInt64) : Except Refusal (Reply × Cache) := do
  let tally ← c.tally.countMiss size
  let c := { c with tally := tally }
  if c.capacity < size then
    let tally ← c.tally.countBypass
    .ok (⟨false, []⟩, { c with tally := tally })
  else
    let (victims, c) ← makeRoom c.clock size c.roster.queue.size c
    let c ← c.store id size
    .ok (⟨false, victims⟩, c)

/-- Serves a request. -/
def request (c : Cache) (r : Request) : Except Refusal (Reply × Cache) := do
  let size := c.effectiveSize r
  let c ← c.tick size
  match c.stored[r.id]? with
  | some object =>
    let roster ← c.roster.touch c.clock object.ticket
    .ok (⟨true, []⟩, { c with roster := roster })
  | none => c.admitMissing r.id size

/-- Drops all objects and everything the policy knows.  The counters and the clock go on. -/
def clear (c : Cache) : Cache :=
  { c with stored := ∅, occupied := 0, roster := c.roster.clear }

/-- Serves requests in order. -/
def replay (c : Cache) (requests : List Request) : Except Refusal Cache :=
  requests.foldlM (fun c r => (·.2) <$> c.request r) c

end Cache

end CacheSim
