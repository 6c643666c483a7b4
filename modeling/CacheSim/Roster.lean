import CacheSim.Policy

/-!
# The roster of cached objects

A `Roster` keeps what a policy needs to know about the cached population: the profile of every
object, the three ranked multisets of access counts, admission times and sizes, the ghosts of
evicted objects, and the queue of eviction candidates.  Every transition brings all of them up to
date before an object is scored, so a scorer always sees exactly the cached population with the
scored object in it.

An eviction takes two steps.  `Roster.popVictim?` takes the next victim out of the queue; once it
is out of the cache, `Roster.evict` moves its profile to the ghosts.  A transition that names an
object which is not on the roster, or a ticket of an earlier stay, changes nothing.
-/

namespace CacheSim

/-- An object on the roster. -/
structure Resident where
  /-- The ticket of its admission. -/
  ticket : Ticket
  /-- Its features. -/
  profile : Profile
  deriving DecidableEq

/-- The cached population as the policy sees it. -/
structure Roster where
  /-- The objects by id. -/
  residents : Std.TreeMap ObjectId Resident
  /-- The access counts of the residents. -/
  counts : RankTree UInt32
  /-- The admission times of the residents. -/
  entered : RankTree UInt64
  /-- The sizes of the residents. -/
  sizes : RankTree UInt64
  /-- The objects evicted before. -/
  ghosts : GhostLog
  /-- The candidates for eviction. -/
  queue : VictimQueue Ticket
  /-- The policy. -/
  scorer : Scorer

namespace Roster

/-- A roster without objects. -/
def empty (scorer : Scorer) (ghostBudget : UInt64) : Roster where
  residents := ∅
  counts := ∅
  entered := ∅
  sizes := ∅
  ghosts := .empty ghostBudget
  queue := ∅
  scorer := scorer

/-- A roster without objects, if its ghosts have a budget. -/
def new (scorer : Scorer) (ghostBudget : UInt64) : Except SetupError Roster :=
  if ghostBudget = 0 then .error .noGhostBudget else .ok (empty scorer ghostBudget)

/-- The number of objects. -/
def size (r : Roster) : Nat :=
  r.residents.size

/-- Whether there are no objects. -/
def isEmpty (r : Roster) : Bool :=
  r.residents.isEmpty

/-- The features of an object. -/
def profile? (r : Roster) (id : ObjectId) : Option Profile :=
  r.residents[id]?.map Resident.profile

/-- The resident that was admitted with a ticket. -/
def holder? (r : Roster) (t : Ticket) : Option Resident :=
  r.residents[t.id]?.filter fun resident => resident.ticket == t

/-- What the scorer sees of an object at `now`. -/
def scene (r : Roster) (now : UInt64) (id : ObjectId) (profile : Profile) : Scene where
  now := now
  id := id
  profile := profile
  counts := r.counts
  entered := r.entered
  sizes := r.sizes
  ghosts := r.ghosts

/-- Scores a resident and queues it under its priority. -/
def enqueue (r : Roster) (now : UInt64) (t : Ticket) (profile : Profile) : Except Fault Roster := do
  let priority ← r.scorer.priority (r.scene now t.id profile)
  .ok { r with queue := r.queue.set t priority }

/-- Puts an object on the roster, unless it is there already. -/
def insert (r : Roster) (now : UInt64) (t : Ticket) (size : UInt64) : Except Fault Roster :=
  if r.residents.contains t.id then .ok r
  else
    let profile := Profile.start now size
    let r := { r with
      residents := r.residents.insert t.id ⟨t, profile⟩
      counts := r.counts.insert profile.accesses
      entered := r.entered.insert profile.entered
      sizes := r.sizes.insert profile.size }
    r.enqueue now t profile

/-- Notes a further request for an object. -/
def touch (r : Roster) (now : UInt64) (t : Ticket) : Except Fault Roster :=
  match r.holder? t with
  | none => .ok r
  | some resident =>
    let profile := resident.profile.touch now
    let r := { r with
      residents := r.residents.insert t.id ⟨t, profile⟩
      counts := (r.counts.erase resident.profile.accesses).insert profile.accesses }
    r.enqueue now t profile

/-- Takes an object off the roster and remembers it as a ghost. -/
def evict (r : Roster) (now : UInt64) (t : Ticket) : Except Fault Roster :=
  match r.holder? t with
  | none => .ok r
  | some ⟨_, profile⟩ => do
    let ghosts ← r.ghosts.record ⟨t.id, profile.size, profile.accesses, profile.age now⟩
    .ok { r with
      residents := r.residents.erase t.id
      queue := r.queue.erase t
      ghosts := ghosts
      counts := r.counts.erase profile.accesses
      entered := r.entered.erase profile.entered
      sizes := r.sizes.erase profile.size }

/-- Takes the next victim out of the queue.  Its profile stays until the eviction is completed. -/
def popVictim? (r : Roster) : Option (Ticket × Roster) :=
  r.queue.pop?.map fun (candidate, queue) => (candidate.ticket, { r with queue := queue })

/-- The next victim. -/
def nextVictim? (r : Roster) : Option Ticket :=
  r.queue.first?.map Candidate.ticket

/-- The priority under which a ticket is queued. -/
def priority? (r : Roster) (t : Ticket) : Option Priority :=
  r.queue.priority? t

/-- The ages of the residents at `now`. -/
def ages (r : Roster) (now : UInt64) : Ages := ⟨r.entered, now⟩

/-- Forgets every object and every ghost. -/
def clear (r : Roster) : Roster :=
  { r with
    residents := ∅
    counts := r.counts.clear
    entered := r.entered.clear
    sizes := r.sizes.clear
    ghosts := r.ghosts.clear
    queue := ∅ }

/-- A description of a roster: its policy and how much is on it. -/
def describe (r : Roster) : String :=
  "EvictionPolicyEngine \x7b scorer: " ++ Text.quoted r.scorer.name ++
    ", objects: " ++ toString r.size ++ ", indexed: " ++ toString r.queue.size ++
    ", history_bytes: " ++ toString r.ghosts.totalSize ++ " \x7d"

end Roster

end CacheSim
