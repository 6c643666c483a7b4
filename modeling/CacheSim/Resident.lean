import CacheSim.Word

/-!
# Cached objects as the policy sees them

An object is known by its id in the trace.  Each time it is admitted to the cache it gets a
`Ticket` with the next serial number, which tells the stays of one object apart and settles ties
between equal priorities.  Its `Profile` holds the features that policies look at.
-/

namespace CacheSim

/-- The id of an object, as it stands in the trace. -/
abbrev ObjectId := UInt64

/-- One stay of an object in the cache. -/
structure Ticket where
  /-- The number of the admission. -/
  serial : UInt64
  /-- The admitted object. -/
  id : ObjectId
  deriving DecidableEq

namespace Ticket

/-- Tickets are ordered by serial number, then by id. -/
instance : Ord Ticket := ⟨compareLex (compareOn serial) (compareOn id)⟩

instance : Std.TransOrd Ticket :=
  inferInstanceAs (Std.TransCmp (compareLex (compareOn serial) (compareOn id)))

instance : Std.LawfulEqOrd Ticket where
  eq_of_compare {a b} h := by
    have h' := Ordering.then_eq_eq.1 h
    have hs : a.serial = b.serial := Std.LawfulEqOrd.eq_of_compare h'.1
    have hi : a.id = b.id := Std.LawfulEqOrd.eq_of_compare h'.2
    cases a; cases b; simp_all

end Ticket

/-- The features of one cached object. -/
structure Profile where
  /-- How often the object was requested since its admission, that request included. -/
  accesses : UInt32
  /-- The time of the latest request. -/
  lastAccess : UInt64
  /-- The size in bytes. -/
  size : UInt64
  /-- The time of the admission. -/
  entered : UInt64
  deriving DecidableEq

namespace Profile

/-- The features of an object that is admitted at `now`. -/
def start (now size : UInt64) : Profile where
  accesses := 1
  lastAccess := now
  size := size
  entered := now

/-- The features after a further request at `now`.  The count of requests stays at its largest value
once it has reached it. -/
def touch (p : Profile) (now : UInt64) : Profile :=
  { p with
    accesses := if p.accesses = 0xFFFFFFFF then p.accesses else p.accesses + 1
    lastAccess := now }

/-- The time since the admission, or zero if that lies ahead. -/
def age (p : Profile) (now : UInt64) : UInt64 :=
  Word.monus now p.entered

theorem toNat_accesses_touch (p : Profile) (now : UInt64) :
    (p.touch now).accesses.toNat = min (p.accesses.toNat + 1) (UInt32.size - 1) := by
  have hlt := p.accesses.toNat_lt
  have hsize : UInt32.size = 0x100000000 := rfl
  show (if p.accesses = 0xFFFFFFFF then p.accesses else p.accesses + 1).toNat = _
  split
  · next h => rw [h]; rfl
  · next h =>
    have hne : p.accesses.toNat ≠ 0xFFFFFFFF := fun he => h (UInt32.toNat_inj.1 he)
    have h1 : (1 : UInt32).toNat = 1 := rfl
    rw [UInt32.toNat_add, h1]
    omega

end Profile

end CacheSim
