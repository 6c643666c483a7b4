import CacheSim.Proofs.Cache.Chronicle
import CacheSim.Proofs.Cache.Victims

/-!
# The textbook policies

Five policies score an object by its features alone.  The priority of an object then is never out
of date, and the order of the queue is an order on what the chronicle tells of the objects: when
they were requested last, when they were admitted, how often they were requested.

* `Textbook.Precedes`: who is evicted before whom, in terms of the chronicle;
* `Cache.Keyed`: every object is queued under the priority of its present features;
* `Cache.Keyed.precedes`: the order of the queue is the order of precedence;
* `Cache.precedes_of_perform`: the victims of a call precede each other and all that is left.
-/

namespace CacheSim

/-- The policies that are in every textbook. -/
inductive Textbook where
  /-- Least recently used first. -/
  | lru
  /-- Most recently used first. -/
  | mru
  /-- In order of admission. -/
  | fifo
  /-- Least frequently used first, and among these in order of admission. -/
  | lfu
  /-- Least frequently used first, and among these the least recently used. -/
  | lfuLru
  deriving DecidableEq

namespace Textbook

/-- The scorer of a policy. -/
def scorer : Textbook → Scorer
  | lru => .lru
  | mru => .mru
  | fifo => .fifo
  | lfu => .lfu
  | lfuLru => .lfuLru

/-- The priority of an object with the given features. -/
def key (profile : Profile) : Textbook → Priority
  | lru => profile.lastAccess.toNat
  | mru => -profile.lastAccess.toNat
  | fifo => profile.entered.toNat
  | lfu => profile.accesses.toNat
  | lfuLru => banded profile.accesses.toNat profile.lastAccess

/-- Nothing but the features counts. -/
lemma scorer_priority (policy : Textbook) (scene : Scene) :
    policy.scorer.priority scene = .ok (policy.key scene.profile) := by
  cases policy <;> rfl

/-- Of two stored objects, `v` is evicted before `w`. -/
def Precedes (h : Chronicle) (v w : ObjectId) : Textbook → Prop
  | lru => h.latest v < h.latest w
  | mru => h.latest w < h.latest v
  | fifo => h.admission v < h.admission w
  | lfu => h.count v < h.count w ∨ h.count v = h.count w ∧ h.admission v < h.admission w
  | lfuLru => h.count v < h.count w ∨ h.count v = h.count w ∧ h.latest v < h.latest w

variable {h : Chronicle} {v w : ObjectId} {p q : Profile} {t u : Ticket} {policy : Textbook}

/-- The order of the queue is the order of precedence. -/
lemma precedes_of_key (hv : h.Records v p) (hw : h.Records w q) (hne : v ≠ w)
    (hserial : h.admission w < h.admission v → u.serial < t.serial)
    (hkey : policy.key p < policy.key q ∨ policy.key p = policy.key q ∧ t.serial < u.serial) :
    policy.Precedes h v w := by
  have hlatest : h.latest v ≠ h.latest w := fun heq =>
    hne (Chronicle.latest_inj hv.requested heq)
  have hadmission : h.admission v ≠ h.admission w := fun heq =>
    hne (Chronicle.admission_inj hv.admitted heq)
  have hv₁ := hv.lastAccess
  have hw₁ := hw.lastAccess
  have hv₂ := hv.entered
  have hw₂ := hw.entered
  have hv₃ := hv.accesses
  have hw₃ := hw.accesses
  cases policy with
  | lru =>
    change (p.lastAccess.toNat : Int) < q.lastAccess.toNat ∨
      (p.lastAccess.toNat : Int) = q.lastAccess.toNat ∧ _ at hkey
    change h.latest v < h.latest w
    omega
  | mru =>
    change -(p.lastAccess.toNat : Int) < -(q.lastAccess.toNat : Int) ∨
      -(p.lastAccess.toNat : Int) = -(q.lastAccess.toNat : Int) ∧ _ at hkey
    change h.latest w < h.latest v
    omega
  | fifo =>
    change (p.entered.toNat : Int) < q.entered.toNat ∨
      (p.entered.toNat : Int) = q.entered.toNat ∧ _ at hkey
    change h.admission v < h.admission w
    omega
  | lfu =>
    change (p.accesses.toNat : Int) < q.accesses.toNat ∨
      (p.accesses.toNat : Int) = q.accesses.toNat ∧ t.serial < u.serial at hkey
    change h.count v < h.count w ∨ h.count v = h.count w ∧ h.admission v < h.admission w
    -- equal counts are settled by the tickets, which were given out in order of admission
    have hle : h.admission w < h.admission v → u.serial.toNat < t.serial.toNat := fun hlt =>
      UInt64.lt_iff_toNat_lt.mp (hserial hlt)
    rw [UInt64.lt_iff_toNat_lt] at hkey
    omega
  | lfuLru =>
    change banded p.accesses.toNat p.lastAccess < banded q.accesses.toNat q.lastAccess ∨
      banded p.accesses.toNat p.lastAccess = banded q.accesses.toNat q.lastAccess ∧ _ at hkey
    change h.count v < h.count w ∨ h.count v = h.count w ∧ h.latest v < h.latest w
    rcases hkey with hlt | ⟨heq, -⟩
    · rw [banded_lt_banded_iff] at hlt
      omega
    · -- objects of one band and one time would be the same object
      have hnot := Int.not_lt.mpr (Int.le_of_eq heq.symm)
      have hnot' := Int.not_lt.mpr (Int.le_of_eq heq)
      rw [banded_lt_banded_iff] at hnot hnot'
      omega

end Textbook

namespace Cache

variable {key : Profile → Priority} {c c' : Cache} {h : Chronicle} {id : ObjectId}
variable {now : UInt64} {t : Ticket} {object : Stored} {call : Call}
variable {answer : Answer} {policy : Textbook}

/-- The policy scores objects by their features, and every object is queued under the priority of
its present ones. -/
structure Keyed (key : Profile → Priority) (c : Cache) : Prop where
  scorer : ∀ scene, c.roster.scorer.priority scene = .ok (key scene.profile)
  priority : ∀ (id : ObjectId) resident, c.roster.residents[id]? = some resident →
    c.roster.queue.priority? resident.ticket = some (key resident.profile)

lemma keyed_new (capacity budget : UInt64) (policy : Textbook) (unitSizes : Bool) :
    Keyed policy.key (new capacity (.empty policy.scorer budget) unitSizes) where
  scorer := policy.scorer_priority
  priority := fun id resident hres => by simp [new, Roster.empty] at hres

/-- An object that is left alone keeps its features and its priority. -/
lemma Keyed.priority_of_untouched (hkey : Keyed key c) (hsame : Untouched c c' id)
    {resident : Resident} (hres : c'.roster.residents[id]? = some resident) :
    c'.roster.queue.priority? resident.ticket = some (key resident.profile) := by
  obtain ⟨hold, hpriority⟩ := hsame resident hres
  rw [hpriority, hkey.priority id resident hold]

lemma Keyed.evict (hkey : Keyed key c) (hlock : c.Lockstep) (hev : Evicts c now t c') :
    Keyed key c' where
  scorer := by
    rw [(sameSetup_of_evicts hev).scorer]
    exact hkey.scorer
  priority := fun id _ => hkey.priority_of_untouched (hev.untouched hlock id)

/-- Priorities are never out of date. -/
lemma Keyed.perform (hkey : Keyed key c) (hlock : c.Lockstep)
    (hcall : c.perform call = .ok (answer, c')) : Keyed key c' := by
  have hscorer : ∀ scene, c'.roster.scorer.priority scene = .ok (key scene.profile) := by
    rw [(sameSetup_of_perform hlock hcall).scorer]
    exact hkey.scorer
  refine ⟨hscorer, fun id resident hres => ?_⟩
  cases hrequests : call.requests id with
  | true =>
    obtain ⟨p, hp, hqueued⟩ := scored_of_perform hlock hcall hrequests hres
    rw [hscorer, Except.ok.injEq] at hp
    rw [hqueued, ← hp]
    rfl
  | false => exact hkey.priority_of_untouched (frame_of_perform hlock hcall hrequests) hres

/-- An object that goes before another one in the queue precedes it. -/
lemma Keyed.precedes (hkey : Keyed policy.key c) (hlock : c.Lockstep) (hrec : Recorded h c)
    {id' : ObjectId} {object' : Stored} (hv : c.stored[id]? = some object)
    (hw : c.stored[id']? = some object') (hne : id ≠ id')
    (hahead : c.roster.queue.Ahead object.ticket object'.ticket) : policy.Precedes h id id' := by
  obtain ⟨p, p', hp, hp', hlt⟩ := hahead
  obtain ⟨profile, hres, -⟩ := hlock.stored_eq_some.mp hv
  obtain ⟨profile', hres', -⟩ := hlock.stored_eq_some.mp hw
  rw [hkey.priority id _ hres, Option.some.injEq] at hp
  rw [hkey.priority id' _ hres', Option.some.injEq] at hp'
  subst hp hp'
  exact Textbook.precedes_of_key (hrec.records id _ hres) (hrec.records id' _ hres') hne
    (fun hlt => hrec.serials id' id object' object hw hv hlt) hlt

/-- A victim precedes every other stored object. -/
lemma Evicts.precedes (hev : Evicts c now t c') (hkey : Keyed policy.key c) (hlock : c.Lockstep)
    (hrec : Recorded h c) (hstored : c.stored[id]? = some object) (hne : t.id ≠ id) :
    policy.Precedes h t.id id := by
  have hahead := hev.ahead hlock hstored hne
  cases hev with
  | victim hres hvictim => exact hkey.precedes hlock hrec hvictim hstored hne hahead

/-- The objects that a call evicts are the first ones in the order of precedence, in that
order. -/
lemma precedes_of_perform (hcall : c.perform call = .ok (answer, c')) (hfol : Follows h c)
    (hkey : Keyed policy.key c) :
    answer.victims.Pairwise (fun v w => policy.Precedes h v.id w.id) ∧
      ∀ v ∈ answer.victims, v.id ∈ c.stored ∧
        ∀ id ∈ c.stored, id ∉ answer.victims.map Ticket.id → policy.Precedes h v.id id := by
  obtain ⟨hpairs, hfirst⟩ := victims_of_perform (R := fun v w => policy.Precedes h v.id w.id)
    hfol.lockstep hcall fun v w _ _ => hkey.precedes hfol.lockstep hfol.recorded
  refine ⟨hpairs, fun v hv => ?_⟩
  obtain ⟨⟨size, hstored⟩, hrest⟩ := hfirst v hv
  refine ⟨Table.mem_iff_exists.mpr ⟨_, hstored⟩, fun id hid hnot => ?_⟩
  obtain ⟨object, hobject⟩ := Table.mem_iff_exists.mp hid
  rw [← hfol.lockstep.ticket_id hobject] at hnot ⊢
  exact hrest _ object (hfol.lockstep.ticket_id hobject ▸ hobject) hnot

end Cache
end CacheSim
