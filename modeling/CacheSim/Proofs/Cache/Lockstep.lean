import CacheSim.Proofs.Cache.Calls
import CacheSim.Proofs.Roster.Transitions

/-!
# The store and the roster in lockstep

A cache keeps its objects twice: the store knows their tickets and sizes, the roster their
features and priorities.  `Cache.Lockstep` says that the two agree, that every stored object is a
candidate for eviction, and that the bytes are counted right.

* `Cache.Touches`, `Cache.Evicts`, `Cache.Stores`: what a hit, an eviction and an admission do to
  a cache in lockstep;
* `Cache.Lockstep.evict`, `Cache.Lockstep.store`, `Cache.Lockstep.request`: lockstep is kept by
  the operations, and by a request as a whole;
* `Cache.Lockstep.performs`: all that a call may do, said by these operations;
* `Cache.lockstep_after_calls`: a cache is in lockstep after any run of calls.
-/

namespace CacheSim

/-- A resident as it is kept in the store. -/
def Resident.stored (resident : Resident) : Stored :=
  ⟨resident.ticket, resident.profile.size⟩

namespace Cache

/-- The bytes of all stored objects. -/
def storedBytes (stored : Std.TreeMap ObjectId Stored) : Nat :=
  (stored.toList.map fun e => e.2.size.toNat).sum

/-- The store and the roster of a cache agree. -/
structure Lockstep (c : Cache) : Prop where
  /-- The roster is consistent in itself. -/
  roster : c.roster.Consistent
  /-- The stored objects are the residents, with the same tickets and sizes. -/
  stored_eq : ∀ id : ObjectId, c.stored[id]? = c.roster.residents[id]?.map Resident.stored
  /-- Every stored object is a candidate for eviction. -/
  queued : ∀ (id : ObjectId) object, c.stored[id]? = some object →
    ∃ p, c.roster.queue.priority? object.ticket = some p
  /-- Serial numbers have been given out in order. -/
  serial_lt : ∀ (id : ObjectId) object, c.stored[id]? = some object →
    object.ticket.serial < c.nextSerial
  /-- No serial number has been given out twice. -/
  serial_inj : ∀ (id id' : ObjectId) object object', c.stored[id]? = some object →
    c.stored[id']? = some object' → object.ticket.serial = object'.ticket.serial → id = id'
  /-- The bytes are counted. -/
  occupied_eq : c.occupied.toNat = storedBytes c.stored
  /-- The bytes are within the capacity. -/
  occupied_le : c.occupied ≤ c.capacity

variable {c c' : Cache} {id : ObjectId} {size now clock : UInt64} {t : Ticket} {object : Stored}
variable {r : Request} {reply : Reply} {answer : Answer} {victims : List Ticket} {tally : Tally}
variable {profile : Profile} {stored : Std.TreeMap ObjectId Stored} {call : Call}

/-! ## Stored objects and residents -/

lemma Lockstep.stored_eq_some (h : c.Lockstep) : c.stored[id]? = some object ↔
    ∃ profile, c.roster.residents[id]? = some ⟨object.ticket, profile⟩ ∧
      profile.size = object.size := by
  rw [h.stored_eq, Option.map_eq_some_iff]
  constructor
  · rintro ⟨⟨ticket, profile⟩, hres, rfl⟩
    exact ⟨profile, hres, rfl⟩
  · rintro ⟨profile, hres, hsize⟩
    exact ⟨_, hres, by rw [Resident.stored, hsize]⟩

lemma Lockstep.stored_of_resident (h : c.Lockstep) {resident : Resident}
    (hres : c.roster.residents[id]? = some resident) : c.stored[id]? = some resident.stored := by
  rw [h.stored_eq, hres, Option.map_some]

lemma Lockstep.mem_stored (h : c.Lockstep) : id ∈ c.stored ↔ id ∈ c.roster.residents := by
  simp only [Std.TreeMap.mem_iff_isSome_getElem?, h.stored_eq, Option.isSome_map]

/-- A candidate is stored under its ticket. -/
lemma Lockstep.stored_of_queued (h : c.Lockstep) {p : Priority}
    (hp : c.roster.queue.priority? t = some p) :
    ∃ profile, c.roster.residents[t.id]? = some ⟨t, profile⟩ ∧
      c.stored[t.id]? = some ⟨t, profile.size⟩ := by
  obtain ⟨profile, hres⟩ := h.roster.queued t p hp
  exact ⟨profile, hres, h.stored_eq_some.mpr ⟨profile, hres, rfl⟩⟩

/-- A stored object has a ticket with its own id. -/
lemma Lockstep.ticket_id (h : c.Lockstep) (hstored : c.stored[id]? = some object) :
    object.ticket.id = id := by
  obtain ⟨profile, hres, -⟩ := h.stored_eq_some.mp hstored
  exact h.roster.ticket_id id _ hres

/-- The stored objects are queued under their tickets. -/
lemma Lockstep.mem_tickets (h : c.Lockstep) :
    t ∈ c.roster.queue.tickets ↔ ∃ size, c.stored[t.id]? = some ⟨t, size⟩ := by
  rw [h.roster.coherent.mem_tickets]
  constructor
  · rintro ⟨p, hp⟩
    obtain ⟨profile, -, hstored⟩ := h.stored_of_queued hp
    exact ⟨profile.size, hstored⟩
  · rintro ⟨size, hstored⟩
    exact h.queued t.id _ hstored

/-- Stored objects, residents and candidates are equally many. -/
lemma Lockstep.size_eq (h : c.Lockstep) :
    c.size = c.roster.size ∧ c.size = c.roster.queue.size := by
  refine ⟨Table.size_eq_of_mem_iff fun id => h.mem_stored, ?_⟩
  have hperm : (c.stored.toList.map fun e => e.2.ticket).Perm c.roster.queue.tickets := by
    refine (List.perm_ext_iff_of_nodup ?_ h.roster.coherent.nodup_tickets).mpr fun t => ?_
    · -- tickets of different objects have different ids
      rw [List.Nodup, List.pairwise_map]
      refine List.Pairwise.imp_of_mem ?_ (List.pairwise_map.mp (Table.nodup_keys c.stored))
      intro a b ha hb hne heq
      have hida := h.ticket_id (Table.mem_toList.mp ha)
      have hidb := h.ticket_id (Table.mem_toList.mp hb)
      exact hne (by rw [← hida, ← hidb, heq])
    · rw [List.mem_map, h.mem_tickets]
      constructor
      · rintro ⟨⟨id, object⟩, hmem, rfl⟩
        have hstored := Table.mem_toList.mp hmem
        have hid := h.ticket_id hstored
        exact ⟨object.size, hid ▸ hstored⟩
      · rintro ⟨size, hstored⟩
        exact ⟨(t.id, ⟨t, size⟩), Table.mem_toList.mpr hstored, rfl⟩
  have hlen := hperm.length_eq
  rwa [List.length_map, Std.TreeMap.length_toList, VictimQueue.length_tickets] at hlen

/-! ## Bytes -/

lemma storedBytes_empty : storedBytes ∅ = 0 := rfl

lemma storedBytes_erase (h : stored[id]? = some object) :
    storedBytes stored = object.size.toNat + storedBytes (stored.erase id) := by
  have hperm := (Table.toList_erase_of_getElem? h).map fun e => e.2.size.toNat
  rw [storedBytes, hperm.sum_nat, List.map_cons, List.sum_cons, storedBytes]

lemma storedBytes_insert (h : id ∉ stored) :
    storedBytes (stored.insert id object) = object.size.toNat + storedBytes stored := by
  have hperm := (Table.toList_insert_of_not_mem h object).map fun e => e.2.size.toNat
  rw [storedBytes, hperm.sum_nat, List.map_cons, List.sum_cons, storedBytes]

/-- A stored object takes no more bytes than are counted. -/
lemma Lockstep.size_le_occupied (h : c.Lockstep) (hstored : c.stored[id]? = some object) :
    object.size ≤ c.occupied := by
  rw [UInt64.le_iff_toNat_le, h.occupied_eq, storedBytes_erase hstored]
  omega

/-- The entries of the store are the residents as they are kept there. -/
lemma Lockstep.stored_perm (h : c.Lockstep) :
    c.stored.toList.Perm (c.roster.residents.toList.map fun e => (e.1, e.2.stored)) := by
  refine (List.perm_ext_iff_of_nodup (Table.nodup_toList _) ?_).mpr ?_
  · refine List.Nodup.of_map Prod.fst ?_
    rw [List.map_map]
    exact Table.nodup_keys c.roster.residents
  · rintro ⟨id, object⟩
    simp only [List.mem_map, Prod.exists, Prod.mk.injEq, Table.mem_toList, h.stored_eq,
      Option.map_eq_some_iff]
    constructor
    · rintro ⟨resident, hres, rfl⟩
      exact ⟨id, resident, hres, rfl, rfl⟩
    · rintro ⟨_, resident, hres, rfl, rfl⟩
      exact ⟨resident, hres, rfl⟩

/-- The sizes on the roster are the sizes in the store. -/
lemma Lockstep.sizes_sum (h : c.Lockstep) :
    (c.roster.sizes.toList.map UInt64.toNat).sum = storedBytes c.stored := by
  have hsizes := (h.roster.census.sizes.perm.map UInt64.toNat).sum_nat
  have hstored := (h.stored_perm.map fun e => e.2.size.toNat).sum_nat
  rw [hsizes, storedBytes, hstored, Residents.profiles]
  simp only [List.map_map]
  rfl

/-! ## What an operation does -/

/-- A hit: the object gets new features, and is queued anew under the priority of these. -/
inductive Touches (c : Cache) (now : UInt64) (id : ObjectId) : Roster → Prop where
  | resident {t : Ticket} {profile : Profile} {p : Priority} :
      c.roster.residents[id]? = some ⟨t, profile⟩ → t.id = id →
      c.roster.scorer.priority
        ((c.roster.reseat now t profile).scene now id (profile.touch now)) = .ok p →
      Touches c now id
        { c.roster.reseat now t profile with queue := c.roster.queue.set t p }

lemma touches_of_touch (h : c.Lockstep) (hstored : c.stored[id]? = some object) {roster : Roster}
    (htouch : c.roster.touch now object.ticket = .ok roster) : Touches c now id roster := by
  obtain ⟨profile, hres, -⟩ := h.stored_eq_some.mp hstored
  obtain rfl := h.ticket_id hstored
  rw [Roster.touch_of_holder hres, Roster.enqueue_eq_ok] at htouch
  obtain ⟨p, hp, rfl⟩ := htouch
  exact .resident hres rfl hp

/-- An eviction: the first candidate leaves the store and the roster. -/
inductive Evicts (c : Cache) (now : UInt64) (t : Ticket) : Cache → Prop where
  | victim {profile : Profile} {p : Priority} {occupied : UInt64} {tally : Tally}
      {ghosts : GhostLog} : c.roster.residents[t.id]? = some ⟨t, profile⟩ →
      c.stored[t.id]? = some ⟨t, profile.size⟩ → c.roster.queue.IsFirst t p →
      Word.sub c.occupied profile.size = .ok occupied → c.tally.countEviction = .ok tally →
      c.roster.ghosts.record (Roster.ghostOf now t.id profile) = .ok ghosts →
      Evicts c now t { c with
        occupied := occupied
        stored := c.stored.erase t.id
        tally := tally
        roster := c.roster.unseat t profile ghosts }

/-- A victim that is popped is stored, and is taken out of the store. -/
lemma Lockstep.dropped (h : c.Lockstep) {roster : Roster}
    (hpop : c.roster.popVictim? = some (t, roster))
    (hdrop : drop { c with roster := roster } t = .ok c') :
    ∃ profile p occupied tally, c.roster.residents[t.id]? = some ⟨t, profile⟩ ∧
      c.stored[t.id]? = some ⟨t, profile.size⟩ ∧ c.roster.queue.IsFirst t p ∧
      Word.sub c.occupied profile.size = .ok occupied ∧ c.tally.countEviction = .ok tally ∧
      c' = { c with
        occupied := occupied
        stored := c.stored.erase t.id
        tally := tally
        roster := { c.roster with queue := c.roster.queue.erase t } } := by
  obtain ⟨p, hfirst, rfl⟩ := Roster.popVictim?_eq_some h.roster hpop
  obtain ⟨profile, hres, hstored⟩ := h.stored_of_queued hfirst.queued
  obtain ⟨occupied, tally, hocc, htally, rfl⟩ := (drop_eq_ok (by exact hstored)).mp hdrop
  exact ⟨profile, p, occupied, tally, hres, hstored, hfirst, hocc, htally, rfl⟩

lemma evicts_of_evict (h : c.Lockstep) (hev : c.evict now = .ok (t, c')) : Evicts c now t c' := by
  obtain ⟨roster, c₁, roster', hpop, hdrop, hleave, rfl⟩ := evict_eq_ok.mp hev
  obtain ⟨profile, p, occupied, tally, hres, hstored, hfirst, hocc, htally, rfl⟩ :=
    h.dropped hpop hdrop
  -- the victim is out of the queue already when it leaves the roster
  obtain ⟨ghosts, hghosts, rfl⟩ := map_eq_ok.mp ((Roster.evict_popped hres).symm.trans hleave)
  exact .victim hres hstored hfirst hocc htally hghosts

/-- An admission: the object gets the next ticket, a place on the roster and a priority. -/
inductive Stores (c : Cache) (id : ObjectId) (size : UInt64) : Cache → Prop where
  | fresh {nextSerial occupied : UInt64} {p : Priority} : id ∉ c.roster.residents →
      Word.add c.nextSerial 1 = .ok nextSerial → Word.add c.occupied size = .ok occupied →
      c.roster.scorer.priority ((c.roster.seat c.clock ⟨c.nextSerial, id⟩ size).scene c.clock id
        (.start c.clock size)) = .ok p →
      Stores c id size { c with
        nextSerial := nextSerial
        stored := c.stored.insert id ⟨⟨c.nextSerial, id⟩, size⟩
        occupied := occupied
        roster := { c.roster.seat c.clock ⟨c.nextSerial, id⟩ size with
          queue := c.roster.queue.set ⟨c.nextSerial, id⟩ p } }

lemma stores_of_store (h : c.Lockstep) (hnew : c.stored[id]? = none)
    (hstore : c.store id size = .ok c') : Stores c id size c' := by
  obtain ⟨nextSerial, occupied, roster, hserial, hocc, hins, rfl⟩ := store_eq_ok.mp hstore
  have hnot : id ∉ c.roster.residents := by
    rw [← h.mem_stored, Table.mem_iff_exists, hnew]
    simp
  rw [Roster.insert_of_not_mem hnot, Roster.enqueue_eq_ok] at hins
  obtain ⟨p, hp, rfl⟩ := hins
  exact .fresh hnot hserial hocc hp

/-! ## Operations that keep lockstep -/

lemma lockstep_new (capacity budget : UInt64) (scorer : Scorer) (unitSizes : Bool) :
    (new capacity (.empty scorer budget) unitSizes).Lockstep where
  roster := Roster.consistent_empty scorer budget
  stored_eq := fun id => by simp [new, Roster.empty]
  queued := fun id object h => by simp [new] at h
  serial_lt := fun id object h => by simp [new] at h
  serial_inj := fun id id' object object' h => by simp [new] at h
  occupied_eq := storedBytes_empty.symm
  occupied_le := UInt64.le_iff_toNat_le.mpr (Nat.zero_le _)

lemma lockstep_clear (c : Cache) : c.clear.Lockstep where
  roster := Roster.Consistent.clear c.roster
  stored_eq := fun id => by simp [clear, Roster.clear]
  queued := fun id object h => by simp [clear] at h
  serial_lt := fun id object h => by simp [clear] at h
  serial_inj := fun id id' object object' h => by simp [clear] at h
  occupied_eq := storedBytes_empty.symm
  occupied_le := UInt64.le_iff_toNat_le.mpr (Nat.zero_le _)

/-- The clock and the counters have no part in it. -/
lemma Lockstep.count (h : c.Lockstep) (clock : UInt64) (tally : Tally) :
    Lockstep { c with clock := clock, tally := tally } :=
  ⟨h.roster, h.stored_eq, h.queued, h.serial_lt, h.serial_inj, h.occupied_eq, h.occupied_le⟩

/-- A stored object that is touched keeps its ticket and its size. -/
lemma Lockstep.touch (h : c.Lockstep) (hstored : c.stored[id]? = some object) {roster : Roster}
    (htouch : c.roster.touch now object.ticket = .ok roster) :
    Lockstep { c with roster := roster } := by
  cases touches_of_touch h hstored htouch with
  | @resident t profile p hres hid hp =>
    subst hid
    refine ⟨(h.roster.reseat hres).enqueue Roster.residents_reseat p, fun id => ?_,
      fun id object' hid => ?_, h.serial_lt, h.serial_inj, h.occupied_eq, h.occupied_le⟩
    · rw [h.stored_eq, Roster.reseat, Std.TreeMap.getElem?_insert]
      split
      · next heq =>
        rw [← Std.compare_eq_iff_eq.mp heq, hres]
        rfl
      · rfl
    · change ∃ p', (c.roster.queue.set t p).priority? object'.ticket = some p'
      rw [VictimQueue.priority?_set]
      split
      · exact ⟨p, rfl⟩
      · exact h.queued id object' hid

lemma Lockstep.evict (h : c.Lockstep) (hev : c.evict now = .ok (t, c')) : c'.Lockstep := by
  cases evicts_of_evict h hev with
  | @victim profile p occupied tally ghosts hres hstored hfirst hocc htally hghosts =>
    rw [Word.sub_eq_ok] at hocc
    refine ⟨h.roster.unseat hres ghosts, fun id => ?_, fun id object hid => ?_,
      fun id object hid => ?_, fun id id' object object' hid hid' => ?_, ?_, ?_⟩
    · rw [Roster.unseat, Std.TreeMap.getElem?_erase, Std.TreeMap.getElem?_erase, h.stored_eq]
      split <;> rfl
    · -- an object that stays has another ticket than the victim
      obtain ⟨hne, hobject⟩ := Table.getElem?_erase_eq_some.mp hid
      have hother : t ≠ object.ticket := by
        rintro rfl
        exact hne (h.ticket_id hobject)
      obtain ⟨p', hp'⟩ := h.queued id object hobject
      exact ⟨p', by rw [Roster.unseat, VictimQueue.priority?_erase, if_neg hother, hp']⟩
    · exact h.serial_lt id object (Table.getElem?_erase_eq_some.mp hid).2
    · exact h.serial_inj id id' object object' (Table.getElem?_erase_eq_some.mp hid).2
        (Table.getElem?_erase_eq_some.mp hid').2
    · have hbytes := h.occupied_eq
      rw [storedBytes_erase hstored] at hbytes
      dsimp only at hbytes
      change occupied.toNat = storedBytes (c.stored.erase t.id)
      omega
    · have hle := UInt64.le_iff_toNat_le.mp h.occupied_le
      refine UInt64.le_iff_toNat_le.mpr ?_
      change occupied.toNat ≤ c.capacity.toNat
      omega

/-- A new object that fits is stored under a fresh ticket. -/
lemma Lockstep.store (h : c.Lockstep) (hnew : c.stored[id]? = none)
    (hfits : c.occupied.toNat + size.toNat ≤ c.capacity.toNat)
    (hstore : c.store id size = .ok c') : c'.Lockstep := by
  have hnot : id ∉ c.stored := by
    rw [Table.mem_iff_exists, hnew]
    simp
  -- the next serial number is larger than all that are in use
  have hfresh : ∀ (id' : ObjectId) object, c.stored[id']? = some object →
      object.ticket.serial.toNat < c.nextSerial.toNat := fun id' object hobject =>
    UInt64.lt_iff_toNat_lt.mp (h.serial_lt id' object hobject)
  have hone : (1 : UInt64).toNat = 1 := rfl
  cases stores_of_store h hnew hstore with
  | @fresh nextSerial occupied p hmem hserial hocc hp =>
    rw [Word.add_eq_ok] at hserial hocc
    refine ⟨(h.roster.seat hmem).enqueue Roster.residents_seat p, fun id' => ?_,
      fun id' (object : Stored) hid => ?_, fun id' (object : Stored) hid => ?_,
      fun id₁ id₂ object₁ object₂ hid₁ hid₂ heq => ?_, ?_, ?_⟩
    · rw [Roster.seat, Std.TreeMap.getElem?_insert, Std.TreeMap.getElem?_insert, h.stored_eq]
      split <;> rfl
    · change ∃ p', (c.roster.queue.set _ p).priority? object.ticket = some p'
      rw [VictimQueue.priority?_set]
      split
      · exact ⟨p, rfl⟩
      · next hother =>
        rcases Table.getElem?_insert_eq_some.mp hid with ⟨-, rfl⟩ | ⟨-, hobject⟩
        · exact absurd rfl hother
        · exact h.queued id' object hobject
    · refine UInt64.lt_iff_toNat_lt.mpr ?_
      change object.ticket.serial.toNat < nextSerial.toNat
      rcases Table.getElem?_insert_eq_some.mp hid with ⟨-, rfl⟩ | ⟨-, hobject⟩
      · change c.nextSerial.toNat < nextSerial.toNat
        omega
      · have hlt := hfresh id' object hobject
        omega
    · have heq' := congrArg UInt64.toNat heq
      rcases Table.getElem?_insert_eq_some.mp hid₁ with ⟨rfl, rfl⟩ | ⟨-, hobject₁⟩ <;>
      rcases Table.getElem?_insert_eq_some.mp hid₂ with ⟨rfl, rfl⟩ | ⟨-, hobject₂⟩
      · rfl
      · have hlt := hfresh id₂ object₂ hobject₂
        change c.nextSerial.toNat = _ at heq'
        omega
      · have hlt := hfresh id₁ object₁ hobject₁
        change _ = c.nextSerial.toNat at heq'
        omega
      · exact h.serial_inj id₁ id₂ object₁ object₂ hobject₁ hobject₂ heq
    · have hbytes := h.occupied_eq
      change occupied.toNat = storedBytes (c.stored.insert id _)
      rw [storedBytes_insert hnot]
      change occupied.toNat = size.toNat + _
      omega
    · refine UInt64.le_iff_toNat_le.mpr ?_
      change occupied.toNat ≤ c.capacity.toNat
      omega

/-- What no eviction changes is not changed by making room. -/
lemma MakesRoom.congr {α : Type} (f : Cache → α) (h : c.Lockstep)
    (hroom : MakesRoom now size c victims c')
    (hf : ∀ {c t c'}, Evicts c now t c' → f c' = f c) : f c' = f c := by
  induction hroom with
  | fits => rfl
  | evicts hover hev hmore ih => exact (ih (h.evict hev)).trans (hf (evicts_of_evict h hev))

/-- An object that is not stored is not stored by making room for it. -/
lemma Lockstep.makesRoom (h : c.Lockstep) (hroom : MakesRoom now size c victims c')
    (hnew : c.stored[id]? = none) :
    c'.Lockstep ∧ c'.stored[id]? = none ∧
      c'.occupied.toNat + size.toNat ≤ c'.capacity.toNat := by
  have hkept : c'.Lockstep ∧ c'.stored[id]? = none := by
    induction hroom with
    | fits hfits => exact ⟨h, hnew⟩
    | evicts hover hev hmore ih =>
      refine ih (h.evict hev) ?_
      cases evicts_of_evict h hev with
      | victim hres hstored hfirst hocc htally hghosts =>
        rw [Std.TreeMap.getElem?_erase, hnew]
        exact ite_self none
  exact ⟨hkept.1, hkept.2, hroom.leaves_room⟩

lemma Lockstep.request (h : c.Lockstep) (hreq : c.request r = .ok (reply, c')) : c'.Lockstep := by
  cases serves_of_request hreq with
  | hit hclock htally hstored htouch => exact (h.touch hstored htouch).count _ _
  | bypass => exact h.count _ _
  | admission hclock htally hnew hlarge hmiss hroom hstore =>
    obtain ⟨hroom, hnew', hfits⟩ := (h.count _ _).makesRoom hroom hnew
    exact hroom.store hnew' hfits hstore

lemma Lockstep.perform (h : c.Lockstep) (hcall : c.perform call = .ok (answer, c')) :
    c'.Lockstep := by
  cases call with
  | request r =>
    obtain ⟨reply, hreq, rfl⟩ := perform_request_eq_ok.mp hcall
    exact h.request hreq
  | evict now =>
    rcases perform_evict_eq_ok.mp hcall with ⟨t, hev, rfl⟩ | ⟨-, rfl, rfl⟩
    · exact h.evict hev
    · exact h
  | clear =>
    obtain ⟨-, rfl⟩ := Prod.mk.inj (Except.ok.inj hcall)
    exact lockstep_clear c

/-! ## What a call does -/

/-- The things that a call may do to a cache in lockstep. -/
inductive Performs (c : Cache) : Call → Answer → Cache → Prop where
  /-- The requested object is stored: it is touched. -/
  | hit {r : Request} {clock : UInt64} {tally : Tally} {object : Stored} {roster : Roster} :
      Word.add c.clock 1 = .ok clock → c.tally.countRequest (c.effectiveSize r) = .ok tally →
      c.stored[r.id]? = some object → Touches c clock r.id roster →
      Performs c (.request r) (.served ⟨true, []⟩)
        { c with clock := clock, tally := tally, roster := roster }
  /-- The requested object is not stored and larger than the cache. -/
  | bypass {r : Request} {clock : UInt64} {tally tally₁ tally₂ : Tally} :
      Word.add c.clock 1 = .ok clock → c.tally.countRequest (c.effectiveSize r) = .ok tally →
      c.stored[r.id]? = none → c.capacity < c.effectiveSize r →
      tally.countMiss (c.effectiveSize r) = .ok tally₁ → tally₁.countBypass = .ok tally₂ →
      Performs c (.request r) (.served ⟨false, []⟩) { c with clock := clock, tally := tally₂ }
  /-- The requested object is not stored: room is made, and it is admitted. -/
  | admission {r : Request} {clock : UInt64} {tally tally₁ : Tally} {victims : List Ticket}
      {c₁ c' : Cache} : Word.add c.clock 1 = .ok clock →
      c.tally.countRequest (c.effectiveSize r) = .ok tally → c.stored[r.id]? = none →
      ¬ c.capacity < c.effectiveSize r → tally.countMiss (c.effectiveSize r) = .ok tally₁ →
      Lockstep { c with clock := clock, tally := tally₁ } →
      MakesRoom clock (c.effectiveSize r) { c with clock := clock, tally := tally₁ } victims c₁ →
      c₁.Lockstep → Stores c₁ r.id (c.effectiveSize r) c' →
      Performs c (.request r) (.served ⟨false, victims⟩) c'
  | evicted {now : UInt64} {t : Ticket} {c' : Cache} : c.evict now = .ok (t, c') →
      Evicts c now t c' → Performs c (.evict now) (.evicted t) c'
  /-- There is nothing to evict. -/
  | refused {now : UInt64} :
      (∃ occupied capacity, c.evict now = .error (.nothingToEvict occupied capacity)) →
      Performs c (.evict now) .refused c
  | cleared : Performs c .clear .cleared c.clear

/-- There is nothing else that a call may do. -/
lemma Lockstep.performs (h : c.Lockstep) (hcall : c.perform call = .ok (answer, c')) :
    Performs c call answer c' := by
  cases call with
  | request r =>
    obtain ⟨reply, hreq, rfl⟩ := perform_request_eq_ok.mp hcall
    cases serves_of_request hreq with
    | hit hclock htally hstored htouch =>
      exact .hit hclock htally hstored (touches_of_touch h hstored htouch)
    | bypass hclock htally hnew hlarge hmiss hbypass =>
      exact .bypass hclock htally hnew hlarge hmiss hbypass
    | @admission clock tally tally₁ victims c₁ _ hclock htally hnew hlarge hmiss hroom hstore =>
      have hlock := h.count clock tally₁
      obtain ⟨hlock₁, hnew₁, -⟩ := hlock.makesRoom hroom hnew
      exact .admission hclock htally hnew hlarge hmiss hlock hroom hlock₁
        (stores_of_store hlock₁ hnew₁ hstore)
  | evict now =>
    rcases perform_evict_eq_ok.mp hcall with ⟨t, hev, rfl⟩ | ⟨hrefused, rfl, rfl⟩
    · exact .evicted hev (evicts_of_evict h hev)
    · exact .refused hrefused
  | clear =>
    obtain ⟨rfl, rfl⟩ := Prod.mk.inj (Except.ok.inj hcall)
    exact .cleared

/-- What counting, hits, evictions, admissions and clearing keep is kept by every call. -/
lemma Lockstep.perform_induction {P : Cache → Prop} (h : c.Lockstep) (hstart : P c)
    (hcount : ∀ c clock tally, P c → P { c with clock := clock, tally := tally })
    (htouch : ∀ c now id roster, c.Lockstep → P c → Touches c now id roster →
      P { c with roster := roster })
    (hevict : ∀ c now t c', c.Lockstep → P c → Evicts c now t c' → P c')
    (hstore : ∀ c id size c', c.Lockstep → P c → Stores c id size c' → P c')
    (hclear : ∀ c, P c → P c.clear) (hcall : c.perform call = .ok (answer, c')) : P c' := by
  -- making room is a run of evictions, all of caches in lockstep
  have hroom : ∀ {c c' : Cache} {now size victims}, c.Lockstep → P c →
      MakesRoom now size c victims c' → P c' := by
    intro c c' now size victims hlock hP hroom
    induction hroom with
    | fits => exact hP
    | evicts hover hev hmore ih =>
      exact ih (hlock.evict hev) (hevict _ _ _ _ hlock hP (evicts_of_evict hlock hev))
  cases h.performs hcall with
  | hit hclock htally hstored htouched => exact hcount _ _ _ (htouch _ _ _ _ h hstart htouched)
  | bypass => exact hcount _ _ _ hstart
  | admission hclock htally hnew hlarge hmiss hlock hmakes hlock₁ hstored =>
    exact hstore _ _ _ _ hlock₁ (hroom hlock (hcount _ _ _ hstart) hmakes) hstored
  | evicted hev hevicts => exact hevict _ _ _ _ h hstart hevicts
  | refused => exact hstart
  | cleared => exact hclear c hstart

/-! ## What no call changes -/

/-- Two caches with the same capacity and the same policy. -/
structure SameSetup (c c' : Cache) : Prop where
  capacity : c'.capacity = c.capacity
  unitSizes : c'.unitSizes = c.unitSizes
  scorer : c'.roster.scorer = c.roster.scorer

lemma sameSetup_of_evicts (hev : Evicts c now t c') : SameSetup c c' := by
  cases hev with
  | victim => exact ⟨rfl, rfl, rfl⟩

lemma SameSetup.trans {c c₁ c' : Cache} (h : SameSetup c c₁) (h' : SameSetup c₁ c') :
    SameSetup c c' :=
  ⟨h'.capacity.trans h.capacity, h'.unitSizes.trans h.unitSizes, h'.scorer.trans h.scorer⟩

lemma sameSetup_of_makesRoom (h : c.Lockstep) (hroom : MakesRoom now size c victims c') :
    SameSetup c c' := by
  induction hroom with
  | fits => exact ⟨rfl, rfl, rfl⟩
  | evicts hover hev hmore ih =>
    exact (sameSetup_of_evicts (evicts_of_evict h hev)).trans (ih (h.evict hev))

lemma sameSetup_of_perform (h : c.Lockstep) (hcall : c.perform call = .ok (answer, c')) :
    SameSetup c c' := by
  refine h.perform_induction ⟨rfl, rfl, rfl⟩ ?_ ?_ ?_ ?_ ?_ hcall
  · exact fun c₁ clock tally hsame => ⟨hsame.capacity, hsame.unitSizes, hsame.scorer⟩
  · intro c₁ now id roster hlock hsame htouch
    cases htouch with
    | resident => exact ⟨hsame.capacity, hsame.unitSizes, hsame.scorer⟩
  · exact fun c₁ now t c₂ hlock hsame hev => hsame.trans (sameSetup_of_evicts hev)
  · intro c₁ id size c₂ hlock hsame hstore
    cases hstore with
    | fresh => exact ⟨hsame.capacity, hsame.unitSizes, hsame.scorer⟩
  · exact fun c₁ hsame => ⟨hsame.capacity, hsame.unitSizes, hsame.scorer⟩

/-! ## Runs -/

/-- A cache is in lockstep after any calls, and its setup is that of the fresh cache. -/
lemma lockstep_of_run {calls : List Call} {answers : List Answer} (h : c.Lockstep)
    (hrun : runCalls perform c calls = .ok (answers, c')) : c'.Lockstep ∧ SameSetup c c' := by
  refine runCalls_invariant (P := fun c' => c'.Lockstep ∧ SameSetup c c') ⟨h, rfl, rfl, rfl⟩ ?_ hrun
  rintro c₁ call answer c₂ ⟨hlock, hsame⟩ hcall
  exact ⟨hlock.perform hcall, hsame.trans (sameSetup_of_perform hlock hcall)⟩

/-- **The store and the roster stay in lockstep.**  Whatever calls are made to a fresh cache, in
whatever order, as long as no counter overflows:

* the stored objects, the residents of the roster and the candidates in the queue are the same
  objects, and are equally many;
* a stored object has the same ticket and the same size on the roster, and is queued under that
  ticket; serial numbers are distinct and below the next one;
* the counted bytes are the sum of the sizes in the store, which is the sum of the sizes on the
  roster, and are within the capacity;
* the access counts, admission times and sizes on the roster are exactly those of the residents. -/
theorem lockstep_after_calls (capacity budget : UInt64) (scorer : Scorer) (unitSizes : Bool)
    {calls : List Call} {answers : List Answer} {c : Cache}
    (hrun : runCalls perform (new capacity (.empty scorer budget) unitSizes) calls =
      .ok (answers, c)) :
    ((∀ id, (id ∈ c.stored ↔ id ∈ c.roster.residents) ∧
        (id ∈ c.stored ↔ ∃ candidate ∈ c.roster.queue.toList, candidate.ticket.id = id)) ∧
      c.size = c.roster.size ∧ c.size = c.roster.queue.size) ∧
    ((∀ (id : ObjectId) object, c.stored[id]? = some object →
        object.ticket.id = id ∧ object.ticket.serial < c.nextSerial ∧
        (∃ profile, c.roster.residents[id]? = some ⟨object.ticket, profile⟩ ∧
          profile.size = object.size) ∧
        ∃ p, c.roster.queue.priority? object.ticket = some p) ∧
      (∀ candidate ∈ c.roster.queue.toList,
        ∃ size, c.stored[candidate.ticket.id]? = some ⟨candidate.ticket, size⟩) ∧
      ∀ (id id' : ObjectId) object object', c.stored[id]? = some object →
        c.stored[id']? = some object' → object.ticket.serial = object'.ticket.serial → id = id') ∧
    (c.occupied.toNat = storedBytes c.stored ∧
      storedBytes c.stored = (c.roster.sizes.toList.map UInt64.toNat).sum ∧
      c.occupied ≤ capacity) ∧
    Census c.roster.residents c.roster.counts c.roster.entered c.roster.sizes := by
  obtain ⟨h, hsame⟩ := lockstep_of_run (lockstep_new capacity budget scorer unitSizes) hrun
  have hcandidate : ∀ candidate ∈ c.roster.queue.toList,
      ∃ size, c.stored[candidate.ticket.id]? = some ⟨candidate.ticket, size⟩ := by
    intro candidate hmem
    obtain ⟨profile, -, hstored⟩ := h.stored_of_queued (h.roster.coherent.mem_toList.mp hmem)
    exact ⟨profile.size, hstored⟩
  have hcapacity : c.occupied ≤ capacity := by
    rw [← show c.capacity = capacity from hsame.capacity]
    exact h.occupied_le
  refine ⟨⟨fun id => ⟨h.mem_stored, ?_⟩, h.size_eq⟩, ⟨fun id object hstored => ?_, hcandidate,
    h.serial_inj⟩, ⟨h.occupied_eq, h.sizes_sum.symm, hcapacity⟩, h.roster.census⟩
  · rw [Table.mem_iff_exists]
    constructor
    · rintro ⟨object, hstored⟩
      obtain ⟨p, hp⟩ := h.queued id object hstored
      exact ⟨⟨p, object.ticket⟩, h.roster.coherent.mem_toList.mpr hp, h.ticket_id hstored⟩
    · rintro ⟨candidate, hmem, rfl⟩
      obtain ⟨size, hstored⟩ := hcandidate candidate hmem
      exact ⟨_, hstored⟩
  · exact ⟨h.ticket_id hstored, h.serial_lt id object hstored, h.stored_eq_some.mp hstored,
      h.queued id object hstored⟩

/-- A hit with another size, an eviction for room, one from outside, and an object that is too
large: one object is left, in the store, on the roster and in the queue. -/
theorem lockstep_after_mixed_calls :
    ∃ answers c, runCalls perform (new 10 (.empty .lru 100) false)
        [.request ⟨0, 1, 4⟩, .request ⟨0, 2, 6⟩, .request ⟨0, 1, 9⟩, .request ⟨0, 3, 1⟩,
          .evict 7, .request ⟨0, 4, 11⟩] = .ok (answers, c) ∧
      answers.map Answer.victims = [[], [], [], [⟨1, 2⟩], [⟨0, 1⟩], []] ∧
      c.stored.toList = [(3, ⟨⟨2, 3⟩, 1⟩)] ∧ c.roster.size = 1 ∧ c.roster.queue.size = 1 ∧
      (c.roster.sizes.toList.map UInt64.toNat).sum = 1 := by
  have hends : (fun done : List Answer × Cache =>
        (done.1.map Answer.victims, done.2.stored.toList)) <$>
      runCalls perform (new 10 (.empty .lru 100) false)
        [.request ⟨0, 1, 4⟩, .request ⟨0, 2, 6⟩, .request ⟨0, 1, 9⟩, .request ⟨0, 3, 1⟩,
          .evict 7, .request ⟨0, 4, 11⟩] =
      .ok ([[], [], [], [⟨1, 2⟩], [⟨0, 1⟩], []], [(3, ⟨⟨2, 3⟩, 1⟩)]) := by
    cbv
  obtain ⟨⟨answers, c⟩, hrun, heq⟩ := map_eq_ok.mp hends
  simp only [Prod.mk.injEq] at heq
  obtain ⟨hvictims, hstored⟩ := heq
  obtain ⟨⟨-, hroster, hqueue⟩, -, ⟨-, hsizes, -⟩, -⟩ :=
    lockstep_after_calls 10 100 .lru false hrun
  have hsize : c.size = 1 := by
    rw [size, ← Std.TreeMap.length_toList, hstored]
    rfl
  refine ⟨answers, c, hrun, hvictims, hstored, hroster ▸ hsize, hqueue ▸ hsize, ?_⟩
  rw [← hsizes, storedBytes, hstored]
  rfl

end Cache
end CacheSim
