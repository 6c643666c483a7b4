import CacheSim.Proofs.Cache.Summary
import CacheSim.Proofs.Simulation

/-!
# One request from end to end

A request for a stored object changes nothing but the features and the priority of that object.  A
request for an object that is larger than the cache is only counted.  Any other request takes
victims from the front of the queue, no more than it has to, and stores the object behind a ticket
of its own; every other object stays as it is.

* `Cache.MakesRoom.isLeast`: as few objects are evicted as make room, in the order of the queue;
* `Cache.Hits`, `Cache.PassesBy`, `Cache.Admits`: all that a request does, in its three cases;
* `Cache.served_after_calls`: after any calls, every request is served in one of these ways.
-/

namespace CacheSim
namespace Cache

variable {c c₁ c' : Cache} {size now clock : UInt64} {r : Request} {victims : List Ticket}
variable {tally tally₁ tally₂ : Tally} {roster : Roster} {k : Nat}

/-! ## As few victims as make room -/

/-- The bytes that are set free when the first `k` objects of the queue are evicted. -/
def freed (c : Cache) (k : Nat) : Nat :=
  ((c.roster.queue.tickets.take k).map fun t => c.bytesOf t.id).sum

/-- With fewer victims there is no room yet. -/
lemma MakesRoom.over (hroom : MakesRoom now size c victims c') (hlock : c.Lockstep)
    (hk : k < victims.length) :
    c.capacity.toNat + ((victims.take k).map fun t => c.bytesOf t.id).sum <
      c.occupied.toNat + size.toNat := by
  induction hroom generalizing k with
  | fits => exact absurd hk (Nat.not_lt_zero k)
  | @evicts c c₁ c' t victims hover hev hmore ih =>
    cases k with
    | zero => exact hover
    | succ k =>
      have hevicts := evicts_of_evict hlock hev
      have hlock₁ := hlock.evict hev
      obtain ⟨-, hfreed, -, hothers⟩ := hevicts.books
      have hcapacity := (sameSetup_of_evicts hevicts).capacity
      have hlater := ih hlock₁ (Nat.lt_of_succ_lt_succ hk)
      obtain ⟨-, -, hmem⟩ := hlock₁.makesRoom_books hmore
      have hsame : ∀ v ∈ victims.take k, c₁.bytesOf v.id = c.bytesOf v.id :=
        fun v hv => (hothers v.id (hmem v (List.mem_of_mem_take hv))).2
      rw [hcapacity, List.map_congr_left hsame] at hlater
      rw [List.take_succ_cons, List.map_cons, List.sum_cons]
      omega

/-- As few objects of the queue are evicted as make room. -/
lemma MakesRoom.isLeast (hroom : MakesRoom now size c victims c') (hlock : c.Lockstep) :
    IsLeast {k | c.occupied.toNat + size.toNat ≤ c.capacity.toNat + c.freed k} victims.length := by
  have htake : ∀ k ≤ victims.length, c.roster.queue.tickets.take k = victims.take k := by
    intro k hk
    rw [hroom.tickets_eq hlock, List.take_append_of_le_length hk]
  constructor
  · obtain ⟨-, hfreed, -⟩ := hlock.makesRoom_books hroom
    have hfits := hroom.leaves_room
    rw [(sameSetup_of_makesRoom hlock hroom).capacity] at hfits
    rw [Set.mem_ofPred_eq, freed, htake _ (Nat.le_refl _), List.take_length]
    omega
  · intro k hk
    by_contra hfewer
    rw [Nat.not_le] at hfewer
    have hover := hroom.over hlock hfewer
    rw [Set.mem_ofPred_eq, freed, htake k (Nat.le_of_lt hfewer)] at hk
    omega

/-! ## What a request does -/

/-- A hit: the requested object is seen once more, and everything else stays as it is. -/
structure Hits (c : Cache) (r : Request) (c' : Cache) : Prop where
  counts : c'.tally.counts = { c.tally.counts with
    requests := c.tally.counts.requests + 1
    requestBytes := c.tally.counts.requestBytes + (c.effectiveSize r).toNat }
  stored : c'.stored = c.stored
  occupied : c'.occupied = c.occupied
  nextSerial : c'.nextSerial = c.nextSerial
  entered : c'.roster.entered = c.roster.entered
  sizes : c'.roster.sizes = c.roster.sizes
  ghosts : c'.roster.ghosts = c.roster.ghosts
  requested : ∃ profile, c.roster.profile? r.id = some profile ∧
    c'.roster.profile? r.id = some (profile.touch c'.clock)
  others : ∀ id ≠ r.id, Keeps c c' id

/-- A miss for an object that is larger than the cache: it is counted, and that is all. -/
structure PassesBy (c : Cache) (r : Request) (c' : Cache) : Prop where
  counts : c'.tally.counts = { c.tally.counts with
    requests := c.tally.counts.requests + 1
    misses := c.tally.counts.misses + 1
    requestBytes := c.tally.counts.requestBytes + (c.effectiveSize r).toNat
    missBytes := c.tally.counts.missBytes + (c.effectiveSize r).toNat
    bypasses := c.tally.counts.bypasses + 1 }
  rest : c' = { c with clock := c'.clock, tally := c'.tally }

/-- An object that is evicted at `now` leaves a ghost of its features. -/
def LeavesGhost (c : Cache) (now : UInt64) (t : Ticket) (ghost : Ghost) : Prop :=
  ∃ profile, c.roster.residents[t.id]? = some ⟨t, profile⟩ ∧
    ghost = ⟨t.id, profile.size, profile.accesses, Word.monus now profile.entered⟩

/-- Any other miss: victims leave from the front of the queue until there is room, and the object is
stored. -/
structure Admits (c : Cache) (r : Request) (victims : List Ticket) (c' : Cache) : Prop where
  counts : c'.tally.counts = { c.tally.counts with
    requests := c.tally.counts.requests + 1
    misses := c.tally.counts.misses + 1
    requestBytes := c.tally.counts.requestBytes + (c.effectiveSize r).toNat
    missBytes := c.tally.counts.missBytes + (c.effectiveSize r).toNat
    evictions := c.tally.counts.evictions + victims.length }
  /-- The victims are the first in the queue. -/
  first : victims = c.roster.queue.tickets.take victims.length
  /-- There are no more of them than it takes. -/
  fewest : IsLeast {k | c.occupied.toNat + (c.effectiveSize r).toNat ≤
    c.capacity.toNat + c.freed k} victims.length
  occupied : c'.occupied.toNat + c.freed victims.length =
    c.occupied.toNat + (c.effectiveSize r).toNat
  gone : ∀ t ∈ victims, t.id ∉ c'.stored
  /-- They are remembered in this order, with their age by now. -/
  ghosts : ∃ ghosts, List.Forall₂ (LeavesGhost c c'.clock) victims ghosts ∧
    ghosts.foldlM GhostLog.record c.roster.ghosts = .ok c'.roster.ghosts
  survivors : ∀ id ≠ r.id, id ∉ victims.map Ticket.id → Keeps c c' id
  stored : c'.stored[r.id]? = some ⟨⟨c.nextSerial, r.id⟩, c.effectiveSize r⟩
  resident : c'.roster.residents[r.id]? = some ⟨⟨c.nextSerial, r.id⟩, {
    accesses := 1
    lastAccess := c'.clock
    size := c.effectiveSize r
    entered := c'.clock }⟩
  /-- No other object has as large a serial number. -/
  serial : ∀ (id : ObjectId) object, id ≠ r.id → c'.stored[id]? = some object →
    object.ticket.serial < c.nextSerial

lemma Touches.hits (htouch : Touches c clock r.id roster)
    (htally : c.tally.countRequest (c.effectiveSize r) = .ok tally) :
    Hits c r { c with clock := clock, tally := tally, roster := roster } := by
  have hothers : ∀ id ≠ r.id,
      Keeps c { c with clock := clock, tally := tally, roster := roster } id := by
    intro id hne
    obtain ⟨hstored, hresident, hpriority⟩ := htouch.keeps (Ne.symm hne)
    exact ⟨hstored, hresident, hpriority⟩
  cases htouch with
  | @resident t profile p hres hid hp =>
    refine ⟨Tally.counts_countRequest htally, rfl, rfl, rfl, rfl, rfl, rfl,
      ⟨profile, ?_, ?_⟩, hothers⟩
    · rw [Roster.profile?, hres]
      rfl
    · rw [← hid]
      exact congrArg _ Roster.residents_reseat

lemma passesBy_of_bypass (htally : c.tally.countRequest (c.effectiveSize r) = .ok tally)
    (hmiss : tally.countMiss (c.effectiveSize r) = .ok tally₁)
    (hbypass : tally₁.countBypass = .ok tally₂) :
    PassesBy c r { c with clock := clock, tally := tally₂ } := by
  refine ⟨?_, rfl⟩
  rw [Tally.counts_countBypass hbypass, Tally.counts_countMiss hmiss,
    Tally.counts_countRequest htally]

/-- What is evicted is not stored any more. -/
lemma MakesRoom.gone (hroom : MakesRoom now size c victims c') (hlock : c.Lockstep) :
    ∀ t ∈ victims, c'.stored[t.id]? = none := by
  induction hroom with
  | fits => simp
  | evicts hover hev hmore ih =>
    intro v hv
    rcases List.mem_cons.mp hv with rfl | hv
    · cases evicts_of_evict hlock hev with
      | victim => exact ((hlock.evict hev).makesRoom hmore Std.TreeMap.getElem?_erase_self).2.1
    · exact ih (hlock.evict hev) v hv

/-- What is evicted is remembered in that order. -/
lemma MakesRoom.leavesGhosts (hroom : MakesRoom now size c victims c') (hlock : c.Lockstep) :
    ∃ ghosts, List.Forall₂ (LeavesGhost c now) victims ghosts ∧
      ghosts.foldlM GhostLog.record c.roster.ghosts = .ok c'.roster.ghosts := by
  refine ⟨ghostsOf c.roster now victims, forall₂_ghostsOf now fun t ht => ?_,
    record_of_makesRoom hroom hlock⟩
  obtain ⟨_, hstored⟩ := ((hroom.ahead hlock).2 t ht).1
  obtain ⟨profile, hres, -⟩ := hlock.stored_eq_some.mp hstored
  exact ⟨profile, hres⟩

/-- The object that is stored is on the roster as a new one, and the ghosts are left alone. -/
lemma Stores.seated {id : ObjectId} (hstore : Stores c id size c') :
    c'.clock = c.clock ∧ c'.roster.ghosts = c.roster.ghosts ∧
      c'.stored[id]? = some ⟨⟨c.nextSerial, id⟩, size⟩ ∧
      c'.roster.residents[id]? = some ⟨⟨c.nextSerial, id⟩, .start c.clock size⟩ := by
  cases hstore with
  | fresh =>
    exact ⟨rfl, rfl, Std.TreeMap.getElem?_insert_self, Std.TreeMap.getElem?_insert_self⟩

lemma Stores.admits (hstore : Stores c₁ r.id (c.effectiveSize r) c')
    (htally : c.tally.countRequest (c.effectiveSize r) = .ok tally)
    (hmiss : tally.countMiss (c.effectiveSize r) = .ok tally₁) (hnew : c.stored[r.id]? = none)
    (hlock : Lockstep { c with clock := clock, tally := tally₁ })
    (hroom : MakesRoom clock (c.effectiveSize r) { c with clock := clock, tally := tally₁ }
      victims c₁) (hlock₁ : c₁.Lockstep) : Admits c r victims c' := by
  obtain ⟨hcounts, hfreed, hmem⟩ := hlock.makesRoom_books hroom
  obtain ⟨htally', -, hocc⟩ := hstore.books hlock₁
  obtain ⟨hclock', hghosts', hstored', hresident'⟩ := hstore.seated
  have hclock : c₁.clock = clock := clock_of_makesRoom hlock hroom
  have hserial : c₁.nextSerial = c.nextSerial := by
    refine (hroom.congr Cache.nextSerial hlock fun hev => ?_).trans rfl
    cases hev with
    | victim => rfl
  have hqueue : c.roster.queue.tickets = victims ++ c₁.roster.queue.tickets :=
    hroom.tickets_eq hlock
  have hfirst : victims = c.roster.queue.tickets.take victims.length := by
    rw [hqueue, List.take_left]
  -- the requested object was not stored, so it is none of the victims
  have hother : ∀ t ∈ victims, r.id ≠ t.id := by
    intro t ht heq
    obtain ⟨object, hobject⟩ := Table.mem_iff_exists.mp (hmem t ht)
    exact absurd (hnew.symm.trans (heq ▸ hobject)) (by simp)
  rw [Tally.counts_countMiss hmiss, Tally.counts_countRequest htally, ← htally'] at hcounts
  refine ⟨hcounts, hfirst, hroom.isLeast hlock, ?_, fun t ht => ?_, ?_, fun id hne hnot => ?_,
    hserial ▸ hstored', ?_, fun id object hne hstored => ?_⟩
  · change c₁.occupied.toNat + (victims.map fun t => c.bytesOf t.id).sum = c.occupied.toNat
      at hfreed
    rw [freed, ← hfirst, hocc]
    omega
  · have hgone := (hstore.keeps (hother t ht)).stored.trans (hroom.gone hlock t ht)
    simp [Table.mem_iff_exists, hgone]
  · rw [hghosts', hclock', hclock]
    exact hroom.leavesGhosts hlock
  · obtain ⟨hstored, hresident, hpriority⟩ :=
      (hroom.keeps hlock hnot).trans (hstore.keeps (Ne.symm hne))
    exact ⟨hstored, hresident, hpriority⟩
  · rw [hresident', hserial, hclock']
    rfl
  · -- what was stored before has a smaller serial number, and so has what is left of it
    rw [(hstore.keeps (Ne.symm hne)).stored] at hstored
    exact hlock.serial_lt id object (hlock.stored_of_makesRoom hroom hstored)

/-! ## Runs -/

/-- A request that is answered has been served in one of the three ways. -/
lemma Lockstep.served {reply : Reply} (hlock : c.Lockstep)
    (hreq : c.request r = .ok (reply, c')) :
    c'.clock.toNat = c.clock.toNat + 1 ∧
      (reply = ⟨true, []⟩ ∧ c.contains r.id = true ∧ Hits c r c' ∨
        reply = ⟨false, []⟩ ∧ c.contains r.id = false ∧ c.capacity < c.effectiveSize r ∧
          PassesBy c r c' ∨
        reply.hit = false ∧ c.contains r.id = false ∧ c.effectiveSize r ≤ c.capacity ∧
          Admits c r reply.victims c') := by
  have hcontains : c.contains r.id = c.stored[r.id]?.isSome :=
    Std.TreeMap.contains_eq_isSome_getElem?
  cases hlock.performs (perform_request_eq_ok.mpr ⟨reply, hreq, rfl⟩) with
  | hit hclock htally hstored htouch =>
    rw [hstored] at hcontains
    exact ⟨toNat_of_tick hclock, Or.inl ⟨rfl, hcontains, htouch.hits htally⟩⟩
  | bypass hclock htally hnew hlarge hmiss hbypass =>
    rw [hnew] at hcontains
    exact ⟨toNat_of_tick hclock,
      Or.inr (Or.inl ⟨rfl, hcontains, hlarge, passesBy_of_bypass htally hmiss hbypass⟩)⟩
  | admission hclock htally hnew hlarge hmiss hcounted hroom hlock₁ hstore =>
    rw [hnew] at hcontains
    obtain ⟨hsame, -⟩ := hstore.seated
    rw [hsame, clock_of_makesRoom hcounted hroom]
    exact ⟨toNat_of_tick hclock, Or.inr (Or.inr ⟨rfl, hcontains, UInt64.not_lt.mp hlarge,
      hstore.admits htally hmiss hnew hcounted hroom hlock₁⟩)⟩

/-- **One request from end to end.**  Take a cache after any calls, under any scorer and any nominal
size, and a request that makes no counter overflow.  The objects of the cache are queued in the
ascending order of their priorities and, where these are equal, of their serial numbers.  The
request is answered, as a hit exactly when its object is stored, the clock moves on by one, and

* a hit changes only the features and the priority of the requested object, and leaves the store,
  the admission times, the sizes and the ghosts as they are (`Hits`);
* a miss for an object that is larger than the cache changes only the clock and the five counters of
  requests, misses, their bytes and bypasses (`PassesBy`);
* any other miss evicts the first objects of the queue as it was before, as few as it takes to make
  room; they become ghosts in this order with their ages by the new clock, every other object is
  kept as it is, and the requested object is stored, with one access, entered and accessed last by
  the new clock, under a serial number that is larger than all others (`Admits`). -/
theorem served_after_calls (capacity budget : UInt64) (scorer : Scorer) (unitSizes : Bool)
    (nominalSize : UInt64) {calls : List Call} {answers : List Answer} {c : Cache} {r : Request}
    (hrun : runCalls perform (nominal capacity budget scorer unitSizes nominalSize) calls =
      .ok (answers, c))
    (hreq : ∀ f, c.request r ≠ .error (.fault f)) :
    (c.roster.queue.tickets.Pairwise c.roster.queue.Ahead ∧
      ∀ t, t ∈ c.roster.queue.tickets ↔ ∃ size, c.stored[t.id]? = some ⟨t, size⟩) ∧
    ∃ reply c', c.request r = .ok (reply, c') ∧ reply.hit = c.contains r.id ∧
      c'.clock.toNat = c.clock.toNat + 1 ∧
      (c.contains r.id = true → reply.victims = [] ∧ Hits c r c') ∧
      (c.contains r.id = false → c.capacity < c.effectiveSize r →
        reply.victims = [] ∧ PassesBy c r c') ∧
      (c.contains r.id = false → c.effectiveSize r ≤ c.capacity →
        Admits c r reply.victims c') := by
  have hstart := lockstep_nominal capacity budget scorer unitSizes nominalSize
  obtain ⟨hlock, -⟩ := lockstep_of_run hstart hrun
  refine ⟨⟨hlock.pairwise_tickets, fun t => hlock.mem_tickets⟩, ?_⟩
  rcases ok_or_fault (hlock.not_refuses_request (r := r)) with ⟨⟨reply, c'⟩, hok⟩ | ⟨f, hfault⟩
  · refine ⟨reply, c', hok, ?_⟩
    obtain ⟨hclock, hserved⟩ := hlock.served hok
    rcases hserved with ⟨rfl, hin, hhits⟩ | ⟨rfl, hout, hlarge, hpasses⟩ |
      ⟨hmiss, hout, hfits, hadmits⟩
    · exact ⟨hin.symm, hclock, fun _ => ⟨rfl, hhits⟩, by simp [hin], by simp [hin]⟩
    · exact ⟨hout.symm, hclock, by simp [hout], fun _ _ => ⟨rfl, hpasses⟩,
        fun _ hfits => absurd hlarge (UInt64.not_lt.mpr hfits)⟩
    · exact ⟨hmiss.trans hout.symm, hclock, by simp [hout],
        fun _ hlarge => absurd hlarge (UInt64.not_lt.mpr hfits), fun _ _ => hadmits⟩
  · exact absurd hfault (hreq f)

/-- The four bytes of the cache are taken by the second and the fourth of four objects.  A request
for the second is a hit, whatever size it names; five bytes are passed by; three bytes take the
first object, which has none, and the second, and then just fit, so the third stays, which has none
either. -/
theorem served_with_empty_objects :
    ∃ answers c, runCalls perform (nominal 4 100 .lru false 40)
        [.request ⟨0, 1, 0⟩, .request ⟨0, 2, 3⟩, .request ⟨0, 3, 0⟩, .request ⟨0, 4, 1⟩] =
          .ok (answers, c) ∧
      (∃ reply c', c.request ⟨0, 2, 9⟩ = .ok (reply, c') ∧ reply.hit = true ∧
        Hits c ⟨0, 2, 9⟩ c') ∧
      (∃ reply c', c.request ⟨0, 5, 5⟩ = .ok (reply, c') ∧ reply.hit = false ∧
        PassesBy c ⟨0, 5, 5⟩ c') ∧
      ∃ reply c', c.request ⟨0, 5, 3⟩ = .ok (reply, c') ∧ reply = ⟨false, [⟨0, 1⟩, ⟨1, 2⟩]⟩ ∧
        Admits c ⟨0, 5, 3⟩ reply.victims c' := by
  have hends : (fun done : List Answer × Cache =>
        (done.2.capacity, done.2.unitSizes, done.2.contains 2, done.2.contains 5,
          (·.1) <$> done.2.request ⟨0, 2, 9⟩, (·.1) <$> done.2.request ⟨0, 5, 5⟩,
          (·.1) <$> done.2.request ⟨0, 5, 3⟩)) <$>
      runCalls perform (nominal 4 100 .lru false 40)
        [.request ⟨0, 1, 0⟩, .request ⟨0, 2, 3⟩, .request ⟨0, 3, 0⟩, .request ⟨0, 4, 1⟩] =
      .ok (4, false, true, false, .ok ⟨true, []⟩, .ok ⟨false, []⟩,
        .ok ⟨false, [⟨0, 1⟩, ⟨1, 2⟩]⟩) := by
    cbv
  obtain ⟨⟨answers, c⟩, hrun, heq⟩ := map_eq_ok.mp hends
  simp only [Prod.mk.injEq] at heq
  obtain ⟨hcapacity, hunits, hin, hout, hhit, hpass, hadmit⟩ := heq
  have hanswered : ∀ {r : Request} {reply : Reply}, (·.1) <$> c.request r = .ok reply →
      ∀ f, c.request r ≠ .error (.fault f) := by
    intro r reply hreply f hfault
    rw [hfault] at hreply
    cases hreply
  have hsize : ∀ r, c.effectiveSize r = r.size := fun r => by rw [effectiveSize, hunits]; rfl
  obtain ⟨-, reply₁, c₁, hok₁, hsame₁, -, hhits, -, -⟩ :=
    served_after_calls 4 100 .lru false 40 hrun (hanswered hhit)
  obtain ⟨-, reply₂, c₂, hok₂, hsame₂, -, -, hpasses, -⟩ :=
    served_after_calls 4 100 .lru false 40 hrun (hanswered hpass)
  obtain ⟨-, reply₃, c₃, hok₃, -, -, -, -, hadmits⟩ :=
    served_after_calls 4 100 .lru false 40 hrun (hanswered hadmit)
  refine ⟨answers, c, hrun, ⟨reply₁, c₁, hok₁, hsame₁.trans hin, (hhits hin).2⟩,
    ⟨reply₂, c₂, hok₂, hsame₂.trans hout, (hpasses hout ?_).2⟩,
    ⟨reply₃, c₃, hok₃, ?_, hadmits hout ?_⟩⟩
  · rw [hsize, hcapacity]
    decide
  · rw [hok₃] at hadmit
    exact Except.ok.inj hadmit
  · rw [hsize, hcapacity]
    decide

end Cache
end CacheSim
