import CacheSim.Proofs.Runs

/-!
# Calls to a cache

A cache is used by three calls: a request is served, a victim is evicted from outside, everything
is cleared.  `Cache.perform` makes one of them; an eviction that finds nothing to evict is
answered so, and the caller may go on.  The rest of the file says, operation by operation, what a
call that succeeds has done.

* `Cache.MakesRoom`: the evictions that make room for an object;
* `Cache.Serves`: the three ways in which a request is served, as a hit, as a miss that is passed
  by, and as a miss that is admitted;
* `Cache.serves_of_request`: there is no other way.
-/

namespace CacheSim
namespace Cache

/-- A call that is made to a cache. -/
inductive Call where
  /-- An object is requested. -/
  | request (r : Request)
  /-- The next victim is to be evicted. -/
  | evict (now : UInt64)
  /-- Everything is to be dropped. -/
  | clear

/-- What a call was answered. -/
inductive Answer where
  | served (reply : Reply)
  | evicted (t : Ticket)
  /-- There was nothing to evict. -/
  | refused
  | cleared
  deriving DecidableEq

namespace Answer

/-- The evicted objects, in the order of their evictions. -/
def victims : Answer → List Ticket
  | served reply => reply.victims
  | evicted t => [t]
  | refused => []
  | cleared => []

end Answer

/-- Makes a call. -/
def perform (c : Cache) : Call → Except Refusal (Answer × Cache)
  | .request r => (fun done => (.served done.1, done.2)) <$> c.request r
  | .evict now =>
    match c.evict now with
    | .ok (t, c') => .ok (.evicted t, c')
    | .error (.nothingToEvict _ _) => .ok (.refused, c)
    | .error (.fault f) => .error (.fault f)
  | .clear => .ok (.cleared, c.clear)

variable {c c' : Cache} {id : ObjectId} {size now : UInt64} {t : Ticket} {object : Stored}
variable {r : Request} {reply : Reply} {answer : Answer} {victims : List Ticket}

lemma perform_request_eq_ok : c.perform (.request r) = .ok (answer, c') ↔
    ∃ reply, c.request r = .ok (reply, c') ∧ answer = .served reply := by
  rw [perform, map_eq_ok]
  constructor
  · rintro ⟨⟨reply, c₁⟩, hreq, heq⟩
    obtain ⟨rfl, rfl⟩ := Prod.mk.inj heq
    exact ⟨reply, hreq, rfl⟩
  · rintro ⟨reply, hreq, rfl⟩
    exact ⟨(reply, c'), hreq, rfl⟩

lemma perform_evict_eq_ok : c.perform (.evict now) = .ok (answer, c') ↔
    (∃ t, c.evict now = .ok (t, c') ∧ answer = .evicted t) ∨
    (∃ occupied capacity, c.evict now = .error (.nothingToEvict occupied capacity)) ∧
      answer = .refused ∧ c' = c := by
  rw [perform]
  split
  · next t c₁ hev =>
    rw [Except.ok.injEq, Prod.mk.injEq, hev]
    constructor
    · rintro ⟨rfl, rfl⟩
      exact Or.inl ⟨t, rfl, rfl⟩
    · rintro (⟨t', heq, rfl⟩ | ⟨⟨_, _, heq⟩, -⟩)
      · obtain ⟨rfl, rfl⟩ := Prod.mk.inj (Except.ok.inj heq)
        exact ⟨rfl, rfl⟩
      · simp at heq
  · next hev => simp [hev, eq_comm]
  · next hev => simp [hev]

/-! ## Storing and dropping -/

/-- A request that is counted moves the clock on. -/
lemma tick_eq_ok : c.tick size = .ok c' ↔
    ∃ clock tally, Word.add c.clock 1 = .ok clock ∧ c.tally.countRequest size = .ok tally ∧
      c' = { c with clock := clock, tally := tally } := by
  simp only [tick, bind_eq_ok, Except.ok.injEq]
  constructor
  · rintro ⟨clock, hclock, tally, htally, rfl⟩
    exact ⟨clock, tally, hclock, htally, rfl⟩
  · rintro ⟨clock, tally, hclock, htally, rfl⟩
    exact ⟨clock, hclock, tally, htally, rfl⟩

/-- An object that is stored gets the next ticket and a place on the roster. -/
lemma store_eq_ok : c.store id size = .ok c' ↔
    ∃ nextSerial occupied roster, Word.add c.nextSerial 1 = .ok nextSerial ∧
      Word.add c.occupied size = .ok occupied ∧
      c.roster.insert c.clock ⟨c.nextSerial, id⟩ size = .ok roster ∧
      c' = { c with
        nextSerial := nextSerial
        stored := c.stored.insert id ⟨⟨c.nextSerial, id⟩, size⟩
        occupied := occupied
        roster := roster } := by
  simp only [store, bind_eq_ok, Except.ok.injEq]
  constructor
  · rintro ⟨nextSerial, hserial, occupied, hocc, roster, hins, rfl⟩
    exact ⟨nextSerial, occupied, roster, hserial, hocc, hins, rfl⟩
  · rintro ⟨nextSerial, occupied, roster, hserial, hocc, hins, rfl⟩
    exact ⟨nextSerial, hserial, occupied, hocc, roster, hins, rfl⟩

/-- A stored victim is taken out of the store and counted. -/
lemma drop_eq_ok (h : c.stored[t.id]? = some object) : c.drop t = .ok c' ↔
    ∃ occupied tally, Word.sub c.occupied object.size = .ok occupied ∧
      c.tally.countEviction = .ok tally ∧
      c' = { c with stored := c.stored.erase t.id, occupied := occupied, tally := tally } := by
  simp only [drop, h, bind_eq_ok, Except.ok.injEq]
  constructor
  · rintro ⟨occupied, hocc, tally, htally, rfl⟩
    exact ⟨occupied, tally, hocc, htally, rfl⟩
  · rintro ⟨occupied, tally, hocc, htally, rfl⟩
    exact ⟨occupied, hocc, tally, htally, rfl⟩

/-- A victim is popped, taken out of the store, and leaves the roster. -/
lemma evict_eq_ok : c.evict now = .ok (t, c') ↔
    ∃ roster c₁ roster', c.roster.popVictim? = some (t, roster) ∧
      drop { c with roster := roster } t = .ok c₁ ∧ c₁.roster.evict now t = .ok roster' ∧
      c' = { c₁ with roster := roster' } := by
  rw [evict]
  split
  · next hpop => simp [hpop]
  · next victim roster hpop =>
    simp only [bind_eq_ok, lift_eq_ok, Except.ok.injEq, Prod.mk.injEq, hpop, Option.some.injEq]
    constructor
    · rintro ⟨c₁, hdrop, roster', hleave, rfl, rfl⟩
      exact ⟨roster, c₁, roster', ⟨rfl, rfl⟩, hdrop, hleave, rfl⟩
    · rintro ⟨_, c₁, roster', ⟨rfl, rfl⟩, hdrop, hleave, rfl⟩
      exact ⟨c₁, hdrop, roster', hleave, rfl, rfl⟩

/-! ## Making room -/

/-- Evictions until `size` more bytes fit: the victims, and the cache in which they fit. -/
inductive MakesRoom (now size : UInt64) : Cache → List Ticket → Cache → Prop where
  | fits {c : Cache} : c.occupied.toNat + size.toNat ≤ c.capacity.toNat → MakesRoom now size c [] c
  | evicts {c c₁ c' : Cache} {t : Ticket} {victims : List Ticket} :
      c.capacity.toNat < c.occupied.toNat + size.toNat → c.evict now = .ok (t, c₁) →
      MakesRoom now size c₁ victims c' → MakesRoom now size c (t :: victims) c'

lemma MakesRoom.leaves_room (hroom : MakesRoom now size c victims c') :
    c'.occupied.toNat + size.toNat ≤ c'.capacity.toNat := by
  induction hroom with
  | fits hfits => exact hfits
  | evicts hover hev hmore ih => exact ih

/-- A run of the eviction loop that ends has made room. -/
lemma makesRoom_of_makeRoom {n : Nat} (h : makeRoom now size n c = .ok (victims, c')) :
    MakesRoom now size c victims c' := by
  induction n generalizing c victims with
  | zero =>
    rw [makeRoom, bind_eq_ok] at h
    obtain ⟨needed, hadd, h⟩ := h
    rw [lift_eq_ok, Word.add_eq_ok] at hadd
    split at h
    · next hfits =>
      obtain ⟨rfl, rfl⟩ := Prod.mk.inj (Except.ok.inj h)
      exact .fits (hadd ▸ UInt64.le_iff_toNat_le.mp hfits)
    · simp at h
  | succ n ih =>
    rw [makeRoom, bind_eq_ok] at h
    obtain ⟨needed, hadd, h⟩ := h
    rw [lift_eq_ok, Word.add_eq_ok] at hadd
    split at h
    · next hfits =>
      obtain ⟨rfl, rfl⟩ := Prod.mk.inj (Except.ok.inj h)
      exact .fits (hadd ▸ UInt64.le_iff_toNat_le.mp hfits)
    · next hover =>
      simp only [bind_eq_ok, Prod.exists, Except.ok.injEq, Prod.mk.injEq] at h
      obtain ⟨t, c₁, hev, rest, c₂, hmore, rfl, rfl⟩ := h
      have hlt : c.capacity.toNat < c.occupied.toNat + size.toNat := by
        rw [hadd]
        exact Nat.lt_of_not_le (mt UInt64.le_iff_toNat_le.mpr hover)
      exact .evicts hlt hev (ih hmore)

/-! ## Requests -/

/-- The ways in which a request is served. -/
inductive Serves (c : Cache) (r : Request) : Reply → Cache → Prop where
  /-- The object is stored: it is touched. -/
  | hit {clock : UInt64} {tally : Tally} {object : Stored} {roster : Roster} :
      Word.add c.clock 1 = .ok clock → c.tally.countRequest (c.effectiveSize r) = .ok tally →
      c.stored[r.id]? = some object → c.roster.touch clock object.ticket = .ok roster →
      Serves c r ⟨true, []⟩ { c with clock := clock, tally := tally, roster := roster }
  /-- The object is not stored and larger than the cache: nothing else happens. -/
  | bypass {clock : UInt64} {tally tally₁ tally₂ : Tally} :
      Word.add c.clock 1 = .ok clock → c.tally.countRequest (c.effectiveSize r) = .ok tally →
      c.stored[r.id]? = none → c.capacity < c.effectiveSize r →
      tally.countMiss (c.effectiveSize r) = .ok tally₁ → tally₁.countBypass = .ok tally₂ →
      Serves c r ⟨false, []⟩ { c with clock := clock, tally := tally₂ }
  /-- The object is not stored: room is made, and it is admitted. -/
  | admission {clock : UInt64} {tally tally₁ : Tally} {victims : List Ticket} {c₁ c₂ : Cache} :
      Word.add c.clock 1 = .ok clock → c.tally.countRequest (c.effectiveSize r) = .ok tally →
      c.stored[r.id]? = none → ¬ c.capacity < c.effectiveSize r →
      tally.countMiss (c.effectiveSize r) = .ok tally₁ →
      MakesRoom clock (c.effectiveSize r) { c with clock := clock, tally := tally₁ } victims c₁ →
      c₁.store r.id (c.effectiveSize r) = .ok c₂ →
      Serves c r ⟨false, victims⟩ c₂

/-- These are all the ways. -/
lemma serves_of_request (h : c.request r = .ok (reply, c')) : Serves c r reply c' := by
  rw [request, bind_eq_ok] at h
  obtain ⟨c₁, htick, h⟩ := h
  rw [lift_eq_ok, tick_eq_ok] at htick
  obtain ⟨clock, tally, hclock, htally, rfl⟩ := htick
  split at h
  · next object hstored =>
    simp only [bind_eq_ok, lift_eq_ok, Except.ok.injEq, Prod.mk.injEq] at h
    obtain ⟨roster, htouch, rfl, rfl⟩ := h
    exact .hit hclock htally hstored htouch
  · next hmiss =>
    rw [admitMissing, bind_eq_ok] at h
    obtain ⟨tally₁, hmissed, h⟩ := h
    rw [lift_eq_ok] at hmissed
    dsimp only at h
    split at h
    · next hlarge =>
      simp only [bind_eq_ok, lift_eq_ok, Except.ok.injEq, Prod.mk.injEq] at h
      obtain ⟨tally₂, hbypassed, rfl, rfl⟩ := h
      exact .bypass hclock htally hmiss hlarge hmissed hbypassed
    · next hlarge =>
      simp only [bind_eq_ok, lift_eq_ok, Prod.exists, Except.ok.injEq, Prod.mk.injEq] at h
      obtain ⟨victims, c₂, hroom, c₃, hstore, rfl, rfl⟩ := h
      exact .admission hclock htally hmiss hlarge hmissed (makesRoom_of_makeRoom hroom) hstore

variable {clock : UInt64} {tally tally₁ tally₂ : Tally} {roster : Roster} {c₁ : Cache}

lemma request_of_hit (hclock : Word.add c.clock 1 = .ok clock)
    (htally : c.tally.countRequest (c.effectiveSize r) = .ok tally)
    (hstored : c.stored[r.id]? = some object)
    (htouch : c.roster.touch clock object.ticket = .ok roster) :
    c.request r =
      .ok (⟨true, []⟩, { c with clock := clock, tally := tally, roster := roster }) := by
  have htick := tick_eq_ok.mpr ⟨clock, tally, hclock, htally, rfl⟩
  refine bind_eq_ok.mpr ⟨_, lift_eq_ok.mpr htick, ?_⟩
  simp only [hstored]
  exact bind_eq_ok.mpr ⟨roster, lift_eq_ok.mpr htouch, rfl⟩

lemma request_of_bypass (hclock : Word.add c.clock 1 = .ok clock)
    (htally : c.tally.countRequest (c.effectiveSize r) = .ok tally)
    (hnew : c.stored[r.id]? = none) (hlarge : c.capacity < c.effectiveSize r)
    (hmiss : tally.countMiss (c.effectiveSize r) = .ok tally₁)
    (hbypass : tally₁.countBypass = .ok tally₂) :
    c.request r = .ok (⟨false, []⟩, { c with clock := clock, tally := tally₂ }) := by
  have htick := tick_eq_ok.mpr ⟨clock, tally, hclock, htally, rfl⟩
  refine bind_eq_ok.mpr ⟨_, lift_eq_ok.mpr htick, ?_⟩
  simp only [hnew]
  refine bind_eq_ok.mpr ⟨tally₁, lift_eq_ok.mpr hmiss, ?_⟩
  rw [if_pos hlarge]
  exact bind_eq_ok.mpr ⟨tally₂, lift_eq_ok.mpr hbypass, rfl⟩

lemma request_of_admission (hclock : Word.add c.clock 1 = .ok clock)
    (htally : c.tally.countRequest (c.effectiveSize r) = .ok tally)
    (hnew : c.stored[r.id]? = none) (hlarge : ¬ c.capacity < c.effectiveSize r)
    (hmiss : tally.countMiss (c.effectiveSize r) = .ok tally₁)
    (hroom : makeRoom clock (c.effectiveSize r) c.roster.queue.size
      { c with clock := clock, tally := tally₁ } = .ok (victims, c₁))
    (hstore : c₁.store r.id (c.effectiveSize r) = .ok c') :
    c.request r = .ok (⟨false, victims⟩, c') := by
  have htick := tick_eq_ok.mpr ⟨clock, tally, hclock, htally, rfl⟩
  refine bind_eq_ok.mpr ⟨_, lift_eq_ok.mpr htick, ?_⟩
  simp only [hnew]
  refine bind_eq_ok.mpr ⟨tally₁, lift_eq_ok.mpr hmiss, ?_⟩
  rw [if_neg hlarge]
  exact bind_eq_ok.mpr ⟨_, hroom, bind_eq_ok.mpr ⟨c', lift_eq_ok.mpr hstore, rfl⟩⟩

end Cache
end CacheSim
