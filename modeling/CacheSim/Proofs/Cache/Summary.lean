import CacheSim.Proofs.Cache.Chronicle
import CacheSim.Proofs.Cache.Events
import CacheSim.Proofs.Cache.Victims

/-!
# Features and ghosts as summaries of a run

What a cache knows of an object can be told from the events that have led to it: which request
admitted the object, which was the latest one for it, and how many hits there were in between.  When
the object is evicted, this is what its ghost is made of.  So the log of ghosts can be written anew
from the evictions alone.

* `Cache.Told`: what events tell of an object that is stored after them;
* `Cache.Told.snoc`, `Cache.Told.hit`, `Cache.told_of_admission`: one more event;
* `Cache.Event.ghosts`: the ghosts of the victims of an event;
* `Cache.summary_of_run`: features, times and ghosts after any run of requests and evictions.
-/

namespace CacheSim
namespace Cache

/-! ## Numbers of requests -/

/-- The number of requests among events. -/
def requestCount (events : List Event) : Nat :=
  events.countP fun e => e.call.isRequest

/-- Whether an event is a hit of an object. -/
def Event.isHitOf (id : ObjectId) (e : Event) : Bool :=
  e.call.requests id && e.answer.isHit

variable {start c c' : Cache} {id : ObjectId} {size now : UInt64} {t : Ticket} {e : Event}
variable {profile : Profile} {resident : Resident} {roster : Roster} {r : Request}
variable {victims : List Ticket} {call : Call} {answer : Answer} {events earlier later : List Event}
variable {capacity budget : UInt64} {scorer : Scorer} {unitSizes : Bool}

lemma requestCount_snoc (events : List Event) (e : Event) :
    requestCount (events ++ [e]) = requestCount events + e.call.isRequest.toNat := by
  rw [requestCount, requestCount, List.countP_append, List.countP_singleton]
  cases e.call.isRequest <;> rfl

lemma isRequest_of_requests (h : call.requests id = true) : call.isRequest = true := by
  cases call with
  | request r => rfl
  | evict | clear => simp [Call.requests] at h

/-! ## What events tell of an object -/

/-- An event admitted an object: it was requested and not stored, and is stored since then with the
bytes that the request counted for. -/
structure Event.Admits (e : Event) (t : Ticket) (size : UInt64) : Prop where
  requested : e.call.requests t.id = true
  admission : e.isAdmission = true
  missing : e.before.stored[t.id]? = none
  stored : e.after.stored[t.id]? = some ⟨t, size⟩
  bytes : size.toNat = e.bytes

/-- The features of a stored object are those that the events tell. -/
structure Told (events : List Event) (t : Ticket) (profile : Profile) : Prop where
  /-- The object entered at the event that admitted it, with the size that it had then, and its
  accesses are this one and the hits since then, as far as a 32-bit counter goes. -/
  admitted : ∃ earlier e later, events = earlier ++ e :: later ∧ e.Admits t profile.size ∧
    profile.entered.toNat = requestCount earlier + 1 ∧
    profile.accesses.toNat = min (1 + later.countP (Event.isHitOf t.id)) (2 ^ 32 - 1)
  /-- Its last access is the latest request for it. -/
  accessed : ∃ earlier e later, events = earlier ++ e :: later ∧ e.call.requests t.id = true ∧
    (∀ e' ∈ later, e'.call.requests t.id = false) ∧
    profile.lastAccess.toNat = requestCount earlier + 1

/-- Events that do not request the object tell nothing new of it. -/
lemma Told.snoc (h : Told events t profile) (hother : e.call.requests t.id = false) :
    Told (events ++ [e]) t profile := by
  obtain ⟨⟨earlier, e₁, later, rfl, hadmits, hentered, haccesses⟩,
    ⟨earlier', e₂, later', heq, hrequests, hnone, hlast⟩⟩ := h
  refine ⟨⟨earlier, e₁, later ++ [e], by simp, hadmits, hentered, ?_⟩,
    ⟨earlier', e₂, later' ++ [e], by simp [heq], hrequests, ?_, hlast⟩⟩
  · rw [haccesses, List.countP_append, List.countP_singleton, Event.isHitOf, hother]
    rfl
  · intro e' he'
    rcases List.mem_append.mp he' with he' | he'
    · exact hnone e' he'
    · rwa [List.mem_singleton.mp he']

/-- A hit is one more access, at its own time. -/
lemma Told.hit (h : Told events t profile) (hhit : e.isHitOf t.id = true)
    (hnow : now.toNat = requestCount events + 1) : Told (events ++ [e]) t (profile.touch now) := by
  obtain ⟨⟨earlier, e₁, later, heq, hadmits, hentered, haccesses⟩, -⟩ := h
  refine ⟨⟨earlier, e₁, later ++ [e], by simp [heq], hadmits, hentered, ?_⟩,
    ⟨events, e, [], rfl, ?_, by simp, hnow⟩⟩
  · rw [Profile.toNat_accesses_touch, haccesses, List.countP_append, List.countP_singleton, hhit]
    change min _ (2 ^ 32 - 1) = min (1 + (_ + 1)) (2 ^ 32 - 1)
    omega
  · rw [Event.isHitOf, Bool.and_eq_true] at hhit
    exact hhit.1

lemma told_of_admission (h : e.Admits t size) (hnow : now.toNat = requestCount events + 1) :
    Told (events ++ [e]) t (.start now size) :=
  ⟨⟨events, e, [], rfl, h, hnow, rfl⟩, ⟨events, e, [], rfl, h.requested, by simp, hnow⟩⟩

/-! ## Runs -/

/-- The clock moves on with the requests. -/
lemma clock_of_perform (hlock : c.Lockstep) (hcall : c.perform call = .ok (answer, c')) :
    c'.clock.toNat = c.clock.toNat + call.isRequest.toNat := by
  cases hlock.performs hcall with
  | hit hclock | bypass hclock => exact toNat_of_tick hclock
  | admission hclock htally hnew hlarge hmiss hcounted hroom hlock₁ hstore =>
    have hsame := clock_of_makesRoom hcounted hroom
    cases hstore with
    | fresh =>
      rw [hsame]
      exact toNat_of_tick hclock
  | evicted hev hevicts =>
    cases hevicts with
    | victim => rfl
  | refused | cleared => rfl

/-- The clock tells the number of the requests. -/
lemma Trail.clock_eq (htrail : Trail start events c) (hlock : start.Lockstep) :
    c.clock.toNat = start.clock.toNat + requestCount events := by
  induction htrail with
  | nil => rfl
  | snoc hmore hcall ih =>
    rw [clock_of_perform (hmore.lockstep hlock).1 hcall, ih, requestCount_snoc, Nat.add_assoc]

/-- What is told of an object that is requested and stored then. -/
lemma told_of_requested (hlock : c.Lockstep)
    (htold : ∀ x, c.roster.residents[id]? = some x → Told events x.ticket x.profile)
    (hclock : c.clock.toNat = requestCount events) (hcall : c.perform call = .ok (answer, c'))
    (hrequests : call.requests id = true) (hres : c'.roster.residents[id]? = some resident) :
    Told (events ++ [⟨c, call, answer, c'⟩]) resident.ticket resident.profile := by
  have hnow := clock_of_perform hlock hcall
  rw [isRequest_of_requests hrequests, hclock] at hnow
  have hstored := (hlock.perform hcall).stored_of_resident hres
  cases hlock.performs hcall with
  | @hit r _ _ _ _ hclock htally hfound htouch =>
    obtain rfl : r.id = id := by simpa [Call.requests] using hrequests
    cases htouch with
    | @resident t profile p hold hid hp =>
      rcases Table.getElem?_insert_eq_some.mp hres with ⟨-, rfl⟩ | ⟨hne, -⟩
      · refine (htold _ hold).hit ?_ hnow
        simp [Event.isHitOf, Call.requests, Answer.isHit, hid]
      · exact absurd hid hne
  | @bypass r _ _ _ _ hclock htally hnew =>
    obtain rfl : r.id = id := by simpa [Call.requests] using hrequests
    exact absurd (hnew.symm.trans hstored) (by simp)
  | @admission r _ _ _ _ c₁ _ hclock htally hnew hlarge hmiss hcounted hroom hlock₁ hstore =>
    obtain rfl : r.id = id := by simpa [Call.requests] using hrequests
    cases hstore with
    | @fresh nextSerial occupied p hmem hserial hocc hp =>
      rcases Table.getElem?_insert_eq_some.mp hres with ⟨-, rfl⟩ | ⟨hne, -⟩
      · have hbytes := toNat_effectiveSize c r
        refine told_of_admission ⟨hrequests, ?_, hnew, hstored, hbytes⟩ hnow
        rw [UInt64.lt_iff_toNat_lt, hbytes] at hlarge
        simp only [Event.isAdmission, Event.bytes, Answer.isMiss, hlarge, decide_false,
          Bool.not_false, Bool.and_self]
      · exact absurd rfl hne
  | evicted | refused | cleared => simp [Call.requests] at hrequests

/-- What has been told of the stored objects is told of them after one more call. -/
lemma told_of_perform (hlock : c.Lockstep)
    (htold : ∀ x, c.roster.residents[id]? = some x → Told events x.ticket x.profile)
    (hclock : c.clock.toNat = requestCount events) (hcall : c.perform call = .ok (answer, c'))
    (hres : c'.roster.residents[id]? = some resident) :
    Told (events ++ [⟨c, call, answer, c'⟩]) resident.ticket resident.profile := by
  cases hother : call.requests id with
  | true => exact told_of_requested hlock htold hclock hcall hother hres
  | false =>
    obtain ⟨hold, -⟩ := frame_of_perform hlock hcall hother resident hres
    have hid := hlock.roster.ticket_id id resident hold
    exact (htold resident hold).snoc (hid ▸ hother)

/-- The features of the stored objects are what the events tell. -/
lemma Trail.told (htrail : Trail (new capacity (.empty scorer budget) unitSizes) events c)
    (hres : c.roster.residents[id]? = some resident) :
    Told events resident.ticket resident.profile := by
  have hlock := lockstep_new capacity budget scorer unitSizes
  induction htrail generalizing id resident with
  | nil => simp [new, Roster.empty] at hres
  | snoc hmore hcall ih =>
    have hclock := hmore.clock_eq hlock
    exact told_of_perform (hmore.lockstep hlock).1 (fun x hx => ih hx)
      (hclock.trans (Nat.zero_add _)) hcall hres

/-- What comes before an event on a trail has led to the cache that the event begins with. -/
lemma Trail.before (htrail : Trail start events c) (heq : events = earlier ++ e :: later) :
    Trail start earlier e.before ∧ e.before.perform e.call = .ok (e.answer, e.after) := by
  induction htrail generalizing later with
  | nil => simp at heq
  | snoc hmore hcall ih =>
    rcases List.eq_nil_or_concat later with rfl | ⟨later, e', rfl⟩
    · obtain ⟨rfl, hlast⟩ := List.append_inj' heq rfl
      obtain rfl := (List.cons.inj hlast).1
      exact ⟨hmore, hcall⟩
    · rw [List.concat_eq_append, ← List.cons_append, ← List.append_assoc] at heq
      exact ih (List.append_inj' heq rfl).1

/-! ## Ghosts -/

/-- The time at which the victims of an event are evicted. -/
def Event.time (e : Event) : UInt64 :=
  match e.call with
  | .evict now => now
  | _ => e.after.clock

/-- The ghosts that victims leave at `now`, by the features that they have on a roster. -/
def ghostsOf (r : Roster) (now : UInt64) (victims : List Ticket) : List Ghost :=
  victims.filterMap fun t => (r.holder? t).map fun x => Roster.ghostOf now t.id x.profile

/-- The ghosts of the victims of an event, in the order of their evictions. -/
def Event.ghosts (e : Event) : List Ghost :=
  ghostsOf e.before.roster e.time e.answer.victims

lemma ghostsOf_cons (hres : c.roster.residents[t.id]? = some ⟨t, profile⟩) :
    ghostsOf c.roster now (t :: victims) =
      Roster.ghostOf now t.id profile :: ghostsOf c.roster now victims := by
  rw [ghostsOf, List.filterMap_cons, Roster.holder?_eq_some.mpr ⟨hres, rfl⟩]
  rfl

/-- Residents leave a ghost each. -/
lemma forall₂_ghostsOf (now : UInt64) (hres : ∀ t ∈ victims, ∃ profile,
    c.roster.residents[t.id]? = some ⟨t, profile⟩) :
    List.Forall₂ (fun t ghost => ∃ profile, c.roster.residents[t.id]? = some ⟨t, profile⟩ ∧
      ghost = Roster.ghostOf now t.id profile) victims (ghostsOf c.roster now victims) := by
  induction victims with
  | nil => exact .nil
  | cons t victims ih =>
    obtain ⟨profile, ht⟩ := hres t List.mem_cons_self
    rw [ghostsOf_cons ht]
    exact .cons ⟨profile, ht, rfl⟩ (ih fun v hv => hres v (List.mem_cons_of_mem t hv))

/-- A victim is remembered by its features. -/
lemma Evicts.record (hev : Evicts c now t c') : ∃ profile,
    c.roster.residents[t.id]? = some ⟨t, profile⟩ ∧
      c.roster.ghosts.record (Roster.ghostOf now t.id profile) = .ok c'.roster.ghosts := by
  cases hev with
  | victim hres hstored hfirst hocc htally hghosts => exact ⟨_, hres, hghosts⟩

/-- The ghosts of the objects that are evicted to make room are recorded one by one. -/
lemma record_of_makesRoom (hroom : MakesRoom now size c victims c') (hlock : c.Lockstep) :
    (ghostsOf c.roster now victims).foldlM GhostLog.record c.roster.ghosts =
      .ok c'.roster.ghosts := by
  induction hroom with
  | fits => rfl
  | @evicts c c₁ c' t victims hover hev hmore ih =>
    have hevicts := evicts_of_evict hlock hev
    obtain ⟨profile, hres, hrecord⟩ := hevicts.record
    -- the later victims have the same features before and after this eviction
    have hothers : ghostsOf c.roster now victims = ghostsOf c₁.roster now victims := by
      refine List.filterMap_congr fun v hv => ?_
      obtain ⟨_, hv⟩ := ((hmore.ahead (hlock.evict hev)).2 v hv).1
      obtain ⟨profile', hres', -⟩ := (hlock.evict hev).stored_eq_some.mp hv
      obtain ⟨hres, -⟩ := hevicts.untouched hlock v.id _ hres'
      rw [Roster.holder?_eq_some.mpr ⟨hres, rfl⟩, Roster.holder?_eq_some.mpr ⟨hres', rfl⟩]
    rw [ghostsOf_cons hres, List.foldlM_cons, hrecord, hothers]
    exact ih (hlock.evict hev)

/-- The ghosts of the victims of a call are recorded one by one. -/
lemma record_of_perform (hlock : c.Lockstep) (hcall : c.perform call = .ok (answer, c'))
    (hclear : call ≠ .clear) :
    (Event.ghosts ⟨c, call, answer, c'⟩).foldlM GhostLog.record c.roster.ghosts =
      .ok c'.roster.ghosts := by
  cases hlock.performs hcall with
  | hit hclock htally hstored htouch =>
    cases htouch with
    | resident => rfl
  | bypass | refused => rfl
  | @admission r clock _ _ victims c₁ _ hclock htally hnew hlarge hmiss hcounted hroom hlock₁
      hstore =>
    have hrecord := record_of_makesRoom hroom hcounted
    have hnow : c₁.clock = clock := clock_of_makesRoom hcounted hroom
    cases hstore with
    | fresh =>
      change (ghostsOf c.roster c₁.clock victims).foldlM _ c.roster.ghosts =
        Except.ok c₁.roster.ghosts
      rw [hnow]
      exact hrecord
  | evicted hev hevicts =>
    obtain ⟨profile, hres, hrecord⟩ := hevicts.record
    change List.foldlM _ _ (ghostsOf c.roster _ _) = _
    rw [Answer.victims, ghostsOf_cons hres, List.foldlM_cons]
    exact bind_eq_ok.mpr ⟨_, hrecord, rfl⟩
  | cleared => exact absurd rfl hclear

/-- Where nothing is cleared, the log of ghosts is written by the evictions alone. -/
lemma Trail.record (htrail : Trail start events c) (hlock : start.Lockstep)
    (hclear : ∀ e ∈ events, e.call ≠ .clear) :
    (events.flatMap Event.ghosts).foldlM GhostLog.record start.roster.ghosts =
      .ok c.roster.ghosts := by
  induction htrail with
  | nil => rfl
  | snoc hmore hcall ih =>
    have hearlier := ih fun e he => hclear e (List.mem_append_left _ he)
    have hlast := hclear _ (List.mem_append_right _ List.mem_cons_self)
    rw [List.flatMap_append, List.foldlM_append, hearlier, List.flatMap_singleton]
    exact record_of_perform (hmore.lockstep hlock).1 hcall hlast

/-! ## Summaries -/

/-- A victim of an event left a ghost: its features, told by the events before, and the time for
which it had been stored. -/
def Event.Leaves (earlier : List Event) (e : Event) (t : Ticket) (ghost : Ghost) : Prop :=
  ∃ profile, e.before.roster.residents[t.id]? = some ⟨t, profile⟩ ∧ Told earlier t profile ∧
    ghost = ⟨t.id, profile.size, profile.accesses, Word.monus e.time profile.entered⟩

/-- Every victim of an event leaves its ghost. -/
lemma Trail.leaves (htrail : Trail (new capacity (.empty scorer budget) unitSizes) events c)
    (heq : events = earlier ++ e :: later) :
    List.Forall₂ (e.Leaves earlier) e.answer.victims e.ghosts := by
  obtain ⟨hbefore, hcall⟩ := htrail.before heq
  have hlock := (hbefore.lockstep (lockstep_new capacity budget scorer unitSizes)).1
  have hvictims : ∀ t ∈ e.answer.victims, ∃ profile,
      e.before.roster.residents[t.id]? = some ⟨t, profile⟩ := by
    intro t ht
    obtain ⟨_, hstored⟩ := ((ahead_of_perform hlock hcall).2 t ht).1
    obtain ⟨profile, hres, -⟩ := hlock.stored_eq_some.mp hstored
    exact ⟨profile, hres⟩
  refine (forall₂_ghostsOf e.time hvictims).imp fun t ghost hleft => ?_
  obtain ⟨profile, hres, rfl⟩ := hleft
  exact ⟨profile, hres, hbefore.told hres, rfl⟩

/-- **What a cache knows is a summary of its trace.**  Take any requests and evictions that are made
to a fresh cache, under any scorer, such that no counter overflows, and let `events` be what
happens.  Then in the end:

* the features of a stored object are those told by the events (`Told`): it entered at the number of
  the request that admitted it, was accessed by this request and every hit since then, as far as a
  32-bit counter goes, has the size that it had in that request, and was accessed last by the latest
  request for it;
* it entered no later than it was accessed last, and that is no later than the clock, which is the
  number of the requests; no two objects were accessed last at the same time;
* every victim has left a ghost of its features at that time and of the time since it entered, and
  the log of ghosts is what a fresh one of the same budget is after these have been recorded in the
  order of the evictions. -/
theorem summary_of_run (capacity budget : UInt64) (scorer : Scorer) (unitSizes : Bool)
    {calls : List Call} {answers : List Answer} {c : Cache} (hclear : ∀ call ∈ calls, call ≠ .clear)
    (hrun : runCalls perform (new capacity (.empty scorer budget) unitSizes) calls =
      .ok (answers, c)) :
    ∃ events, Trail (new capacity (.empty scorer budget) unitSizes) events c ∧
      events.map Event.call = calls ∧ events.map Event.answer = answers ∧
      (∀ (id : ObjectId) object, c.stored[id]? = some object →
        ∃ profile, c.roster.profile? id = some profile ∧ Told events object.ticket profile ∧
          profile.size = object.size ∧ profile.entered ≤ profile.lastAccess ∧
          profile.lastAccess ≤ c.clock) ∧
      c.clock.toNat = requestCount events ∧
      (∀ (id id' : ObjectId) profile profile', c.roster.profile? id = some profile →
        c.roster.profile? id' = some profile' → profile.lastAccess = profile'.lastAccess →
        id = id') ∧
      (∀ earlier e later, events = earlier ++ e :: later →
        List.Forall₂ (e.Leaves earlier) e.answer.victims e.ghosts) ∧
      (events.flatMap Event.ghosts).foldlM GhostLog.record (.empty budget) =
        .ok c.roster.ghosts := by
  have hstart := lockstep_new capacity budget scorer unitSizes
  obtain ⟨events, htrail, hcalls, hanswers⟩ := trail_of_run hrun
  have hlock := (htrail.lockstep hstart).1
  have hfollows := follows_of_run hrun
  have hknown : ∀ (id : ObjectId) profile, c.roster.profile? id = some profile →
      (chronicle (calls.zip answers)).Records id profile := by
    intro id profile hprofile
    obtain ⟨resident, hres, rfl⟩ := Option.map_eq_some_iff.mp hprofile
    exact hfollows.recorded.records id resident hres
  refine ⟨events, htrail, hcalls, hanswers, fun id object hstored => ?_,
    (htrail.clock_eq hstart).trans (Nat.zero_add _), fun id id' profile profile' hp hp' heq => ?_,
    fun earlier e later => htrail.leaves, htrail.record hstart fun e he => ?_⟩
  · obtain ⟨profile, hres, hsize⟩ := hlock.stored_eq_some.mp hstored
    have hprofile : c.roster.profile? id = some profile := by
      rw [Roster.profile?, hres]
      rfl
    have hrecords := hknown id profile hprofile
    refine ⟨profile, hprofile, htrail.told hres, hsize, ?_, ?_⟩
    · rw [UInt64.le_iff_toNat_le, hrecords.entered, hrecords.lastAccess]
      exact Chronicle.admission_le_latest id _
    · rw [UInt64.le_iff_toNat_le, hrecords.lastAccess, hfollows.clock]
      exact Chronicle.latest_le id _
  · have hrecords := hknown id profile hp
    have hlast := congrArg UInt64.toNat heq
    rw [hrecords.lastAccess, (hknown id' profile' hp').lastAccess] at hlast
    exact Chronicle.latest_inj hrecords.requested hlast
  · exact hclear e.call (hcalls ▸ List.mem_map_of_mem he)

/-- A hit with another size, an eviction for room, one from outside with a time long past, an object
that is too large, and one that comes back. -/
theorem summary_of_mixed_calls :
    ∃ answers c events, runCalls perform (new 10 (.empty .lru 12) false)
        [.request ⟨0, 1, 4⟩, .request ⟨0, 2, 6⟩, .request ⟨0, 1, 9⟩, .request ⟨0, 3, 1⟩, .evict 0,
          .request ⟨0, 4, 11⟩, .request ⟨0, 1, 2⟩, .request ⟨0, 3, 8⟩] = .ok (answers, c) ∧
      requestCount events = 7 ∧
      Told events ⟨3, 1⟩ { accesses := 1, lastAccess := 6, size := 2, entered := 6 } ∧
      Told events ⟨2, 3⟩ { accesses := 2, lastAccess := 7, size := 1, entered := 4 } ∧
      c.roster.ghosts.toList = [⟨2, 6, 1, 2⟩, ⟨1, 4, 2, 0⟩] ∧
      (events.flatMap Event.ghosts).foldlM GhostLog.record (.empty 12) = .ok c.roster.ghosts := by
  have hends : (fun done : List Answer × Cache =>
        (done.2.clock, done.2.stored.toList, done.2.roster.profile? 1, done.2.roster.profile? 3,
          done.2.roster.ghosts.toList)) <$>
      runCalls perform (new 10 (.empty .lru 12) false)
        [.request ⟨0, 1, 4⟩, .request ⟨0, 2, 6⟩, .request ⟨0, 1, 9⟩, .request ⟨0, 3, 1⟩, .evict 0,
          .request ⟨0, 4, 11⟩, .request ⟨0, 1, 2⟩, .request ⟨0, 3, 8⟩] =
      .ok (7, [(1, ⟨⟨3, 1⟩, 2⟩), (3, ⟨⟨2, 3⟩, 1⟩)], some ⟨1, 6, 2, 6⟩, some ⟨2, 7, 1, 4⟩,
        [⟨2, 6, 1, 2⟩, ⟨1, 4, 2, 0⟩]) := by
    cbv
  obtain ⟨⟨answers, c⟩, hrun, heq⟩ := map_eq_ok.mp hends
  simp only [Prod.mk.injEq] at heq
  obtain ⟨hclock, hstored, hone, hthree, hghosts⟩ := heq
  obtain ⟨events, -, -, -, htold, hcount, -, -, hrecord⟩ :=
    summary_of_run 10 12 .lru false (by simp) hrun
  have hknows : ∀ (id : ObjectId) object profile, (id, object) ∈ c.stored.toList →
      c.roster.profile? id = some profile → Told events object.ticket profile := by
    intro id object profile hmem hprofile
    obtain ⟨profile', hprofile', htold, -⟩ := htold id object (Table.mem_toList.mp hmem)
    obtain rfl := Option.some.inj (hprofile.symm.trans hprofile')
    exact htold
  rw [hclock] at hcount
  exact ⟨answers, c, events, hrun, hcount.symm, hknows 1 ⟨⟨3, 1⟩, 2⟩ _ (by simp [hstored]) hone,
    hknows 3 ⟨⟨2, 3⟩, 1⟩ _ (by simp [hstored]) hthree, hghosts, hrecord⟩

end Cache
end CacheSim
