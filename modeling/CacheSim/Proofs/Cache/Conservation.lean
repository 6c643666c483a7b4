import CacheSim.Proofs.Cache.Events

/-!
# Conservation of requests and bytes

Every object that has been missed went somewhere: it was passed by, it has been evicted, it was
dropped when the cache was cleared, or it is still stored; and its bytes went the same way.
`Cache.Accounts` states this of the events of a run.  One event keeps it by its books, and so does
a run.

* `Cache.Accounts.snoc`: one more event;
* `Cache.conserved_after_calls`: the conservation laws after any run of calls.
-/

namespace CacheSim
namespace Cache

/-- What the events of a run amount to. -/
structure Accounts (events : List Event) (c : Cache) : Prop where
  requests : c.tally.counts.requests = events.countP fun e => e.call.isRequest
  hits : c.tally.counts.requests = c.tally.counts.misses + events.countP fun e => e.answer.isHit
  bypasses : c.tally.counts.bypasses = events.countP Event.isBypass
  evictions : c.tally.counts.evictions = (events.map fun e => e.answer.victims.length).sum
  requestBytes : c.tally.counts.requestBytes = (events.map Event.bytes).sum
  missBytes_le : c.tally.counts.missBytes ≤ c.tally.counts.requestBytes
  /-- What has been missed is passed by, evicted, stored or cleared. -/
  objects : c.tally.counts.misses = c.tally.counts.bypasses + c.tally.counts.evictions + c.size +
    (events.map Event.clearedObjects).sum
  bytes : c.tally.counts.missBytes = (events.map Event.bypassBytes).sum +
    (events.map Event.victimBytes).sum + c.occupied.toNat + (events.map Event.clearedBytes).sum

variable {c c' : Cache} {id : ObjectId} {t : Ticket} {object : Stored} {e : Event}
variable {answer : Answer} {call : Call} {events : List Event} {start : Cache}

/-! ## One more event -/

lemma countP_concat (p : Event → Bool) (events : List Event) (e : Event) :
    (events ++ [e]).countP p = events.countP p + (p e).toNat := by
  rw [List.countP_append, List.countP_singleton]
  cases p e <;> rfl

lemma sum_concat (f : Event → Nat) (events : List Event) (e : Event) :
    ((events ++ [e]).map f).sum = (events.map f).sum + f e := by
  rw [List.map_append, List.sum_append, List.map_singleton, List.sum_singleton]

/-- An object that is missed is either passed by or admitted. -/
lemma Event.isMiss_toNat (e : Event) :
    e.answer.isMiss.toNat = e.isBypass.toNat + e.isAdmission.toNat := by
  rw [Event.isBypass, Event.isAdmission]
  cases e.answer.isMiss <;> cases decide (e.before.capacity.toNat < e.bytes) <;> rfl

lemma Event.missBytes_eq (e : Event) :
    (if e.answer.isMiss then e.bytes else 0) =
      e.bypassBytes + if e.isAdmission then e.bytes else 0 := by
  rw [Event.bypassBytes, Event.isBypass, Event.isAdmission]
  cases e.answer.isMiss <;> cases decide (e.before.capacity.toNat < e.bytes) <;> simp

lemma accounts_nil (capacity budget : UInt64) (scorer : Scorer) (unitSizes : Bool) :
    Accounts [] (new capacity (.empty scorer budget) unitSizes) :=
  ⟨rfl, rfl, rfl, rfl, rfl, Nat.le_refl _, rfl, rfl⟩

/-- An event keeps the accounts by its books. -/
lemma Accounts.snoc (h : Accounts events e.before) (hbooks : e.Books) :
    Accounts (events ++ [e]) e.after := by
  have hmiss := e.isMiss_toNat
  have hbytes := e.missBytes_eq
  have hserved := hbooks.served
  have hobjects := hbooks.objects
  have hoccupied := hbooks.occupied
  have hmissBytes : (if e.answer.isMiss then e.bytes else 0) ≤ e.bytes := by
    split
    · exact Nat.le_refl _
    · exact Nat.zero_le _
  obtain ⟨h₁, h₂, h₃, h₄, h₅, h₆, h₇, h₈⟩ := h
  constructor <;> simp only [hbooks.counts, countP_concat, sum_concat] <;> omega

lemma Trail.accounts (hlock : start.Lockstep) (hstart : Accounts [] start)
    (htrail : Trail start events c) : Accounts events c := by
  induction htrail with
  | nil => exact hstart
  | snoc hmore hcall ih =>
    exact ih.snoc (e := ⟨_, _, _, _⟩) (books_of_perform (hmore.lockstep hlock).1 hcall)

/-! ## Objects of one byte -/

/-- An object that is stored after a call was stored before, or is stored with the bytes that were
asked for. -/
lemma stored_of_perform (h : c.Lockstep) (hcall : c.perform call = .ok (answer, c'))
    (hstored : c'.stored[id]? = some object) :
    c.stored[id]? = some object ∨ ∃ r, call = .request r ∧ r.id = id ∧
      object.size = c.effectiveSize r := by
  cases h.performs hcall with
  | hit | bypass | refused => exact Or.inl hstored
  | admission hclock htally hnew hlarge hmiss hcounted hroom hlock₁ hstore =>
    cases hstore with
    | fresh =>
      rcases Table.getElem?_insert_eq_some.mp hstored with ⟨hid, rfl⟩ | ⟨-, hstored⟩
      · exact Or.inr ⟨_, rfl, hid, rfl⟩
      · exact Or.inl (hcounted.stored_of_makesRoom hroom hstored)
  | evicted hev hevicts =>
    cases hevicts with
    | victim => exact Or.inl (Table.getElem?_erase_eq_some.mp hstored).2
  | cleared => simp [clear] at hstored

/-- A cache in which every object counts as one byte. -/
structure CountsObjects (c : Cache) : Prop where
  unitSizes : c.unitSizes = true
  sizes : ∀ (id : ObjectId) object, c.stored[id]? = some object → object.size = 1
  requests : c.tally.counts.requestBytes = c.tally.counts.requests
  misses : c.tally.counts.missBytes = c.tally.counts.misses

lemma CountsObjects.occupied_eq (h : c.CountsObjects) (hlock : c.Lockstep) :
    c.occupied.toNat = c.size := by
  have hones : ∀ e ∈ c.stored.toList, e.2.size.toNat = 1 := by
    intro e he
    rw [h.sizes e.1 e.2 (Table.mem_toList.mp he)]
    rfl
  rw [hlock.occupied_eq, storedBytes, List.map_congr_left hones, List.map_const',
    List.sum_replicate_nat, Nat.mul_one]
  exact Std.TreeMap.length_toList

/-- A request counts as one byte, and any other call as none. -/
lemma CountsObjects.perform (h : c.CountsObjects) (hlock : c.Lockstep)
    (hcall : c.perform call = .ok (answer, c')) : c'.CountsObjects := by
  have hbooks := books_of_perform hlock hcall
  have hcounts := hbooks.counts
  have hserved := hbooks.served
  have hrequests := h.requests
  have hmisses := h.misses
  have hbytes : Event.bytes ⟨c, call, answer, c'⟩ = call.isRequest.toNat := by
    rw [Event.bytes, h.unitSizes]
    cases call <;> rfl
  have hmissBytes : (if answer.isMiss then call.isRequest.toNat else 0) = answer.isMiss.toNat := by
    dsimp only at hserved
    cases hmiss : answer.isMiss with
    | false => rfl
    | true =>
      rw [hmiss] at hserved
      cases call with
      | request => rfl
      | evict => simp [Call.isRequest] at hserved
      | clear => simp [Call.isRequest] at hserved
  rw [hbytes] at hcounts
  dsimp only at hcounts
  refine ⟨(sameSetup_of_perform hlock hcall).unitSizes.trans h.unitSizes,
    fun id object hstored => ?_, ?_, ?_⟩
  · rcases stored_of_perform hlock hcall hstored with hstored | ⟨r, -, -, hsize⟩
    · exact h.sizes id object hstored
    · rw [hsize, effectiveSize, h.unitSizes]
      rfl
  · simp only [hcounts]
    omega
  · simp only [hcounts, hmissBytes]
    omega

/-- Objects of one byte are counted once as objects and once as bytes. -/
lemma countsObjects_of_run {capacity budget : UInt64} {scorer : Scorer} {calls : List Call}
    {answers : List Answer}
    (hrun : runCalls perform (new capacity (.empty scorer budget) true) calls =
      .ok (answers, c)) : c.Lockstep ∧ c.CountsObjects := by
  refine runCalls_invariant (P := fun c => c.Lockstep ∧ c.CountsObjects) ?_ ?_ hrun
  · exact ⟨lockstep_new capacity budget scorer true, rfl, fun id object h => by simp [new] at h,
      rfl, rfl⟩
  · rintro c₁ call answer c₂ ⟨hlock, hcounts⟩ hcall
    exact ⟨hlock.perform hcall, hcounts.perform hlock hcall⟩

/-! ## Runs -/

/-- **Requests and bytes are conserved.**  Whatever calls are made to a fresh cache, as long as no
counter overflows:

* the requests are the calls that request an object, and all but the misses were answered as hits;
* every miss was passed by, or its object has been evicted, is stored, or was dropped by clearing;
* so were the bytes of the misses: those of the objects that were passed by, those of the victims
  as they were stored, those that are occupied, and those that clearing set free;
* when objects count as one byte, bytes are counted like objects. -/
theorem conserved_after_calls (capacity budget : UInt64) (scorer : Scorer) (unitSizes : Bool)
    {calls : List Call} {answers : List Answer} {c : Cache}
    (hrun : runCalls perform (new capacity (.empty scorer budget) unitSizes) calls =
      .ok (answers, c)) :
    (c.tally.requests.toNat = calls.countP Call.isRequest ∧
      c.tally.requests.toNat - c.tally.misses.toNat = answers.countP Answer.isHit) ∧
    (∃ events, Trail (new capacity (.empty scorer budget) unitSizes) events c ∧
      events.map Event.call = calls ∧ events.map Event.answer = answers ∧
      c.tally.bypasses.toNat = events.countP Event.isBypass ∧
      c.tally.evictions.toNat = (events.map fun e => e.answer.victims.length).sum ∧
      c.tally.requestBytes.toNat = (events.map Event.bytes).sum ∧
      c.tally.misses.toNat = c.tally.bypasses.toNat + c.tally.evictions.toNat + c.size +
        (events.map Event.clearedObjects).sum ∧
      c.tally.missBytes.toNat = (events.map Event.bypassBytes).sum +
        (events.map Event.victimBytes).sum + c.occupied.toNat +
        (events.map Event.clearedBytes).sum) ∧
    (c.tally.bypasses ≤ c.tally.misses ∧ c.tally.misses ≤ c.tally.requests ∧
      c.tally.missBytes ≤ c.tally.requestBytes) ∧
    (unitSizes = true → c.tally.requestBytes = c.tally.requests ∧
      c.tally.missBytes = c.tally.misses ∧ c.occupied.toNat = c.size) := by
  obtain ⟨events, htrail, hcalls, hanswers⟩ := trail_of_run hrun
  have h := htrail.accounts (lockstep_new capacity budget scorer unitSizes)
    (accounts_nil capacity budget scorer unitSizes)
  have hrequests : events.countP (fun e => e.call.isRequest) = calls.countP Call.isRequest := by
    rw [← hcalls, List.countP_map]
    rfl
  have hhits : events.countP (fun e => e.answer.isHit) = answers.countP Answer.isHit := by
    rw [← hanswers, List.countP_map]
    rfl
  have hsum := h.hits
  rw [hhits] at hsum
  refine ⟨⟨h.requests.trans hrequests, Nat.sub_eq_of_eq_add' hsum⟩,
    ⟨events, htrail, hcalls, hanswers, h.bypasses, h.evictions, h.requestBytes, h.objects, h.bytes⟩,
    ⟨UInt64.le_iff_toNat_le.mpr ?_, UInt64.le_iff_toNat_le.mpr (Nat.le.intro hsum.symm),
      UInt64.le_iff_toNat_le.mpr h.missBytes_le⟩, ?_⟩
  · have hobjects := h.objects
    change c.tally.counts.bypasses ≤ c.tally.counts.misses
    omega
  · rintro rfl
    obtain ⟨hlock, hunit⟩ := countsObjects_of_run hrun
    exact ⟨UInt64.toNat_inj.mp hunit.requests, UInt64.toNat_inj.mp hunit.misses,
      hunit.occupied_eq hlock⟩

/-- Five objects are missed, twenty-nine bytes in all: one of them is too large, one is evicted,
one is stored, so two were cleared.  The request for nine bytes is a hit on an object of four. -/
theorem conserved_after_clearing :
    ∃ answers c events, runCalls perform (new 10 (.empty .lru 100) false)
        [.request ⟨0, 1, 4⟩, .request ⟨0, 2, 6⟩, .request ⟨0, 1, 9⟩, .request ⟨0, 3, 5⟩,
          .request ⟨0, 4, 11⟩, .clear, .request ⟨0, 5, 3⟩] = .ok (answers, c) ∧
      Trail (new 10 (.empty .lru 100) false) events c ∧
      answers.countP Answer.isHit = 1 ∧ c.occupied = 3 ∧
      (events.map Event.clearedObjects).sum = 2 ∧
      (events.map Event.bypassBytes).sum + (events.map Event.victimBytes).sum +
        (events.map Event.clearedBytes).sum = 26 := by
  have hends : (fun done : List Answer × Cache => (done.2.tally.counts, done.2.occupied,
        done.2.size)) <$>
      runCalls perform (new 10 (.empty .lru 100) false)
        [.request ⟨0, 1, 4⟩, .request ⟨0, 2, 6⟩, .request ⟨0, 1, 9⟩, .request ⟨0, 3, 5⟩,
          .request ⟨0, 4, 11⟩, .clear, .request ⟨0, 5, 3⟩] =
      .ok (⟨10, 10, 6, 5, 38, 29, 1, 1⟩, 3, 1) := by
    cbv
  obtain ⟨⟨answers, c⟩, hrun, heq⟩ := map_eq_ok.mp hends
  simp only [Prod.mk.injEq, Tally.counts, Counts.mk.injEq] at heq
  obtain ⟨⟨-, -, hrequests, hmisses, -, hmissBytes, hevictions, hbypasses⟩, hoccupied, hsize⟩ := heq
  obtain ⟨⟨-, hhits⟩, ⟨events, htrail, -, -, -, -, -, hobjects, hbytes⟩, -, -⟩ :=
    conserved_after_calls 10 100 .lru false hrun
  have hthree : c.occupied.toNat = 3 := congrArg UInt64.toNat hoccupied
  exact ⟨answers, c, events, hrun, htrail, by omega, hoccupied, by omega, by omega⟩

end Cache
end CacheSim
