import CacheSim.Proofs.Cache.Progress
import CacheSim.Proofs.Tally

/-!
# The events of a run

An `Event` is a call with the cache it was made to, the answer, and the cache it led to.  A
`Trail` is a run as the list of its events, so that what has been hit, missed, passed by, evicted
or dropped in the course of a run can be summed up over the list.

* `Cache.trail_of_run`: every run that succeeds leaves a trail;
* `Cache.books_of_perform`: what one event does to the counters, to the number of the stored
  objects and to their bytes.
-/

namespace CacheSim
namespace Cache

/-! ## Calls and answers -/

/-- Whether an object is requested. -/
def Call.isRequest : Call → Bool
  | .request _ => true
  | .evict _ => false
  | .clear => false

/-- The bytes that a call asks for. -/
def Call.bytes (unitSizes : Bool) : Call → Nat
  | .request r => if unitSizes then 1 else r.size.toNat
  | .evict _ => 0
  | .clear => 0

def Answer.isHit : Answer → Bool
  | .served reply => reply.hit
  | _ => false

def Answer.isMiss : Answer → Bool
  | .served reply => !reply.hit
  | _ => false

/-- The bytes stored for an object, none if it is not stored. -/
def bytesOf (c : Cache) (id : ObjectId) : Nat :=
  (c.stored[id]?.map fun object => object.size.toNat).getD 0

/-! ## Events -/

/-- A call that has been answered. -/
structure Event where
  before : Cache
  call : Call
  answer : Answer
  after : Cache

namespace Event

/-- The bytes that were asked for. -/
def bytes (e : Event) : Nat :=
  e.call.bytes e.before.unitSizes

/-- Whether an object was missed that is larger than the cache. -/
def isBypass (e : Event) : Bool :=
  e.answer.isMiss && decide (e.before.capacity.toNat < e.bytes)

/-- Whether an object was missed and then stored. -/
def isAdmission (e : Event) : Bool :=
  e.answer.isMiss && !decide (e.before.capacity.toNat < e.bytes)

/-- The bytes of the object that was passed by, if any was. -/
def bypassBytes (e : Event) : Nat :=
  if e.isBypass then e.bytes else 0

/-- The bytes of the evicted objects. -/
def victimBytes (e : Event) : Nat :=
  (e.answer.victims.map fun t => e.before.bytesOf t.id).sum

/-- The number of objects that were dropped by clearing. -/
def clearedObjects (e : Event) : Nat :=
  match e.call with
  | .clear => e.before.size
  | _ => 0

/-- The bytes that were dropped by clearing. -/
def clearedBytes (e : Event) : Nat :=
  match e.call with
  | .clear => e.before.occupied.toNat
  | _ => 0

end Event

/-- Events that lead from one cache to another. -/
inductive Trail (start : Cache) : List Event → Cache → Prop where
  | nil : Trail start [] start
  | snoc {events : List Event} {c c' : Cache} {call : Call} {answer : Answer} :
      Trail start events c → c.perform call = .ok (answer, c') →
      Trail start (events ++ [⟨c, call, answer, c'⟩]) c'

variable {c c' : Cache} {id : ObjectId} {size now : UInt64} {t : Ticket} {object : Stored}
variable {r : Request} {reply : Reply} {answer : Answer} {victims : List Ticket} {call : Call}
variable {events : List Event} {calls : List Call} {answers : List Answer} {start : Cache}

/-- Every run that succeeds leaves a trail. -/
lemma trail_of_run (hrun : runCalls perform c calls = .ok (answers, c')) :
    ∃ events, Trail c events c' ∧ events.map Event.call = calls ∧
      events.map Event.answer = answers := by
  have hlength := length_answers hrun
  have htrail : ∃ events, Trail c events c' ∧
      events.map Event.call = (calls.zip answers).map Prod.fst ∧
      events.map Event.answer = (calls.zip answers).map Prod.snd := by
    refine runCalls_induction (P := fun log c' => ∃ events, Trail c events c' ∧
      events.map Event.call = log.map Prod.fst ∧ events.map Event.answer = log.map Prod.snd)
      ⟨[], .nil, rfl, rfl⟩ ?_ hrun
    rintro log c₁ call answer c₂ ⟨events, htrail, hcalls, hanswers⟩ hcall
    refine ⟨_, htrail.snoc hcall, ?_, ?_⟩
    · rw [List.map_append, List.map_append, hcalls]
      rfl
    · rw [List.map_append, List.map_append, hanswers]
      rfl
  rwa [List.map_fst_zip (Nat.le_of_eq hlength.symm), List.map_snd_zip (Nat.le_of_eq hlength)]
    at htrail

lemma Trail.lockstep (h : start.Lockstep) (htrail : Trail start events c) :
    c.Lockstep ∧ SameSetup start c := by
  induction htrail with
  | nil => exact ⟨h, rfl, rfl, rfl⟩
  | snoc _ hcall ih =>
    exact ⟨ih.1.perform hcall, ih.2.trans (sameSetup_of_perform ih.1 hcall)⟩

/-! ## Making room -/

lemma toNat_effectiveSize (c : Cache) (r : Request) :
    (c.effectiveSize r).toNat = Call.bytes c.unitSizes (.request r) := by
  rw [effectiveSize, Call.bytes]
  split <;> rfl

lemma bytesOf_of_stored (h : c.stored[id]? = some object) : c.bytesOf id = object.size.toNat := by
  rw [bytesOf, h]
  rfl

/-- What is left when room has been made was stored before. -/
lemma Lockstep.stored_of_makesRoom (h : c.Lockstep) (hroom : MakesRoom now size c victims c')
    (hstored : c'.stored[id]? = some object) : c.stored[id]? = some object := by
  induction hroom with
  | fits => exact hstored
  | evicts hover hev hmore ih =>
    have hstored := ih (h.evict hev) hstored
    cases evicts_of_evict h hev with
    | victim => exact (Table.getElem?_erase_eq_some.mp hstored).2

/-- An eviction is counted and frees the bytes of the victim; all other bytes stay. -/
lemma Evicts.books (hev : Evicts c now t c') :
    c'.tally.counts = { c.tally.counts with evictions := c.tally.counts.evictions + 1 } ∧
      c'.occupied.toNat + c.bytesOf t.id = c.occupied.toNat ∧ t.id ∈ c.stored ∧
      ∀ id ∈ c'.stored, id ∈ c.stored ∧ c'.bytesOf id = c.bytesOf id := by
  cases hev with
  | @victim profile p occupied tally ghosts hres hstored hfirst hocc htally hghosts =>
    rw [Word.sub_eq_ok] at hocc
    have hvictim : c.bytesOf t.id = profile.size.toNat := bytesOf_of_stored hstored
    refine ⟨Tally.counts_countEviction htally, ?_, Table.mem_iff_exists.mpr ⟨_, hstored⟩, ?_⟩
    · dsimp only at hocc ⊢
      omega
    · intro id hid
      obtain ⟨object, hobject⟩ := Table.mem_iff_exists.mp hid
      have hbefore := (Table.getElem?_erase_eq_some.mp hobject).2
      exact ⟨Table.mem_iff_exists.mpr ⟨object, hbefore⟩,
        (bytesOf_of_stored hobject).trans (bytesOf_of_stored hbefore).symm⟩

/-- The victims are counted, and their bytes are free. -/
lemma Lockstep.makesRoom_books (h : c.Lockstep) (hroom : MakesRoom now size c victims c') :
    c'.tally.counts =
        { c.tally.counts with evictions := c.tally.counts.evictions + victims.length } ∧
      c'.occupied.toNat + (victims.map fun t => c.bytesOf t.id).sum = c.occupied.toNat ∧
      ∀ t ∈ victims, t.id ∈ c.stored := by
  induction hroom with
  | fits => exact ⟨rfl, rfl, by simp⟩
  | @evicts c c₁ c' t victims hover hev hmore ih =>
    obtain ⟨hcounts, hbytes, hmem⟩ := ih (h.evict hev)
    obtain ⟨hcounted, hfreed, hvictim, hothers⟩ := (evicts_of_evict h hev).books
    -- the later victims are other objects, so their bytes are those they had at first
    have hsame : ∀ v ∈ victims, c₁.bytesOf v.id = c.bytesOf v.id :=
      fun v hv => (hothers v.id (hmem v hv)).2
    rw [List.map_congr_left hsame] at hbytes
    refine ⟨?_, ?_, ?_⟩
    · rw [hcounts, hcounted, List.length_cons]
      simp only [Nat.add_assoc, Nat.add_comm 1]
    · rw [List.map_cons, List.sum_cons]
      omega
    · intro v hv
      rcases List.mem_cons.mp hv with rfl | hv
      · exact hvictim
      · exact (hothers v.id (hmem v hv)).1

/-- An object that is stored takes its bytes. -/
lemma Stores.books (hstore : Stores c id size c') (h : c.Lockstep) :
    c'.tally = c.tally ∧ c'.size = c.size + 1 ∧
      c'.occupied.toNat = c.occupied.toNat + size.toNat := by
  cases hstore with
  | fresh hnew hserial hocc hp =>
    refine ⟨rfl, ?_, (Word.add_eq_ok.mp hocc).symm⟩
    rw [← h.mem_stored] at hnew
    change (c.stored.insert id _).size = c.stored.size + 1
    rw [Std.TreeMap.size_insert, if_neg (mt Std.TreeMap.contains_iff_mem.mp hnew)]

/-! ## The books of an event -/

/-- What an event does to the counters and to the store. -/
structure Event.Books (e : Event) : Prop where
  counts : e.after.tally.counts = { e.before.tally.counts with
    requests := e.before.tally.counts.requests + e.call.isRequest.toNat
    misses := e.before.tally.counts.misses + e.answer.isMiss.toNat
    requestBytes := e.before.tally.counts.requestBytes + e.bytes
    missBytes := e.before.tally.counts.missBytes + (if e.answer.isMiss then e.bytes else 0)
    evictions := e.before.tally.counts.evictions + e.answer.victims.length
    bypasses := e.before.tally.counts.bypasses + e.isBypass.toNat }
  /-- A request is a hit or a miss. -/
  served : e.answer.isHit.toNat + e.answer.isMiss.toNat = e.call.isRequest.toNat
  objects : e.after.size + e.answer.victims.length + e.clearedObjects =
    e.before.size + e.isAdmission.toNat
  occupied : e.after.occupied.toNat + e.victimBytes + e.clearedBytes =
    e.before.occupied.toNat + (if e.isAdmission then e.bytes else 0)

lemma books_of_hit {clock : UInt64} {tally : Tally} {roster : Roster}
    (htally : c.tally.countRequest (c.effectiveSize r) = .ok tally) :
    Event.Books ⟨c, .request r, .served ⟨true, []⟩,
      { c with clock := clock, tally := tally, roster := roster }⟩ := by
  refine ⟨?_, rfl, rfl, rfl⟩
  change _ = Counts.mk _ _ _ _ _ _ _ _
  rw [Event.bytes, ← toNat_effectiveSize]
  exact Tally.counts_countRequest htally

lemma books_of_bypass {clock : UInt64} {tally tally₁ tally₂ : Tally}
    (htally : c.tally.countRequest (c.effectiveSize r) = .ok tally)
    (hlarge : c.capacity < c.effectiveSize r)
    (hmiss : tally.countMiss (c.effectiveSize r) = .ok tally₁)
    (hbypass : tally₁.countBypass = .ok tally₂) :
    Event.Books ⟨c, .request r, .served ⟨false, []⟩,
      { c with clock := clock, tally := tally₂ }⟩ := by
  have hlarge := UInt64.lt_iff_toNat_lt.mp hlarge
  have hcounts := Tally.counts_countBypass hbypass
  rw [Tally.counts_countMiss hmiss, Tally.counts_countRequest htally] at hcounts
  refine ⟨?_, rfl, ?_, ?_⟩ <;>
    simp [Event.bytes, Event.isBypass, Event.isAdmission, Event.victimBytes, Event.clearedBytes,
      Event.clearedObjects, ← toNat_effectiveSize, hlarge, hcounts, Answer.isMiss, Answer.victims,
      Call.isRequest, size]

lemma books_of_admission {clock : UInt64} {tally tally₁ : Tally} {c₁ : Cache}
    (htally : c.tally.countRequest (c.effectiveSize r) = .ok tally)
    (hlarge : ¬ c.capacity < c.effectiveSize r)
    (hmiss : tally.countMiss (c.effectiveSize r) = .ok tally₁)
    (hcounted : Lockstep { c with clock := clock, tally := tally₁ })
    (hroom : MakesRoom clock (c.effectiveSize r) { c with clock := clock, tally := tally₁ }
      victims c₁)
    (hlock₁ : c₁.Lockstep) (hstore : Stores c₁ r.id (c.effectiveSize r) c') :
    Event.Books ⟨c, .request r, .served ⟨false, victims⟩, c'⟩ := by
  have hlarge := mt UInt64.lt_iff_toNat_lt.mpr hlarge
  obtain ⟨hcounts, hfreed, -⟩ := hcounted.makesRoom_books hroom
  have hobjects := hcounted.length_victims hroom
  -- the bytes of the victims are the same whether the clock has moved on or not
  change _ + (victims.map fun t => c.bytesOf t.id).sum = c.occupied.toNat at hfreed
  change _ = c.size at hobjects
  rw [Tally.counts_countMiss hmiss, Tally.counts_countRequest htally] at hcounts
  obtain ⟨htally', hsize, hocc⟩ := hstore.books hlock₁
  refine ⟨?_, rfl, ?_, ?_⟩ <;>
    simp only [Event.bytes, Event.isBypass, Event.isAdmission, Event.victimBytes,
      Event.clearedBytes, Event.clearedObjects, ← toNat_effectiveSize, hlarge, Answer.isMiss,
      Answer.victims, Call.isRequest, htally', hcounts, hsize, hocc]
  · rfl
  · change _ = c.size + 1
    omega
  · change _ = c.occupied.toNat + (c.effectiveSize r).toNat
    omega

lemma books_of_eviction (h : c.Lockstep) (hev : c.evict now = .ok (t, c')) :
    Event.Books ⟨c, .evict now, .evicted t, c'⟩ := by
  have hless := h.size_evict hev
  obtain ⟨hcounts, hfreed, -, -⟩ := (evicts_of_evict h hev).books
  refine ⟨hcounts, rfl, hless, ?_⟩
  change c'.occupied.toNat + (c.bytesOf t.id + 0) + 0 = c.occupied.toNat + 0
  omega

/-- The books of every call that is answered are right. -/
lemma books_of_perform (h : c.Lockstep) (hcall : c.perform call = .ok (answer, c')) :
    Event.Books ⟨c, call, answer, c'⟩ := by
  cases h.performs hcall with
  | hit hclock htally hstored htouch => exact books_of_hit htally
  | bypass hclock htally hnew hlarge hmiss hbypass =>
    exact books_of_bypass htally hlarge hmiss hbypass
  | admission hclock htally hnew hlarge hmiss hcounted hroom hlock₁ hstore =>
    exact books_of_admission htally hlarge hmiss hcounted hroom hlock₁ hstore
  | evicted hev hevicts => exact books_of_eviction h hev
  | refused => exact ⟨rfl, rfl, rfl, rfl⟩
  | cleared => exact ⟨rfl, rfl, Nat.zero_add _, Nat.zero_add _⟩

/-! ## The requests of a run -/

lemma countP_isRequest_cons (call : Call) (calls : List Call) :
    (call :: calls).countP Call.isRequest =
      call.isRequest.toNat + calls.countP Call.isRequest := by
  rw [List.countP_cons, Nat.add_comm]
  cases call.isRequest <;> rfl

/-- A list of requests is a list of calls that are all requests. -/
lemma countP_isRequest_requests (requests : List Request) :
    (requests.map Call.request).countP Call.isRequest = requests.length := by
  rw [List.countP_map]
  exact List.countP_eq_length.mpr fun _ _ => rfl

lemma counted_of_perform (h : c.Lockstep) (hcall : c.perform call = .ok (answer, c')) :
    c'.tally.counts.requests = c.tally.counts.requests + call.isRequest.toNat ∧
      c'.tally.counts.requestBytes = c.tally.counts.requestBytes + call.bytes c.unitSizes := by
  have hcounts := (books_of_perform h hcall).counts
  exact ⟨congrArg Counts.requests hcounts, congrArg Counts.requestBytes hcounts⟩

/-- A run counts the requests that are made, and their bytes. -/
lemma counted_of_run (h : c.Lockstep) (hrun : runCalls perform c calls = .ok (answers, c')) :
    c'.tally.counts.requests = c.tally.counts.requests + calls.countP Call.isRequest ∧
      c'.tally.counts.requestBytes =
        c.tally.counts.requestBytes + (calls.map (Call.bytes c.unitSizes)).sum := by
  induction calls generalizing c answers with
  | nil =>
    obtain ⟨-, rfl⟩ := runCalls_nil_eq_ok.mp hrun
    exact ⟨rfl, rfl⟩
  | cons call calls ih =>
    obtain ⟨answer, c₁, rest, hcall, hrest, rfl⟩ := runCalls_cons_eq_ok.mp hrun
    obtain ⟨hrequests, hbytes⟩ := counted_of_perform h hcall
    obtain ⟨hrequests', hbytes'⟩ := ih (h.perform hcall) hrest
    rw [(sameSetup_of_perform h hcall).unitSizes] at hbytes'
    rw [countP_isRequest_cons, List.map_cons, List.sum_cons]
    omega

end Cache
end CacheSim
