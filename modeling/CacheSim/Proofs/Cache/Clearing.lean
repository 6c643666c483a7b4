import CacheSim.Proofs.Cache.Alike
import CacheSim.Proofs.Cache.Coverage

/-!
# A cleared cache is as good as new

A cache that is cleared keeps its clock, its serial numbers and its counters.  That cannot be told
from what it does: requests that come after are served as a fresh cache serves them, and add to the
counters what they add to those of a fresh cache.

* `Cache.as_new_after_clear`: the requests after a clearing, compared with those to a fresh cache.
-/

namespace CacheSim

/-! ## The same names -/

namespace Translation

variable {serials : Nat} {lead : Option Nat} {answers answers' : List Cache.Answer}
variable {victims victims' : List Ticket}

/-- Requests stand for themselves. -/
lemma sameNames_requests (serials : Nat) (lead : Option Nat) (requests : List Request) :
    List.Forall₂ (sameNames serials lead).Calls (requests.map .request)
      (requests.map .request) := by
  rw [List.forall₂_map_left_iff, List.forall₂_map_right_iff]
  exact List.forall₂_same.mpr fun r _ => .request rfl rfl

lemma map_id_of_tickets (h : List.Forall₂ (sameNames serials lead).Tickets victims victims') :
    victims.map Ticket.id = victims'.map Ticket.id :=
  (map_eq_of_forall₂ Ticket.id h fun _ _ ht => ht.id).symm

/-- Answers that say the same tell the same objects. -/
lemma same_of_answers
    (h : List.Forall₂ (sameNames serials lead).Answers answers answers') :
    answers.map Cache.Answer.isHit = answers'.map Cache.Answer.isHit ∧
      (answers.map fun answer => answer.victims.map Ticket.id) =
        answers'.map fun answer => answer.victims.map Ticket.id := by
  refine ⟨(map_eq_of_forall₂ _ h fun _ _ ha => ?_).symm,
    (map_eq_of_forall₂ _ h fun _ _ ha => ?_).symm⟩
  · cases ha <;> rfl
  · cases ha with
    | served hvictims => exact (map_id_of_tickets hvictims).symm
    | evicted ht => exact congrArg (fun id => [id]) ht.id
    | refused | cleared => rfl

end Translation

namespace Cache

variable {c c' d fresh : Cache} {calls : List Call} {answers : List Answer}
variable {requests : List Request} {capacity budget : UInt64} {scorer : Scorer}
variable {unitSizes : Bool}

/-! ## What is seen of caches that are alike -/

section SameNames

variable {serials : Nat} {lead : Option Nat} {place : Int → Profile → Int}
variable {τ : UInt64 → UInt64 → Prop}

/-- The same objects are stored, with the same sizes. -/
lemma Alike.sizes_eq (h : Alike (.sameNames serials lead) place τ c d) (id : ObjectId) :
    c.stored[id]?.map Stored.size = d.stored[id]?.map Stored.size :=
  (h.stored.map_getElem?_eq Function.injective_id _ _ (fun _ _ hx => hx.2) id).symm

/-- The same ghosts are remembered, if the one clock is always ahead by the same time. -/
lemma Alike.ghosts_eq {k : Nat} (h : Alike (.sameNames serials (some k)) place τ c d) :
    c.roster.ghosts.toList = d.roster.ghosts.toList := by
  rw [h.ghosts_rename rfl]
  exact (List.map_id' _).symm

end SameNames

/-! ## Clearing -/

/-- The log of ghosts stays valid, no call changes its budget, and it is within the budget. -/
lemma ghosts_of_run (hrun : runCalls perform (new capacity (.empty scorer budget) unitSizes) calls =
    .ok (answers, c)) : c.roster.ghosts.Valid ∧ c.roster.ghosts.budget = budget ∧
      c.roster.ghosts.totalSize ≤ budget := by
  refine (runCalls_invariant (P := fun c => c.Lockstep ∧ c.roster.ghosts.Valid ∧
    c.roster.ghosts.budget = budget ∧ c.roster.ghosts.totalSize ≤ budget) ?_ ?_ hrun).2
  · exact ⟨lockstep_new capacity budget scorer unitSizes, GhostLog.valid_empty budget, rfl,
      UInt64.le_iff_toNat_le.mpr (Nat.zero_le _)⟩
  · rintro c₁ call answer c₂ ⟨hlock, hghosts⟩ hcall
    refine ⟨hlock.perform hcall, hlock.perform_induction (P := fun c => c.roster.ghosts.Valid ∧
      c.roster.ghosts.budget = budget ∧ c.roster.ghosts.totalSize ≤ budget) hghosts ?_ ?_ ?_ ?_ ?_
      hcall⟩
    · exact fun c clock tally h => h
    · intro c now id roster _ h htouch
      cases htouch with
      | resident => exact h
    · rintro c now t c' _ ⟨hvalid, hbudget, -⟩ hev
      cases hev with
      | victim hres hstored hfirst hocc htally hrecord =>
        have hsame := (hvalid.toList_record hrecord).2.trans hbudget
        exact ⟨(hvalid.record hrecord).1, hsame, hsame ▸ hvalid.totalSize_record_le hrecord⟩
    · intro c id size c' _ h hstore
      cases hstore with
      | fresh => exact h
    · rintro c ⟨-, hbudget, -⟩
      exact ⟨GhostLog.valid_clear _, hbudget, UInt64.le_iff_toNat_le.mpr (Nat.zero_le _)⟩

/-- No call changes the budget for ghosts. -/
lemma budget_of_run (hrun : runCalls perform (new capacity (.empty scorer budget) unitSizes) calls =
    .ok (answers, c)) : c.roster.ghosts.budget = budget :=
  (ghosts_of_run hrun).2.1

/-- What requests after a clearing add to the counters is what they add to those of a fresh
cache. -/
lemma counts_as_new (hc : c.clear.Lockstep) {replies replies' : List Answer}
    (hcapacity : c.capacity = capacity) (hunit : c.unitSizes = unitSizes)
    (hreplies : List.Forall₂ (Translation.sameNames c.nextSerial.toNat
      (some c.clock.toNat)).Answers replies replies')
    (hcleared : runCalls perform c.clear (requests.map .request) = .ok (replies, c'))
    (hfresh : runCalls perform (new capacity (.empty scorer budget) unitSizes)
      (requests.map .request) = .ok (replies', fresh)) :
    c'.tally.counts = { c.tally.counts with
      requests := c.tally.counts.requests + fresh.tally.counts.requests
      misses := c.tally.counts.misses + fresh.tally.counts.misses
      requestBytes := c.tally.counts.requestBytes + fresh.tally.counts.requestBytes
      missBytes := c.tally.counts.missBytes + fresh.tally.counts.missBytes
      evictions := c.tally.counts.evictions + fresh.tally.counts.evictions
      bypasses := c.tally.counts.bypasses + fresh.tally.counts.bypasses } := by
  have hstart := lockstep_new capacity budget scorer unitSizes
  have hcounts := counts_of_run hc hcleared
  have hcounts' := counts_of_run hstart hfresh
  change c'.tally.counts = c.tally.counts + gains c.capacity c.unitSizes _ at hcounts
  change _ = _ + gains capacity unitSizes _ at hcounts'
  have hgains := gains_alike (Translation.sameNames_requests c.nextSerial.toNat
    (some c.clock.toNat) requests) hreplies capacity unitSizes
  obtain ⟨hsize, hsimulated⟩ :=
    cacheSizes_gains capacity unitSizes ((requests.map Call.request).zip replies)
  rw [hgains] at hcounts'
  rw [hcounts, hcounts', hcapacity, hunit]
  simp only [Counts.add_def, hsize, hsimulated]
  simp [new, Tally.counts]

/-- **A cache that is cleared is as good as new.**  Let any calls be made to a fresh cache under a
policy of the catalogue, and let the cache be cleared then.  It keeps its counters, its clock, the
next serial number, and the numbers that its ranked multisets give out.  Requests that come after
are all served exactly when they can be counted on top of the counters.  Then a fresh cache serves
them too, and:

* the same of them are hits, and each evicts the same objects in the same order;
* the same objects are stored with the same sizes in the end, and the same ghosts, with the same
  ages, are remembered in the same order;
* every counter of requests goes on from the clearing by what a fresh cache counts, and so do the
  clock and the serial numbers. -/
theorem as_new_after_clear {settings : PolicySettings} (hscorer : settings.scorer = .ok scorer)
    (capacity budget : UInt64) (unitSizes : Bool)
    (hrun : runCalls perform (new capacity (.empty scorer budget) unitSizes) calls =
      .ok (answers, c)) (requests : List Request) :
    (c.clear.tally = c.tally ∧ c.clear.clock = c.clock ∧ c.clear.nextSerial = c.nextSerial ∧
      c.clear.roster.counts.nextUid = c.roster.counts.nextUid ∧
      c.clear.roster.entered.nextUid = c.roster.entered.nextUid ∧
      c.clear.roster.sizes.nextUid = c.roster.sizes.nextUid) ∧
    ((∃ replies c', runCalls perform c.clear (requests.map .request) = .ok (replies, c')) ↔
      c.tally.counts.requests + requests.length < 2 ^ 64 ∧
        c.tally.counts.requestBytes +
          ((requests.map Call.request).map (Call.bytes unitSizes)).sum < 2 ^ 64) ∧
    ∀ replies c', runCalls perform c.clear (requests.map .request) = .ok (replies, c') →
      ∃ replies' fresh,
        runCalls perform (new capacity (.empty scorer budget) unitSizes)
          (requests.map .request) = .ok (replies', fresh) ∧
        (replies.map Answer.isHit = replies'.map Answer.isHit ∧
          (replies.map fun answer => answer.victims.map Ticket.id) =
            replies'.map fun answer => answer.victims.map Ticket.id) ∧
        ((∀ id : ObjectId, c'.stored[id]?.map Stored.size = fresh.stored[id]?.map Stored.size) ∧
          c'.occupied = fresh.occupied ∧
          c'.roster.ghosts.toList = fresh.roster.ghosts.toList) ∧
        (c'.tally.counts = { c.tally.counts with
            requests := c.tally.counts.requests + fresh.tally.counts.requests
            misses := c.tally.counts.misses + fresh.tally.counts.misses
            requestBytes := c.tally.counts.requestBytes + fresh.tally.counts.requestBytes
            missBytes := c.tally.counts.missBytes + fresh.tally.counts.missBytes
            evictions := c.tally.counts.evictions + fresh.tally.counts.evictions
            bypasses := c.tally.counts.bypasses + fresh.tally.counts.bypasses } ∧
          c'.clock.toNat = c.clock.toNat + fresh.clock.toNat ∧
          c'.nextSerial.toNat = c.nextSerial.toNat + fresh.nextSerial.toNat) := by
  have hstart := lockstep_new capacity budget scorer unitSizes
  have hsafe := PolicySettings.safe_of_scorer hscorer
  obtain ⟨band, place, hpolicy⟩ := PolicySettings.exists_timeless hscorer
  obtain ⟨hlock, hsame⟩ := lockstep_of_run hstart hrun
  have hcapacity : c.capacity = capacity := hsame.capacity
  have hunit : c.unitSizes = unitSizes := hsame.unitSizes
  have hpolicy' : c.roster.scorer = scorer := hsame.scorer
  have halike := alike_clear place c
  rw [hcapacity, hunit, hpolicy', budget_of_run hrun] at halike
  have hcounted := (covers_of_run hrun).clear.run_iff halike.lockstep (hpolicy' ▸ hsafe)
    (requests.map .request)
  rw [show c.clear.unitSizes = unitSizes from hunit, countP_isRequest_requests] at hcounted
  refine ⟨⟨rfl, rfl, rfl, rfl, rfl, rfl⟩, hcounted, fun replies c' hcleared => ?_⟩
  -- what can be counted on top of the counters can be counted from zero
  obtain ⟨hrequests, hbytes⟩ := hcounted.mp ⟨replies, c', hcleared⟩
  obtain ⟨replies', fresh, hfresh⟩ := (run_iff_counted hsafe capacity budget unitSizes
    (requests.map .request)).mpr ⟨by rw [countP_isRequest_requests]; omega, by omega⟩
  obtain ⟨τ, hreplies, hend⟩ := halike.run (hpolicy' ▸ hpolicy)
    (Translation.sameNames_requests _ _ requests) hcleared hfresh
  refine ⟨replies', fresh, hfresh, Translation.same_of_answers hreplies,
    ⟨hend.sizes_eq, hend.occupied.symm, hend.ghosts_eq⟩,
    counts_as_new halike.lockstep hcapacity hunit hreplies hcleared hfresh, ?_, ?_⟩
  · rw [Nat.add_comm]
    exact (hend.time.lead_eq _ rfl).1
  · rw [Nat.add_comm]
    exact hend.nextSerial

/-- Object 1 was evicted before the clearing.  It is requested again after it, and would outlive the
others if it were remembered; so it is the first to go, as from a fresh cache. -/
theorem as_new_after_eviction :
    ∃ answers c replies c', runCalls perform (new 2 (.empty (.ghostLru (some 100)) 100) false)
        [.request ⟨0, 1, 1⟩, .request ⟨0, 2, 1⟩, .request ⟨0, 3, 1⟩] = .ok (answers, c) ∧
      c.roster.ghosts.contains 1 = true ∧
      runCalls perform c.clear
        [.request ⟨0, 1, 1⟩, .request ⟨0, 2, 1⟩, .request ⟨0, 3, 1⟩] = .ok (replies, c') ∧
      replies.map Answer.victims = [[], [], [⟨3, 1⟩]] ∧
      ∃ replies' fresh, runCalls perform (new 2 (.empty (.ghostLru (some 100)) 100) false)
          [.request ⟨0, 1, 1⟩, .request ⟨0, 2, 1⟩, .request ⟨0, 3, 1⟩] = .ok (replies', fresh) ∧
        (replies'.map fun answer => answer.victims.map Ticket.id) = [[], [], [1]] ∧
        c'.tally.counts.evictions = c.tally.counts.evictions + fresh.tally.counts.evictions := by
  have hends : (fun done : List Answer × Cache => (done.2.roster.ghosts.contains 1,
        (fun more : List Answer × Cache => more.1.map Answer.victims) <$>
          runCalls perform done.2.clear
            [.request ⟨0, 1, 1⟩, .request ⟨0, 2, 1⟩, .request ⟨0, 3, 1⟩])) <$>
      runCalls perform (new 2 (.empty (.ghostLru (some 100)) 100) false)
        [.request ⟨0, 1, 1⟩, .request ⟨0, 2, 1⟩, .request ⟨0, 3, 1⟩] =
      .ok (true, .ok [[], [], [⟨3, 1⟩]]) := by
    cbv
  obtain ⟨⟨answers, c⟩, hrun, heq⟩ := map_eq_ok.mp hends
  obtain ⟨hghost, hcleared⟩ := Prod.mk.inj heq
  obtain ⟨⟨replies, c'⟩, hcleared, hvictims⟩ := map_eq_ok.mp hcleared
  have hscorer : ({ policy := .ghostLru, ghostWindow := some 100 } : PolicySettings).scorer =
      .ok (.ghostLru (some 100)) := rfl
  obtain ⟨-, -, hall⟩ := as_new_after_clear hscorer 2 100 false hrun
    [⟨0, 1, 1⟩, ⟨0, 2, 1⟩, ⟨0, 3, 1⟩]
  obtain ⟨replies', fresh, hfresh, ⟨-, hsame⟩, -, hcounts, -⟩ := hall replies c' hcleared
  have hids := congrArg (List.map (List.map Ticket.id)) hvictims
  rw [List.map_map] at hids
  exact ⟨answers, c, replies, c', hrun, hghost, hcleared, hvictims, replies', fresh, hfresh,
    hsame.symm.trans hids, congrArg Counts.evictions hcounts⟩

end Cache
end CacheSim
