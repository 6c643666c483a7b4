import CacheSim.Proofs.GhostCalls
import CacheSim.Proofs.Roster.Consistency
import CacheSim.Proofs.VictimCalls

/-!
# Draining a roster

The owner of a roster may empty its queue: the next victim is popped and evicted, again and again,
until nothing is popped.  Each eviction changes the population and the ghosts, but priorities are
given to objects when they come or are hit, so the victims are the queued tickets in the order in
which they stand before the first round.

* `Roster.candidates`: the residents behind the queued tickets, the next victim first;
* `Roster.Consistent.round`: one round takes the first candidate, and leaves the others;
* `Roster.Consistent.drains`, `Roster.Consistent.exists_drains`: all rounds;
* `Roster.drained_after_calls`: what is evicted, and what is left.

An object that was popped before, and whose eviction was never completed, is not a candidate.  It
stays on the roster.
-/

namespace CacheSim
namespace Roster

/-- Victims are popped and evicted until nothing is popped.  The `i`-th eviction happens at
`now i`. -/
inductive Drains : (now : Nat → UInt64) → Roster → List Event → Roster → Prop where
  | done {now : Nat → UInt64} {r r' : Roster} : r.perform .pop = .ok (.ignored, r') →
      Drains now r [.ignored] r'
  | round {now : Nat → UInt64} {r r₁ r₂ r' : Roster} {t : Ticket} {event : Event}
      {events : List Event} : r.perform .pop = .ok (.popped t, r₁) →
      r₁.perform (.evict (now 0) t) = .ok (event, r₂) →
      Drains (fun i => now (i + 1)) r₂ events r' →
      Drains now r (.popped t :: event :: events) r'

/-- The residents behind the queued tickets, the next victim first. -/
def candidates (r : Roster) : List Resident :=
  r.queue.tickets.filterMap r.holder?

/-- The ghosts of residents that are evicted one after the other. -/
def ghostsOf (now : Nat → UInt64) (victims : List Resident) : List Ghost :=
  victims.mapIdx fun i victim => ghostOf (now i) victim.ticket.id victim.profile

/-- The events of evicting some tickets, and of finding no further one. -/
def evictions (tickets : List Ticket) : List Event :=
  tickets.flatMap (fun t => [.popped t, .evicted t]) ++ [.ignored]

/-- A roster is what is left of another one when some residents have been evicted. -/
structure Drained (now : Nat → UInt64) (victims : List Resident) (r r' : Roster) : Prop where
  consistent : r'.Consistent
  /-- Nothing is queued any more. -/
  priority? : ∀ t, r'.priority? t = none
  residents_iff : ∀ (id : ObjectId) resident,
    r'.residents[id]? = some resident ↔ r.residents[id]? = some resident ∧ resident ∉ victims
  ghosts : (ghostsOf now victims).foldlM GhostLog.record r.ghosts = .ok r'.ghosts

variable {r r' : Roster} {t : Ticket} {resident victim : Resident} {victims : List Resident}
variable {now : Nat → UInt64} {event : Event} {events : List Event} {log : GhostLog}

/-! ## Candidates -/

lemma mem_candidates (h : resident ∈ r.candidates) :
    r.residents[resident.ticket.id]? = some resident ∧ resident.ticket ∈ r.queue.tickets := by
  obtain ⟨t, ht, hholder⟩ := List.mem_filterMap.mp h
  obtain ⟨hres, rfl⟩ := holder?_eq_some.mp hholder
  exact ⟨hres, ht⟩

/-- Every queued ticket has a resident. -/
lemma Consistent.exists_holder (h : r.Consistent) (ht : t ∈ r.queue.tickets) :
    ∃ profile, r.holder? t = some ⟨t, profile⟩ := by
  obtain ⟨p, hp⟩ := h.coherent.mem_tickets.mp ht
  obtain ⟨profile, hres⟩ := h.queued t p hp
  exact ⟨profile, holder?_eq_some.mpr ⟨hres, rfl⟩⟩

lemma Consistent.map_ticket_candidates (h : r.Consistent) :
    r.candidates.map Resident.ticket = r.queue.tickets := by
  have hticket : ∀ t ∈ r.queue.tickets, (r.holder? t).map Resident.ticket = some t := by
    intro t ht
    obtain ⟨profile, hholder⟩ := h.exists_holder ht
    rw [hholder, Option.map_some]
  rw [candidates, List.map_filterMap, List.filterMap_congr hticket, List.filterMap_some]

/-- An object that is not queued is not a candidate. -/
lemma Consistent.not_mem_candidates (h : r.Consistent) {id : ObjectId}
    (hres : r.residents[id]? = some resident) :
    resident ∉ r.candidates ↔ r.priority? resident.ticket = none := by
  obtain rfl := h.ticket_id id resident hres
  rw [← not_iff_not, not_not, ← Ne, Option.ne_none_iff_exists']
  constructor
  · exact fun hmem => h.coherent.mem_tickets.mp (mem_candidates hmem).2
  · intro hqueued
    exact List.mem_filterMap.mpr ⟨resident.ticket, h.coherent.mem_tickets.mpr hqueued,
      holder?_eq_some.mpr ⟨hres, rfl⟩⟩

/-- The others are candidates as before when an object has been evicted. -/
lemma Consistent.candidates_unseat (h : r.Consistent)
    (hres : r.residents[victim.ticket.id]? = some victim) (ghosts : GhostLog) :
    (r.unseat victim.ticket victim.profile ghosts).candidates =
      (r.queue.erase victim.ticket).tickets.filterMap r.holder? := by
  refine List.filterMap_congr fun t ht => ?_
  -- who is queued beside the victim is a resident before and after the eviction
  obtain ⟨profile, hholder⟩ := (h.unseat hres ghosts).exists_holder ht
  obtain ⟨hrest, -⟩ := holder?_eq_some.mp hholder
  rw [hholder, holder?_eq_some.mpr ⟨(Table.getElem?_erase_eq_some.mp hrest).2, rfl⟩]

/-! ## Rounds -/

/-- What a round does: the first candidate is popped and evicted, and the others stay. -/
structure Round (now : UInt64) (victim : Resident) (rest : List Resident) (r : Roster) : Prop where
  resident : r.residents[victim.ticket.id]? = some victim
  popped : r.perform .pop = .ok (.popped victim.ticket,
    { r with queue := r.queue.erase victim.ticket })
  evicted : perform { r with queue := r.queue.erase victim.ticket } (.evict now victim.ticket) =
    (fun ghosts => (.evicted victim.ticket, r.unseat victim.ticket victim.profile ghosts)) <$>
      r.ghosts.record (ghostOf now victim.ticket.id victim.profile)
  candidates : ∀ ghosts, (r.unseat victim.ticket victim.profile ghosts).candidates = rest

lemma Consistent.round (h : r.Consistent) (hcandidates : r.candidates = victim :: victims)
    (now : UInt64) : Round now victim victims r := by
  have htickets := h.map_ticket_candidates
  rw [hcandidates, List.map_cons] at htickets
  obtain ⟨hres, hmem⟩ := mem_candidates (hcandidates ▸ List.mem_cons_self)
  rcases h.perform_pop with ⟨t, p, hfirst, hpop⟩ | ⟨hnone, -⟩
  · have hqueue : r.queue.tickets = t :: (r.queue.erase t).tickets :=
      congrArg (List.map Candidate.ticket) (h.coherent.toList_of_isFirst hfirst)
    rw [hqueue] at htickets
    obtain ⟨rfl, -⟩ := List.cons.inj htickets
    refine ⟨hres, hpop, ?_, fun ghosts => ?_⟩
    · have hholder : holder? { r with queue := r.queue.erase victim.ticket } victim.ticket =
          some victim := holder?_eq_some.mpr ⟨hres, rfl⟩
      rw [perform, hholder, evict_popped hres]
      cases r.ghosts.record (ghostOf now victim.ticket.id victim.profile) <;> rfl
    · have hall : r.candidates =
          victim :: (r.queue.erase victim.ticket).tickets.filterMap r.holder? := by
        rw [Roster.candidates, hqueue,
          List.filterMap_cons_some (holder?_eq_some.mpr ⟨hres, rfl⟩)]
      rw [h.candidates_unseat hres]
      exact (List.cons.inj (hall.symm.trans hcandidates)).2
  · obtain ⟨p, hp⟩ := h.coherent.mem_tickets.mp hmem
    simp [hnone] at hp

/-- Without candidates nothing is popped. -/
lemma Consistent.perform_pop_of_nil (h : r.Consistent) (hcandidates : r.candidates = []) :
    r.perform .pop = .ok (.ignored, r) ∧ ∀ t, r.priority? t = none := by
  rcases h.perform_pop with ⟨t, p, hfirst, -⟩ | ⟨hnone, hpop⟩
  · have hmem := h.coherent.mem_tickets.mpr ⟨p, hfirst.queued⟩
    rw [← h.map_ticket_candidates, hcandidates] at hmem
    simp at hmem
  · exact ⟨hpop, hnone⟩

lemma Consistent.drained_nil (h : r.Consistent) (hnone : ∀ t, r.priority? t = none) :
    Drained now [] r r :=
  ⟨h, hnone, fun id resident => by simp, rfl⟩

/-- What is left after the first round and the others. -/
lemma Consistent.drained_cons (h : r.Consistent)
    (hres : r.residents[victim.ticket.id]? = some victim)
    (hrecord : r.ghosts.record (ghostOf (now 0) victim.ticket.id victim.profile) = .ok log)
    (hrest : Drained (fun i => now (i + 1)) victims
      (r.unseat victim.ticket victim.profile log) r') :
    Drained now (victim :: victims) r r' := by
  refine ⟨hrest.consistent, hrest.priority?, fun id resident => ?_, ?_⟩
  · rw [hrest.residents_iff, List.mem_cons, not_or, ← and_assoc]
    refine and_congr_left fun _ => ?_
    change (r.residents.erase victim.ticket.id)[id]? = _ ↔ _
    rw [Table.getElem?_erase_eq_some, and_comm]
    refine and_congr_right fun hid => not_congr ⟨?_, ?_⟩
    · rintro rfl
      exact Option.some.inj (hid.symm.trans hres)
    · rintro rfl
      exact h.ticket_id id resident hid
  · have hghosts : ghostsOf now (victim :: victims) =
        ghostOf (now 0) victim.ticket.id victim.profile ::
          ghostsOf (fun i => now (i + 1)) victims := List.mapIdx_cons
    rw [hghosts, List.foldlM_cons, hrecord]
    exact hrest.ghosts

/-! ## All rounds -/

/-- The candidates are evicted in order, whatever happens to the others. -/
lemma Consistent.drains (h : r.Consistent) (hdrains : Drains now r events r') :
    events = evictions (r.candidates.map Resident.ticket) ∧ Drained now r.candidates r r' := by
  generalize hcandidates : r.candidates = victims
  induction victims generalizing r now events with
  | nil =>
    obtain ⟨hnever, hnone⟩ := h.perform_pop_of_nil hcandidates
    cases hdrains with
    | done hpop =>
      obtain ⟨-, rfl⟩ := Prod.mk.inj (Except.ok.inj (hnever.symm.trans hpop))
      exact ⟨rfl, h.drained_nil hnone⟩
    | round hpop _ _ =>
      obtain ⟨hevent, -⟩ := Prod.mk.inj (Except.ok.inj (hnever.symm.trans hpop))
      cases hevent
  | cons victim victims ih =>
    have hround := h.round hcandidates (now 0)
    cases hdrains with
    | done hpop =>
      obtain ⟨hevent, -⟩ := Prod.mk.inj (Except.ok.inj (hround.popped.symm.trans hpop))
      cases hevent
    | round hpop hevict hrest =>
      obtain ⟨hevent, rfl⟩ := Prod.mk.inj (Except.ok.inj (hround.popped.symm.trans hpop))
      obtain rfl := Event.popped.inj hevent
      rw [hround.evicted, map_eq_ok] at hevict
      obtain ⟨log, hrecord, heq⟩ := hevict
      obtain ⟨rfl, rfl⟩ := Prod.mk.inj heq
      obtain ⟨rfl, hdrained⟩ := ih (h.unseat hround.resident log) hrest (hround.candidates log)
      exact ⟨rfl, h.drained_cons hround.resident hrecord hdrained⟩

/-- If the ghosts can be recorded, all candidates are evicted. -/
lemma Consistent.exists_drains (h : r.Consistent)
    (hghosts : (ghostsOf now r.candidates).foldlM GhostLog.record r.ghosts = .ok log) :
    ∃ r', Drains now r (evictions (r.candidates.map Resident.ticket)) r' := by
  generalize hcandidates : r.candidates = victims at hghosts ⊢
  induction victims generalizing r now with
  | nil => exact ⟨r, .done (h.perform_pop_of_nil hcandidates).1⟩
  | cons victim victims ih =>
    have hround := h.round hcandidates (now 0)
    rw [ghostsOf, List.mapIdx_cons, List.foldlM_cons, bind_eq_ok] at hghosts
    obtain ⟨log₁, hrecord, hrest⟩ := hghosts
    obtain ⟨r', hdrains⟩ := ih (h.unseat hround.resident log₁) (hround.candidates log₁) hrest
    have hevict : perform { r with queue := r.queue.erase victim.ticket }
        (.evict (now 0) victim.ticket) =
          .ok (.evicted victim.ticket, r.unseat victim.ticket victim.profile log₁) := by
      rw [hround.evicted, hrecord]
      rfl
    exact ⟨r', .round hround.popped hevict hdrains⟩

/-! ## After any calls -/

lemma kept_of_step {budget : UInt64} (hkept : r.ghosts.Kept budget) (hstep : Step r event r') :
    r'.ghosts.Kept budget := by
  cases hstep with
  | evicted _ hrecord =>
    have hcall : r.ghosts.perform (.record _) = .ok _ := hrecord
    exact hkept.perform hcall
  | cleared =>
    have hcall : r.ghosts.perform .clear = .ok r.ghosts.clear := rfl
    exact hkept.perform hcall
  | inserted | touched | popped | ignored => exact hkept

/-- The log of a roster is within the budget. -/
lemma kept_ghosts (scorer : Scorer) (budget : UInt64) {calls : List Call}
    (hrun : runCalls perform (empty scorer budget) calls = .ok (events, r)) :
    r.ghosts.Kept budget := by
  refine (runCalls_invariant (P := fun r => r.Consistent ∧ r.ghosts.Kept budget) ?_ ?_ hrun).2
  · exact ⟨consistent_empty scorer budget, GhostLog.kept_empty budget⟩
  · rintro r call event r' ⟨hcon, hkept⟩ hcall
    have hstep := step_of_perform hcon hcall
    exact ⟨hcon.step hstep, kept_of_step hkept hstep⟩

/-- The ghosts of candidates that could be counted on top of a full budget can be recorded. -/
lemma exists_recorded {budget : UInt64} (hkept : r.ghosts.Kept budget)
    (hsmall : ∀ victim ∈ r.candidates, budget.toNat + victim.profile.size.toNat < UInt64.size)
    (now : Nat → UInt64) :
    ∃ log, (ghostsOf now r.candidates).foldlM GhostLog.record r.ghosts = .ok log := by
  refine hkept.exists_foldlM_record fun ghost hghost => ?_
  obtain ⟨i, hi, rfl⟩ := List.mem_mapIdx.mp hghost
  exact hsmall _ (List.getElem_mem hi)

/-- **A roster is drained in the order of its queue.**  After any calls the queue lists each queued
ticket once, in the order of priorities, serial numbers and ids, and the candidates are the
residents with these tickets.  Suppose that victims are popped and evicted until nothing is popped,
the `i`-th one at any time `now i`:

* this comes to its end if the ghosts of the candidates can be recorded one after the other, which
  is so whenever they could be counted on top of a full budget;
* there is one round for each queued ticket, in which this ticket is popped and its object is
  evicted, and a last call that finds nothing;
* the log has recorded the ghosts in that order, nothing is queued, and the roster is consistent;
* the objects that are left are those that were popped before and neither inserted nor touched
  since. -/
theorem drained_after_calls (scorer : Scorer) (budget : UInt64) {calls : List Call}
    {events : List Event} {r : Roster}
    (hrun : runCalls perform (empty scorer budget) calls = .ok (events, r))
    (now : Nat → UInt64) :
    (VictimQueue.Ordered r.queue.toList ∧ r.queue.Reads r.queue.toList ∧
      r.candidates.map Resident.ticket = r.queue.tickets ∧
      ∀ victim ∈ r.candidates, r.residents[victim.ticket.id]? = some victim) ∧
    ((∀ victim ∈ r.candidates, budget.toNat + victim.profile.size.toNat < UInt64.size) →
      ∃ log, (ghostsOf now r.candidates).foldlM GhostLog.record r.ghosts = .ok log) ∧
    (∀ log, (ghostsOf now r.candidates).foldlM GhostLog.record r.ghosts = .ok log →
      ∃ drained r', Drains now r drained r') ∧
    ∀ drained r', Drains now r drained r' →
      drained = evictions r.queue.tickets ∧ r.queue.tickets.length = r.queue.size ∧
      (ghostsOf now r.candidates).foldlM GhostLog.record r.ghosts = .ok r'.ghosts ∧
      (∀ t, r'.priority? t = none) ∧ r'.Consistent ∧
      ∀ (id : ObjectId) resident, r'.residents[id]? = some resident ↔
        r.residents[id]? = some resident ∧ PoppedSince resident.ticket events := by
  obtain ⟨hcon, hqueue⟩ := run_invariant scorer budget hrun
  refine ⟨⟨hcon.coherent.ordered, hcon.coherent.reads, hcon.map_ticket_candidates,
    fun victim hmem => (mem_candidates hmem).1⟩,
    fun hsmall => exists_recorded (kept_ghosts scorer budget hrun) hsmall now,
    fun log hlog => ?_, fun drained r' hdrains => ?_⟩
  · obtain ⟨r', hdrains⟩ := hcon.exists_drains hlog
    exact ⟨_, r', hdrains⟩
  · obtain ⟨hevents, hdrained⟩ := hcon.drains hdrains
    rw [hcon.map_ticket_candidates] at hevents
    refine ⟨hevents, VictimQueue.length_tickets _, hdrained.ghosts, hdrained.priority?,
      hdrained.consistent, fun id resident => ?_⟩
    rw [hdrained.residents_iff]
    refine and_congr_right fun hres => ?_
    rw [hcon.not_mem_candidates hres]
    obtain rfl := hcon.ticket_id id resident hres
    exact hqueue resident.ticket resident.profile hres

/-- One object has been popped and not evicted; two of the others have the same priority. -/
theorem drained_around_popped_object :
    let now : Nat → UInt64 := fun i => [20, 3, 40].getD i 0
    ∃ events r r',
      runCalls perform (empty .lfu 15) [.insert 5 ⟨0, 1⟩ 10, .pop, .insert 6 ⟨1, 2⟩ 10,
        .insert 6 ⟨2, 3⟩ 30, .insert 7 ⟨3, 4⟩ 5, .touch 9 ⟨1, 2⟩] = .ok (events, r) ∧
      (∀ victim ∈ r.candidates, (15 : UInt64).toNat + victim.profile.size.toNat < UInt64.size) ∧
      Drains now r (evictions [⟨2, 3⟩, ⟨3, 4⟩, ⟨1, 2⟩]) r' ∧
      r'.ghosts.toList = [⟨4, 5, 1, 0⟩, ⟨2, 10, 2, 34⟩] ∧
      r'.residents[(1 : ObjectId)]? = some ⟨⟨0, 1⟩, ⟨1, 5, 10, 5⟩⟩ := by
  intro now
  have hends : (do
      let (events, r) ← runCalls perform (empty .lfu 15) [.insert 5 ⟨0, 1⟩ 10, .pop,
        .insert 6 ⟨1, 2⟩ 10, .insert 6 ⟨2, 3⟩ 30, .insert 7 ⟨3, 4⟩ 5, .touch 9 ⟨1, 2⟩]
      let ghosts ← (ghostsOf now r.candidates).foldlM GhostLog.record r.ghosts
      .ok (events, r.queue.tickets, r.candidates.map fun victim => victim.profile.size,
        ghosts.toList, r.residents[(1 : ObjectId)]?)) =
      (.ok ([.inserted ⟨0, 1⟩, .popped ⟨0, 1⟩, .inserted ⟨1, 2⟩, .inserted ⟨2, 3⟩,
        .inserted ⟨3, 4⟩, .touched ⟨1, 2⟩], [⟨2, 3⟩, ⟨3, 4⟩, ⟨1, 2⟩], [30, 5, 10],
        [⟨4, 5, 1, 0⟩, ⟨2, 10, 2, 34⟩], some ⟨⟨0, 1⟩, ⟨1, 5, 10, 5⟩⟩) : Except Fault _) := by
    cbv
  obtain ⟨⟨events, r⟩, hrun, hends⟩ := bind_eq_ok.mp hends
  obtain ⟨ghosts, hghosts, hends⟩ := bind_eq_ok.mp hends
  simp only [Except.ok.injEq, Prod.mk.injEq] at hends
  obtain ⟨hevents, htickets, hsizes, hlist, hres⟩ := hends
  have hsmall : ∀ victim ∈ r.candidates,
      (15 : UInt64).toNat + victim.profile.size.toNat < UInt64.size := by
    intro victim hmem
    have hsize : victim.profile.size ∈ ([30, 5, 10] : List UInt64) :=
      hsizes ▸ List.mem_map_of_mem hmem
    revert hsize
    generalize victim.profile.size = size
    simp only [List.mem_cons, List.not_mem_nil, or_false]
    rintro (rfl | rfl | rfl) <;> decide
  obtain ⟨-, hrecords, hends, hall⟩ := drained_after_calls .lfu 15 hrun now
  obtain ⟨log, hlog⟩ := hrecords hsmall
  obtain ⟨drained, r', hdrains⟩ := hends log hlog
  obtain ⟨rfl, -, hghosts', -, -, hleft⟩ := hall drained r' hdrains
  obtain rfl := Except.ok.inj (hghosts.symm.trans hghosts')
  have hpopped : PoppedSince ⟨0, 1⟩ events := by
    rw [hevents]
    exact ⟨[.inserted ⟨0, 1⟩], _, rfl, by decide, by decide⟩
  rw [htickets] at hdrains
  exact ⟨events, r, r', hrun, hsmall, hdrains, hlist, (hleft 1 _).mpr ⟨hres, hpopped⟩⟩

end Roster
end CacheSim
