import CacheSim.Proofs.Cache.Lockstep

/-!
# Victims and survivors

Between two calls the queue stands still, and a call moves only what it has to do with.  So the
victims of a call can be told from the queue as it was before the call, and the objects that are
still stored after it, but for the one that was requested, have kept their features and their
priorities.

* `Cache.MakesRoom.tickets_eq`: the victims are taken from the front of the queue;
* `Cache.ahead_of_perform`: so they are the first in the queue, in the order of the queue;
* `Cache.victims_of_perform`: and they are in any relation that agrees with that order;
* `Cache.MakesRoom.keeps`, `Cache.Stores.keeps`: the other objects are kept as they are;
* `Cache.frame_of_perform`: what is stored and not requested stays as it is;
* `Cache.scored_of_perform`: what is requested and stored then has been scored as it is.
-/

namespace CacheSim

lemma Ticket.compare_eq_lt {s t : Ticket} :
    compare s t = .lt ↔ s.serial < t.serial ∨ s.serial = t.serial ∧ s.id < t.id := by
  change (compare s.serial t.serial).then (compare s.id t.id) = .lt ↔ _
  rw [Ordering.then_eq_lt, Std.compare_eq_lt, Std.compare_eq_lt, Std.compare_eq_iff_eq]

/-- A ticket goes before another one in the queue: its priority is smaller, or as small and its
serial number is smaller. -/
def VictimQueue.Ahead (q : VictimQueue Ticket) (t u : Ticket) : Prop :=
  ∃ p p', q.priority? t = some p ∧ q.priority? u = some p' ∧
    (p < p' ∨ p = p' ∧ t.serial < u.serial)

lemma VictimQueue.Ahead.ne {q : VictimQueue Ticket} {t u : Ticket} (h : q.Ahead t u) : t ≠ u := by
  rintro rfl
  obtain ⟨p, p', hp, hp', hlt | ⟨-, hlt⟩⟩ := h
  · rw [hp, Option.some.injEq] at hp'
    exact absurd hp' (Int.ne_of_lt hlt)
  · exact absurd hlt (UInt64.lt_irrefl _)

namespace Cache

variable {c c' : Cache} {id id' : ObjectId} {size now clock : UInt64} {t : Ticket}
variable {object : Stored} {resident : Resident} {roster : Roster}
variable {victims : List Ticket} {call : Call} {answer : Answer}

/-! ## The order of the victims -/

/-- What comes first in the order of the candidates goes before in the queue. -/
lemma Lockstep.ahead_of_compare (hlock : c.Lockstep) {u : Ticket} {p p' : Priority}
    (hp : c.roster.queue.priority? t = some p) (hp' : c.roster.queue.priority? u = some p')
    (hlt : compare (⟨p, t⟩ : Candidate Ticket) ⟨p', u⟩ = .lt) : c.roster.queue.Ahead t u := by
  rw [Candidate.compare_eq_lt, Ticket.compare_eq_lt] at hlt
  refine ⟨p, p', hp, hp', hlt.imp_right fun heq => ⟨heq.1, ?_⟩⟩
  rcases heq.2 with hserial | ⟨hserial, hid⟩
  · exact hserial
  · -- the serial numbers of two objects differ
    obtain ⟨_, -, hstored⟩ := hlock.stored_of_queued hp
    obtain ⟨_, -, hstored'⟩ := hlock.stored_of_queued hp'
    rw [hlock.serial_inj _ _ _ _ hstored hstored' hserial] at hid
    exact absurd hid (UInt64.lt_irrefl _)

/-- The tickets are queued in order. -/
lemma Lockstep.pairwise_tickets (hlock : c.Lockstep) :
    c.roster.queue.tickets.Pairwise c.roster.queue.Ahead := by
  rw [VictimQueue.tickets, List.pairwise_map]
  refine (VictimQueue.pairwise_toList _).imp_of_mem fun {x y} hx hy hlt => ?_
  have hcoherent := hlock.roster.coherent
  exact hlock.ahead_of_compare (hcoherent.mem_toList.mp hx) (hcoherent.mem_toList.mp hy) hlt

/-- The victim was the first in the queue, and the others are left there. -/
lemma Evicts.tickets_eq (hev : Evicts c now t c') (hlock : c.Lockstep) :
    c.roster.queue.tickets = t :: c'.roster.queue.tickets := by
  cases hev with
  | victim hres hvictim hfirst =>
    rw [VictimQueue.tickets, hlock.roster.coherent.toList_of_isFirst hfirst]
    rfl

/-- The victims were the first ones in the queue, and the others are left there. -/
lemma MakesRoom.tickets_eq (hroom : MakesRoom now size c victims c') (hlock : c.Lockstep) :
    c.roster.queue.tickets = victims ++ c'.roster.queue.tickets := by
  induction hroom with
  | fits => rfl
  | evicts hover hev hmore ih =>
    rw [(evicts_of_evict hlock hev).tickets_eq hlock, ih (hlock.evict hev), List.cons_append]

/-- What is queued first goes before everything else that is stored. -/
lemma Lockstep.ahead_of_tickets (hlock : c.Lockstep) {others : List Ticket}
    (hqueue : c.roster.queue.tickets = victims ++ others) :
    victims.Pairwise c.roster.queue.Ahead ∧
      ∀ v ∈ victims, (∃ size, c.stored[v.id]? = some ⟨v, size⟩) ∧
        ∀ (id : ObjectId) object, c.stored[id]? = some object → id ∉ victims.map Ticket.id →
          c.roster.queue.Ahead v object.ticket := by
  have hpairs := hlock.pairwise_tickets
  rw [hqueue, List.pairwise_append] at hpairs
  obtain ⟨hvictims, -, hrest⟩ := hpairs
  have hmem : ∀ u, u ∈ victims ++ others ↔ ∃ size, c.stored[u.id]? = some ⟨u, size⟩ := fun u => by
    rw [← hqueue, hlock.mem_tickets]
  refine ⟨hvictims, fun v hv => ⟨(hmem v).mp (List.mem_append_left _ hv), ?_⟩⟩
  intro id object hstored hnot
  obtain rfl := hlock.ticket_id hstored
  have hobject := List.mem_append.mp ((hmem object.ticket).mpr ⟨object.size, hstored⟩)
  exact hrest v hv _ (hobject.resolve_left fun hin => hnot (List.mem_map_of_mem hin))

/-- A victim goes before every other stored object. -/
lemma Evicts.ahead (hev : Evicts c now t c') (hlock : c.Lockstep)
    (hstored : c.stored[id]? = some object) (hne : t.id ≠ id) :
    c.roster.queue.Ahead t object.ticket := by
  have hqueue : c.roster.queue.tickets = [t] ++ c'.roster.queue.tickets := hev.tickets_eq hlock
  obtain ⟨-, hfirst⟩ := hlock.ahead_of_tickets hqueue
  exact (hfirst t List.mem_cons_self).2 id object hstored (by simpa using Ne.symm hne)

/-- The objects that are evicted to make room are the first ones in the queue, in its order. -/
lemma MakesRoom.ahead (hroom : MakesRoom now size c victims c') (hlock : c.Lockstep) :
    victims.Pairwise c.roster.queue.Ahead ∧
      ∀ v ∈ victims, (∃ size, c.stored[v.id]? = some ⟨v, size⟩) ∧
        ∀ (id : ObjectId) object, c.stored[id]? = some object → id ∉ victims.map Ticket.id →
          c.roster.queue.Ahead v object.ticket :=
  hlock.ahead_of_tickets (hroom.tickets_eq hlock)

/-- The objects that a call evicts are the first ones in the queue, in its order. -/
lemma ahead_of_perform (hlock : c.Lockstep) (hcall : c.perform call = .ok (answer, c')) :
    answer.victims.Pairwise c.roster.queue.Ahead ∧
      ∀ v ∈ answer.victims, (∃ size, c.stored[v.id]? = some ⟨v, size⟩) ∧
        ∀ (id : ObjectId) object, c.stored[id]? = some object →
          id ∉ answer.victims.map Ticket.id → c.roster.queue.Ahead v object.ticket := by
  cases hlock.performs hcall with
  | hit | bypass | refused | cleared => exact hlock.ahead_of_tickets (List.nil_append _).symm
  | admission hclock htally hnew hlarge hmiss hcounted hroom hlock₁ hstore =>
    exact hroom.ahead hcounted
  | evicted hev hevicts => exact hlock.ahead_of_tickets (hevicts.tickets_eq hlock)

/-- What goes before something else in the queue is related to it, if stored objects in this order
are; so the victims of a call are related to each other and to the survivors. -/
lemma victims_of_perform {R : Ticket → Ticket → Prop} (hlock : c.Lockstep)
    (hcall : c.perform call = .ok (answer, c'))
    (hR : ∀ (v w : Ticket) size size', c.stored[v.id]? = some ⟨v, size⟩ →
      c.stored[w.id]? = some ⟨w, size'⟩ → v.id ≠ w.id → c.roster.queue.Ahead v w → R v w) :
    answer.victims.Pairwise R ∧
      ∀ v ∈ answer.victims, (∃ size, c.stored[v.id]? = some ⟨v, size⟩) ∧
        ∀ (id : ObjectId) object, c.stored[id]? = some object →
          id ∉ answer.victims.map Ticket.id → R v object.ticket := by
  obtain ⟨hpairs, hfirst⟩ := ahead_of_perform hlock hcall
  refine ⟨hpairs.imp_of_mem fun {v w} hv hw hahead => ?_, fun v hv => ⟨(hfirst v hv).1, ?_⟩⟩
  · obtain ⟨⟨size, hv⟩, -⟩ := hfirst v hv
    obtain ⟨⟨size', hw⟩, -⟩ := hfirst w hw
    refine hR v w size size' hv hw ?_ hahead
    -- a stored object has one ticket, and a ticket does not go before itself
    intro hid
    rw [← hid, hv, Option.some.injEq] at hw
    obtain ⟨rfl, -⟩ := Stored.mk.inj hw
    exact hahead.ne rfl
  · intro id object hid hnot
    obtain ⟨⟨size, hstored⟩, hrest⟩ := hfirst v hv
    obtain rfl := hlock.ticket_id hid
    refine hR v object.ticket size object.size hstored hid ?_ (hrest _ object hid hnot)
    intro heq
    exact hnot (heq ▸ List.mem_map_of_mem hv)

/-! ## The survivors -/

/-- An object is stored, seen by the policy and queued in the second cache as in the first. -/
structure Keeps (c c' : Cache) (id : ObjectId) : Prop where
  stored : c'.stored[id]? = c.stored[id]?
  resident : c'.roster.residents[id]? = c.roster.residents[id]?
  priority : ∀ t : Ticket, t.id = id → c'.roster.priority? t = c.roster.priority? t

lemma Keeps.trans {c₁ : Cache} (h : Keeps c c₁ id) (h' : Keeps c₁ c' id) : Keeps c c' id :=
  ⟨h'.stored.trans h.stored, h'.resident.trans h.resident,
    fun t ht => (h'.priority t ht).trans (h.priority t ht)⟩

lemma Touches.keeps (htouch : Touches c now id roster) (hne : id ≠ id') :
    Keeps c { c with roster := roster } id' := by
  cases htouch with
  | @resident t profile p hres hid hp =>
    subst hid
    refine ⟨rfl, ?_, fun u hu => ?_⟩
    · simp [Roster.reseat, Std.TreeMap.getElem?_insert, hne]
    · have hother : t ≠ u := fun heq => hne (heq ▸ hu)
      rw [Roster.priority?, VictimQueue.priority?_set, if_neg hother, Roster.priority?]

lemma Evicts.keeps (hev : Evicts c now t c') (hne : t.id ≠ id) : Keeps c c' id := by
  cases hev with
  | @victim profile p occupied tally ghosts =>
    refine ⟨?_, ?_, fun u hu => ?_⟩
    · simp [Std.TreeMap.getElem?_erase, hne]
    · simp [Roster.unseat, Std.TreeMap.getElem?_erase, hne]
    · have hother : t ≠ u := fun heq => hne (heq ▸ hu)
      change (c.roster.queue.erase t).priority? u = _
      rw [VictimQueue.priority?_erase, if_neg hother, Roster.priority?]

lemma MakesRoom.keeps (hroom : MakesRoom now size c victims c') (hlock : c.Lockstep)
    (hnot : id ∉ victims.map Ticket.id) : Keeps c c' id := by
  induction hroom with
  | fits => exact ⟨rfl, rfl, fun _ _ => rfl⟩
  | evicts hover hev hmore ih =>
    rw [List.map_cons, List.mem_cons, not_or] at hnot
    exact ((evicts_of_evict hlock hev).keeps (Ne.symm hnot.1)).trans (ih (hlock.evict hev) hnot.2)

lemma Stores.keeps (hstore : Stores c id size c') (hne : id ≠ id') : Keeps c c' id' := by
  cases hstore with
  | @fresh nextSerial occupied p hnew hserial hocc hp =>
    refine ⟨?_, ?_, fun u hu => ?_⟩
    · simp [Std.TreeMap.getElem?_insert, hne]
    · simp [Roster.seat, Std.TreeMap.getElem?_insert, hne]
    · have hother : (⟨c.nextSerial, id⟩ : Ticket) ≠ u := by
        rintro rfl
        exact hne hu
      change (c.roster.queue.set ⟨c.nextSerial, id⟩ p).priority? u = _
      rw [VictimQueue.priority?_set, if_neg hother, Roster.priority?]

/-- An object that is on the roster was there before, with the same features and the same
priority. -/
def Untouched (c c' : Cache) (id : ObjectId) : Prop :=
  ∀ resident, c'.roster.residents[id]? = some resident →
    c.roster.residents[id]? = some resident ∧
      c'.roster.queue.priority? resident.ticket = c.roster.queue.priority? resident.ticket

lemma Untouched.trans {c₁ : Cache} (h : Untouched c c₁ id) (h' : Untouched c₁ c' id) :
    Untouched c c' id := by
  intro resident hres
  obtain ⟨hres₁, hpriority₁⟩ := h' resident hres
  obtain ⟨hres₀, hpriority₀⟩ := h resident hres₁
  exact ⟨hres₀, hpriority₁.trans hpriority₀⟩

lemma Keeps.untouched (h : Keeps c c' id) (hlock : c.Lockstep) : Untouched c c' id := by
  intro resident hres
  rw [h.resident] at hres
  exact ⟨hres, h.priority _ (hlock.roster.ticket_id id resident hres)⟩

lemma Evicts.untouched (hev : Evicts c now t c') (hlock : c.Lockstep) (id : ObjectId) :
    Untouched c c' id := by
  by_cases hne : t.id = id
  · subst hne
    cases hev with
    | victim hres =>
      intro resident hres'
      exact absurd rfl (Table.getElem?_erase_eq_some.mp hres').1
  · exact (hev.keeps hne).untouched hlock

lemma MakesRoom.untouched (hroom : MakesRoom now size c victims c') (hlock : c.Lockstep)
    (id : ObjectId) : Untouched c c' id := by
  induction hroom with
  | fits => exact fun resident hres => ⟨hres, rfl⟩
  | evicts hover hev hmore ih =>
    exact ((evicts_of_evict hlock hev).untouched hlock id).trans (ih (hlock.evict hev))

/-- Whether a call requests an object. -/
def Call.requests (id : ObjectId) : Call → Bool
  | .request r => r.id == id
  | .evict _ => false
  | .clear => false

/-- A call leaves the objects alone that it does not request, unless they leave the cache. -/
lemma frame_of_perform (hlock : c.Lockstep) (hcall : c.perform call = .ok (answer, c'))
    (hother : call.requests id = false) : Untouched c c' id := by
  cases hlock.performs hcall with
  | @hit r _ _ _ _ hclock htally hstored htouch =>
    have hne : r.id ≠ id := by simpa [Call.requests] using hother
    exact (htouch.keeps hne).untouched hlock
  | bypass | refused => exact fun resident hres => ⟨hres, rfl⟩
  | @admission r _ _ _ _ _ _ hclock htally hnew hlarge hmiss hcounted hroom hlock₁ hstore =>
    have hne : r.id ≠ id := by simpa [Call.requests] using hother
    exact (hroom.untouched hcounted id).trans ((hstore.keeps hne).untouched hlock₁)
  | evicted hev hevicts => exact hevicts.untouched hlock id
  | cleared =>
    intro resident hres
    simp [clear, Roster.clear] at hres

/-- An object that is requested and is stored then has been scored as it is, in the population and
in view of the ghosts as they are. -/
lemma scored_of_perform (hlock : c.Lockstep) (hcall : c.perform call = .ok (answer, c'))
    (hrequests : call.requests id = true) (hres : c'.roster.residents[id]? = some resident) :
    ∃ p, c'.roster.scorer.priority (c'.roster.scene c'.clock id resident.profile) = .ok p ∧
      c'.roster.queue.priority? resident.ticket = some p := by
  cases hlock.performs hcall with
  | @hit r _ _ _ _ hclock htally hstored htouch =>
    obtain rfl : r.id = id := by simpa [Call.requests] using hrequests
    cases htouch with
    | @resident t profile p hold hid hp =>
      rcases Table.getElem?_insert_eq_some.mp hres with ⟨-, rfl⟩ | ⟨hne, -⟩
      · refine ⟨p, hp, ?_⟩
        change (c.roster.queue.set t p).priority? t = _
        rw [VictimQueue.priority?_set, if_pos rfl]
      · exact absurd hid hne
  | @bypass r _ _ _ _ hclock htally hnew =>
    obtain rfl : r.id = id := by simpa [Call.requests] using hrequests
    have hgone := hlock.stored_eq r.id
    rw [hnew, show c.roster.residents[r.id]? = some resident from hres] at hgone
    simp at hgone
  | @admission r _ _ _ _ c₁ _ hclock htally hnew hlarge hmiss hcounted hroom hlock₁ hstore =>
    obtain rfl : r.id = id := by simpa [Call.requests] using hrequests
    cases hstore with
    | @fresh nextSerial occupied p hmem hserial hocc hp =>
      rcases Table.getElem?_insert_eq_some.mp hres with ⟨-, rfl⟩ | ⟨hne, -⟩
      · refine ⟨p, hp, ?_⟩
        change (c₁.roster.queue.set ⟨c₁.nextSerial, r.id⟩ p).priority? ⟨c₁.nextSerial, r.id⟩ = _
        rw [VictimQueue.priority?_set, if_pos rfl]
      · exact absurd rfl hne
  | evicted | refused | cleared => simp [Call.requests] at hrequests

end Cache
end CacheSim
