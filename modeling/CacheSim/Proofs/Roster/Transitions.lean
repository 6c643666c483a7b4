import CacheSim.Proofs.RankTree.Multiset
import CacheSim.Proofs.Runs
import CacheSim.Proofs.VictimQueue

/-!
# What a transition of the roster does

A roster is `Roster.Consistent` when its three feature multisets are exactly those of the
residents and every candidate in its queue is a resident under its own ticket.  This file says
once what each transition does, and that it keeps consistency.

* `Roster.insert_of_not_mem`, `Roster.touch_of_holder`, `Roster.evict_of_holder`: the transition
  of an object that may make it;
* `Roster.insert_of_mem`, `Roster.touch_of_not_holder`, `Roster.evict_of_not_holder`: any other
  call changes nothing;
* `Roster.Consistent.seat`, `Roster.Consistent.reseat`, `Roster.Consistent.unseat`,
  `Roster.Consistent.enqueue`, `Roster.Consistent.dequeue`: the parts of a transition keep
  consistency.
-/

namespace CacheSim

/-- Residents by id. -/
abbrev Residents := Std.TreeMap ObjectId Resident

/-- The features of all residents. -/
def Residents.profiles (residents : Residents) : List Profile :=
  residents.toList.map fun e => e.2.profile

lemma Residents.mem_profiles {residents : Residents} {profile : Profile} :
    profile ∈ residents.profiles ↔
      ∃ (id : ObjectId) (t : Ticket), residents[id]? = some ⟨t, profile⟩ := by
  rw [profiles, List.mem_map]
  constructor
  · rintro ⟨⟨id, ⟨t, profile⟩⟩, hmem, rfl⟩
    exact ⟨id, t, Table.mem_toList.mp hmem⟩
  · rintro ⟨id, t, hres⟩
    exact ⟨(id, ⟨t, profile⟩), Table.mem_toList.mpr hres, rfl⟩

/-- The three multisets are the access counts, admission times and sizes of the residents. -/
structure Census (residents : Residents) (counts : RankTree UInt32)
    (entered sizes : RankTree UInt64) : Prop where
  counts : counts.Holds (residents.profiles.map Profile.accesses)
  entered : entered.Holds (residents.profiles.map Profile.entered)
  sizes : sizes.Holds (residents.profiles.map Profile.size)

namespace Census

variable {residents : Residents} {counts : RankTree UInt32} {entered sizes : RankTree UInt64}
variable {id : ObjectId} {resident : Resident} {profile : Profile} {t : Ticket}

lemma empty : Census ∅ ∅ ∅ ∅ :=
  ⟨RankTree.Holds.empty, RankTree.Holds.empty, RankTree.Holds.empty⟩

/-- The census of a population with a further object. -/
lemma insert (h : Census residents counts entered sizes) (hnew : id ∉ residents) :
    Census (residents.insert id ⟨t, profile⟩) (counts.insert profile.accesses)
      (entered.insert profile.entered) (sizes.insert profile.size) := by
  have hperm := (Table.toList_insert_of_not_mem hnew (⟨t, profile⟩ : Resident)).map
    fun e => e.2.profile
  exact ⟨(h.counts.insert _).of_perm (hperm.map Profile.accesses).symm,
    (h.entered.insert _).of_perm (hperm.map Profile.entered).symm,
    (h.sizes.insert _).of_perm (hperm.map Profile.size).symm⟩

/-- The census of a population that an object has left. -/
lemma erase (h : Census residents counts entered sizes) (hid : residents[id]? = some resident) :
    Census (residents.erase id) (counts.erase resident.profile.accesses)
      (entered.erase resident.profile.entered) (sizes.erase resident.profile.size) := by
  have hperm := (Table.toList_erase_of_getElem? hid).map fun e => e.2.profile
  exact ⟨(h.counts.of_perm (hperm.map Profile.accesses)).erase,
    (h.entered.of_perm (hperm.map Profile.entered)).erase,
    (h.sizes.of_perm (hperm.map Profile.size)).erase⟩

/-- The census after the access count of one object has changed. -/
lemma replace (h : Census residents counts entered sizes) (hid : residents[id]? = some resident)
    (hentered : profile.entered = resident.profile.entered)
    (hsize : profile.size = resident.profile.size) :
    Census (residents.insert id ⟨t, profile⟩)
      ((counts.erase resident.profile.accesses).insert profile.accesses) entered sizes := by
  have hold := (Table.toList_erase_of_getElem? hid).map fun e => e.2.profile
  have hnew := (Table.toList_insert residents id ⟨t, profile⟩).map fun e => e.2.profile
  refine ⟨?_, ?_, ?_⟩
  · have hrest := (h.counts.of_perm (hold.map Profile.accesses)).erase
    exact (hrest.insert _).of_perm (hnew.map Profile.accesses).symm
  · refine h.entered.of_perm ((hold.map Profile.entered).trans ?_)
    refine List.Perm.trans (List.Perm.of_eq ?_) (hnew.map Profile.entered).symm
    simp [hentered]
  · refine h.sizes.of_perm ((hold.map Profile.size).trans ?_)
    refine List.Perm.trans (List.Perm.of_eq ?_) (hnew.map Profile.size).symm
    simp [hsize]

end Census

namespace Roster

variable {r r' : Roster} {t : Ticket} {now size : UInt64} {resident : Resident}
variable {profile : Profile}

/-! ## Holders of tickets -/

lemma holder?_eq_some :
    r.holder? t = some resident ↔ r.residents[t.id]? = some resident ∧ resident.ticket = t := by
  rw [holder?, Option.filter_eq_some_iff, beq_iff_eq]

lemma holder?_eq_none :
    r.holder? t = none ↔ ∀ profile, r.residents[t.id]? ≠ some ⟨t, profile⟩ := by
  rw [holder?, Option.filter_eq_none_iff]
  constructor
  · intro h profile hres
    exact h _ hres (by simp)
  · rintro h ⟨t', profile⟩ hres htrue
    obtain rfl : t' = t := by simpa using htrue
    exact h profile hres

/-! ## Consistency -/

/-- The feature multisets are those of the residents, and candidates are residents. -/
structure Consistent (r : Roster) : Prop where
  /-- The multisets hold the features of the residents. -/
  census : Census r.residents r.counts r.entered r.sizes
  /-- Residents are filed under the id of their ticket. -/
  ticket_id : ∀ (id : ObjectId) resident, r.residents[id]? = some resident → resident.ticket.id = id
  /-- The two sides of the queue agree. -/
  coherent : r.queue.Coherent
  /-- Every candidate is a resident, under the ticket it was admitted with. -/
  queued : ∀ (t : Ticket) p, r.queue.priority? t = some p →
    ∃ profile, r.residents[t.id]? = some ⟨t, profile⟩

lemma consistent_empty (scorer : Scorer) (budget : UInt64) : (empty scorer budget).Consistent where
  census := Census.empty
  ticket_id := fun id resident h => by simp [empty] at h
  coherent := VictimQueue.coherent_empty
  queued := fun t p h => by
    rw [show (empty scorer budget).queue = ∅ from rfl, VictimQueue.priority?_empty] at h
    simp at h

/-! ## Scoring -/

lemma enqueue_eq_ok : r.enqueue now t profile = .ok r' ↔
    ∃ p, r.scorer.priority (r.scene now t.id profile) = .ok p ∧
      r' = { r with queue := r.queue.set t p } := by
  rw [enqueue, bind_eq_ok]
  refine exists_congr fun p => and_congr_right fun _ => ?_
  rw [Except.ok.injEq, eq_comm]

/-- A resident that is queued under its ticket keeps the roster consistent. -/
lemma Consistent.enqueue (h : r.Consistent) (hres : r.residents[t.id]? = some ⟨t, profile⟩)
    (p : Priority) : Consistent { r with queue := r.queue.set t p } where
  census := h.census
  ticket_id := h.ticket_id
  coherent := h.coherent.set t p
  queued := fun t' p' hp => by
    rw [VictimQueue.priority?_set] at hp
    split at hp
    · next heq => exact heq ▸ ⟨profile, hres⟩
    · exact h.queued t' p' hp

/-! ## Insertion -/

/-- The roster with an object on it that has not been scored yet. -/
def seat (r : Roster) (now : UInt64) (t : Ticket) (size : UInt64) : Roster :=
  { r with
    residents := r.residents.insert t.id ⟨t, .start now size⟩
    counts := r.counts.insert (Profile.start now size).accesses
    entered := r.entered.insert (Profile.start now size).entered
    sizes := r.sizes.insert (Profile.start now size).size }

/-- An object that is on the roster already is not inserted again. -/
lemma insert_of_mem (h : t.id ∈ r.residents) : r.insert now t size = .ok r := by
  rw [insert, if_pos (Std.TreeMap.contains_iff_mem.mpr h)]

/-- A new object is put on the roster and scored there. -/
lemma insert_of_not_mem (h : t.id ∉ r.residents) :
    r.insert now t size = (r.seat now t size).enqueue now t (.start now size) := by
  rw [insert, if_neg (mt Std.TreeMap.contains_iff_mem.mp h)]
  rfl

lemma Consistent.seat (h : r.Consistent) (hnew : t.id ∉ r.residents) :
    (r.seat now t size).Consistent where
  census := h.census.insert hnew
  ticket_id := fun id resident hres => by
    rcases Table.getElem?_insert_eq_some.mp hres with ⟨rfl, rfl⟩ | ⟨-, hres⟩
    · rfl
    · exact h.ticket_id id resident hres
  coherent := h.coherent
  queued := fun t' p hp => by
    obtain ⟨profile, hres⟩ := h.queued t' p hp
    have hne : t.id ≠ t'.id := fun heq => hnew (Table.mem_iff_exists.mpr ⟨_, heq ▸ hres⟩)
    exact ⟨profile, Table.getElem?_insert_eq_some.mpr (Or.inr ⟨hne, hres⟩)⟩

lemma residents_seat : (r.seat now t size).residents[t.id]? = some ⟨t, .start now size⟩ :=
  Std.TreeMap.getElem?_insert_self

/-! ## Access -/

/-- The roster with new features of an object that have not been scored yet. -/
def reseat (r : Roster) (now : UInt64) (t : Ticket) (profile : Profile) : Roster :=
  { r with
    residents := r.residents.insert t.id ⟨t, profile.touch now⟩
    counts := (r.counts.erase profile.accesses).insert (profile.touch now).accesses }

/-- A ticket without a holder is not touched. -/
lemma touch_of_not_holder (h : r.holder? t = none) : r.touch now t = .ok r := by
  rw [touch, h]

/-- A resident is touched and scored again. -/
lemma touch_of_holder (h : r.residents[t.id]? = some ⟨t, profile⟩) :
    r.touch now t = (r.reseat now t profile).enqueue now t (profile.touch now) := by
  have hholder : r.holder? t = some ⟨t, profile⟩ := holder?_eq_some.mpr ⟨h, rfl⟩
  rw [touch, hholder]
  rfl

lemma residents_reseat :
    (r.reseat now t profile).residents[t.id]? = some ⟨t, profile.touch now⟩ :=
  Std.TreeMap.getElem?_insert_self

lemma Consistent.reseat (h : r.Consistent) (hres : r.residents[t.id]? = some ⟨t, profile⟩) :
    (r.reseat now t profile).Consistent where
  census := by
    -- the admission time and the size of an object stay as they are
    have hentered : (profile.touch now).entered = profile.entered := rfl
    have hsize : (profile.touch now).size = profile.size := rfl
    have hcensus := h.census.replace (t := t) hres hentered hsize
    exact hcensus
  ticket_id := fun id resident hid => by
    rcases Table.getElem?_insert_eq_some.mp hid with ⟨rfl, rfl⟩ | ⟨-, hid⟩
    · rfl
    · exact h.ticket_id id resident hid
  coherent := h.coherent
  queued := fun t' p hp => by
    obtain ⟨profile', hres'⟩ := h.queued t' p hp
    by_cases heq : t.id = t'.id
    · -- the object of `t'` is that of `t`, so it was admitted under both tickets
      rw [← heq, hres] at hres'
      obtain ⟨rfl, -⟩ := Resident.mk.inj (Option.some.inj hres')
      exact ⟨_, residents_reseat⟩
    · exact ⟨profile', Table.getElem?_insert_eq_some.mpr (Or.inr ⟨heq, hres'⟩)⟩

/-! ## Eviction -/

/-- The ghost that an object leaves when it is evicted. -/
def ghostOf (now : UInt64) (id : ObjectId) (profile : Profile) : Ghost :=
  ⟨id, profile.size, profile.accesses, profile.age now⟩

/-- The roster without an object, with the given ghosts. -/
def unseat (r : Roster) (t : Ticket) (profile : Profile) (ghosts : GhostLog) : Roster :=
  { r with
    residents := r.residents.erase t.id
    queue := r.queue.erase t
    ghosts := ghosts
    counts := r.counts.erase profile.accesses
    entered := r.entered.erase profile.entered
    sizes := r.sizes.erase profile.size }

/-- A ticket without a holder is not evicted. -/
lemma evict_of_not_holder (h : r.holder? t = none) : r.evict now t = .ok r := by
  rw [evict, h]

/-- A resident leaves the roster and its queue and becomes a ghost. -/
lemma evict_of_holder (h : r.residents[t.id]? = some ⟨t, profile⟩) :
    r.evict now t = r.unseat t profile <$> r.ghosts.record (ghostOf now t.id profile) := by
  have hholder : r.holder? t = some ⟨t, profile⟩ := holder?_eq_some.mpr ⟨h, rfl⟩
  rw [evict, hholder]
  change (r.ghosts.record (ghostOf now t.id profile) >>= fun ghosts =>
    .ok (r.unseat t profile ghosts)) = _
  cases r.ghosts.record (ghostOf now t.id profile) <;> rfl

/-- A resident that has been popped is evicted as if it still were in the queue. -/
lemma evict_popped (h : r.residents[t.id]? = some ⟨t, profile⟩) :
    evict { r with queue := r.queue.erase t } now t =
      r.unseat t profile <$> r.ghosts.record (ghostOf now t.id profile) := by
  have hqueue : (r.queue.erase t).erase t = r.queue.erase t :=
    VictimQueue.erase_of_priority?_eq_none (by rw [VictimQueue.priority?_erase, if_pos rfl])
  have hunseat : unseat { r with queue := r.queue.erase t } t profile = r.unseat t profile := by
    funext ghosts
    simp only [unseat, hqueue]
  rw [evict_of_holder (r := { r with queue := r.queue.erase t }) h, hunseat]

lemma Consistent.unseat (h : r.Consistent) (hres : r.residents[t.id]? = some ⟨t, profile⟩)
    (ghosts : GhostLog) : (r.unseat t profile ghosts).Consistent where
  census := h.census.erase hres
  ticket_id := fun id resident hid =>
    h.ticket_id id resident (Table.getElem?_erase_eq_some.mp hid).2
  coherent := h.coherent.erase t
  queued := fun t' p hp => by
    obtain ⟨hne, hp⟩ := VictimQueue.priority?_erase_eq_some.mp hp
    obtain ⟨profile', hres'⟩ := h.queued t' p hp
    have hother : t.id ≠ t'.id := by
      intro heq
      -- two tickets of one object cannot both be held
      rw [← heq, hres] at hres'
      exact hne (Resident.mk.inj (Option.some.inj hres')).1
    exact ⟨profile', Table.getElem?_erase_eq_some.mpr ⟨hother, hres'⟩⟩

/-! ## Popping and clearing -/

/-- The next victim is the first candidate; it leaves the queue and stays on the roster. -/
lemma popVictim?_eq_some (h : r.Consistent) (hpop : r.popVictim? = some (t, r')) :
    ∃ p, r.queue.IsFirst t p ∧ r' = { r with queue := r.queue.erase t } := by
  rw [popVictim?, Option.map_eq_some_iff] at hpop
  obtain ⟨⟨⟨p, ticket⟩, queue⟩, hqueue, heq⟩ := hpop
  obtain ⟨rfl, rfl⟩ := Prod.mk.inj heq
  obtain ⟨hfirst, rfl⟩ := h.coherent.pop?_eq_some.mp hqueue
  exact ⟨p, hfirst, rfl⟩

lemma popVictim?_eq_none (h : r.Consistent) :
    r.popVictim? = none ↔ ∀ t, r.queue.priority? t = none := by
  rw [popVictim?, Option.map_eq_none_iff, h.coherent.pop?_eq_none]

/-- A candidate that is taken out of the queue stays on the roster. -/
lemma Consistent.dequeue (h : r.Consistent) (t : Ticket) :
    Consistent { r with queue := r.queue.erase t } where
  census := h.census
  ticket_id := h.ticket_id
  coherent := h.coherent.erase t
  queued := fun t' p hp => h.queued t' p (VictimQueue.priority?_erase_eq_some.mp hp).2

lemma Consistent.clear (r : Roster) : r.clear.Consistent where
  census := ⟨RankTree.Holds.clear _, RankTree.Holds.clear _, RankTree.Holds.clear _⟩
  ticket_id := fun id resident h => by simp [Roster.clear] at h
  coherent := VictimQueue.coherent_empty
  queued := fun t p h => by
    rw [show r.clear.queue = ∅ from rfl, VictimQueue.priority?_empty] at h
    simp at h

end Roster
end CacheSim
