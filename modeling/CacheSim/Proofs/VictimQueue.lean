import CacheSim.Proofs.Tables
import CacheSim.VictimQueue

/-!
# The queue of victims as a map from tickets to priorities

A queue keeps an ordered set of candidates and a map from tickets to priorities.  It is
`VictimQueue.Coherent` when the two describe the same assignment of priorities to tickets; every
operation keeps that, and is described here by what it does to `VictimQueue.priority?`.

* `VictimQueue.priority?_set`, `VictimQueue.priority?_erase`: one ticket changes, no other;
* `VictimQueue.Coherent.toList_of_isFirst`: the candidates are listed in their order;
* `VictimQueue.Coherent.pop?_eq_some`: the popped candidate is the first one, and is erased;
* `VictimQueue.Coherent.pop?_eq_none`: nothing is popped exactly when nothing is queued.
-/

namespace CacheSim

/-- Lists in strict order with the same members are equal. -/
lemma eq_of_pairwise_lt {α : Type} [Ord α] [Std.TransOrd α] {l l' : List α}
    (hl : l.Pairwise fun a b => compare a b = .lt) (hl' : l'.Pairwise fun a b => compare a b = .lt)
    (hmem : ∀ a, a ∈ l ↔ a ∈ l') : l = l' := by
  have hnodup : ∀ {l : List α}, l.Pairwise (fun a b => compare a b = .lt) → l.Nodup :=
    fun h => h.imp fun hlt heq => by simp [heq, Std.ReflCmp.compare_self] at hlt
  refine List.Perm.eq_of_pairwise (fun a b _ _ hlt hgt => ?_) hl hl'
    ((List.perm_ext_iff_of_nodup (hnodup hl) (hnodup hl')).mpr hmem)
  exact absurd hgt (by simp [Std.OrientedCmp.gt_of_lt hlt])

variable {α : Type} [Ord α] [Std.TransOrd α] [Std.LawfulEqOrd α]

namespace Candidate

omit [Std.TransOrd α] [Std.LawfulEqOrd α] in
lemma compare_eq_lt {a b : Candidate α} :
    compare a b = .lt ↔
      a.priority < b.priority ∨ a.priority = b.priority ∧ compare a.ticket b.ticket = .lt := by
  change (compare a.priority b.priority).then (compare a.ticket b.ticket) = .lt ↔ _
  rw [Ordering.then_eq_lt, Std.compare_eq_lt, Std.compare_eq_iff_eq]

end Candidate

namespace VictimQueue

variable {q q' : VictimQueue α} {t t' : α} {p : Priority} {c : Candidate α}

/-- The ordered set and the map describe the same priorities. -/
structure Coherent (q : VictimQueue α) : Prop where
  mem_order : ∀ c : Candidate α, c ∈ q.order ↔ q.priority? c.ticket = some c.priority

/-! ## What an operation does to the priorities -/

omit [Std.LawfulEqOrd α] in
lemma priority?_empty (t : α) : (∅ : VictimQueue α).priority? t = none :=
  Std.TreeMap.getElem?_emptyc

lemma priority?_set [DecidableEq α] (q : VictimQueue α) (t t' : α) (p : Priority) :
    (q.set t p).priority? t' = if t = t' then some p else q.priority? t' := by
  rw [priority?, set, Std.TreeMap.getElem?_insert]
  simp only [Std.compare_eq_iff_eq]
  rfl

lemma priority?_erase [DecidableEq α] (q : VictimQueue α) (t t' : α) :
    (q.erase t).priority? t' = if t = t' then none else q.priority? t' := by
  rw [erase]
  split
  · next h =>
    split
    · next heq => exact heq ▸ h
    · rfl
  · rw [priority?, Std.TreeMap.getElem?_erase]
    simp only [Std.compare_eq_iff_eq]
    rfl

lemma priority?_erase_eq_some :
    (q.erase t).priority? t' = some p ↔ t ≠ t' ∧ q.priority? t' = some p := by
  classical
  rw [priority?_erase]
  split <;> simp [*]

omit [Std.TransOrd α] [Std.LawfulEqOrd α] in
/-- A ticket that is not queued can be erased without effect. -/
lemma erase_of_priority?_eq_none (h : q.priority? t = none) : q.erase t = q := by
  rw [erase, show q.priorities[t]? = none from h]

/-! ## Coherence -/

omit [Std.LawfulEqOrd α] in
lemma coherent_empty : (∅ : VictimQueue α).Coherent := by
  refine ⟨fun c => ?_⟩
  rw [priority?_empty]
  exact iff_of_false Std.TreeSet.not_mem_emptyc (by simp)

lemma Coherent.erase (h : q.Coherent) (t : α) : (q.erase t).Coherent := by
  classical
  refine ⟨fun c => ?_⟩
  rw [priority?_erase]
  rw [VictimQueue.erase]
  split
  · next hnone =>
    rw [h.mem_order]
    split
    · next heq => simp [← heq, priority?, hnone]
    · rfl
  · next old hold =>
    change c ∈ q.order.erase ⟨old, t⟩ ↔ _
    rw [Std.TreeSet.mem_erase, h.mem_order, Ne, Std.compare_eq_iff_eq]
    split
    · next heq =>
      subst heq
      have hpri : q.priority? c.ticket = some old := hold
      rw [hpri, Option.some.injEq]
      constructor
      · rintro ⟨hne, rfl⟩
        exact absurd rfl hne
      · simp
    · next hne =>
      have hne' : (⟨old, t⟩ : Candidate α) ≠ c := fun heq => hne (heq ▸ rfl)
      simp [hne']

omit [Std.TransOrd α] [Std.LawfulEqOrd α] in
lemma set_eq_insert (q : VictimQueue α) (t : α) (p : Priority) :
    (q.set t p).order = (q.erase t).order.insert ⟨p, t⟩ := by
  rw [set, erase]
  split <;> rfl

lemma Coherent.set (h : q.Coherent) (t : α) (p : Priority) : (q.set t p).Coherent := by
  classical
  refine ⟨fun c => ?_⟩
  rw [set_eq_insert, Std.TreeSet.mem_insert, (h.erase t).mem_order, priority?_set,
    priority?_erase, Std.compare_eq_iff_eq]
  split
  · next heq =>
    subst heq
    cases c
    simp
  · next hne =>
    have hne' : (⟨p, t⟩ : Candidate α) ≠ c := fun heq => hne (heq ▸ rfl)
    simp [hne']

/-! ## Contents -/

lemma Coherent.mem_toList (h : q.Coherent) :
    c ∈ q.toList ↔ q.priority? c.ticket = some c.priority := by
  rw [toList, Std.TreeSet.mem_toList, h.mem_order]

/-- The queued tickets, the next victim first. -/
def tickets (q : VictimQueue α) : List α :=
  q.toList.map Candidate.ticket

lemma Coherent.mem_tickets (h : q.Coherent) : t ∈ q.tickets ↔ ∃ p, q.priority? t = some p := by
  rw [tickets, List.mem_map]
  constructor
  · rintro ⟨c, hc, rfl⟩
    exact ⟨c.priority, h.mem_toList.mp hc⟩
  · rintro ⟨p, hp⟩
    exact ⟨⟨p, t⟩, h.mem_toList.mpr hp, rfl⟩

omit [Std.LawfulEqOrd α] in
lemma length_tickets (q : VictimQueue α) : q.tickets.length = q.size := by
  rw [tickets, List.length_map, toList, Std.TreeSet.length_toList, size]

/-- No ticket is queued twice. -/
lemma Coherent.nodup_tickets (h : q.Coherent) : q.tickets.Nodup := by
  rw [tickets, List.Nodup, List.pairwise_map]
  refine List.Pairwise.imp_of_mem ?_ Std.TreeSet.distinct_toList
  intro a b ha hb hne heq
  have hpa := h.mem_toList.mp ha
  rw [heq, h.mem_toList.mp hb, Option.some.injEq] at hpa
  refine hne (Std.compare_eq_iff_eq.mpr ?_)
  cases a; cases b
  simp_all

/-- The queue has as many candidates as there are tickets with a priority. -/
lemma Coherent.size_eq (h : q.Coherent) : q.size = q.priorities.size := by
  have hperm : q.tickets.Perm (q.priorities.toList.map Prod.fst) := by
    refine (List.perm_ext_iff_of_nodup h.nodup_tickets (Table.nodup_keys _)).mpr fun t => ?_
    rw [Std.TreeMap.map_fst_toList_eq_keys, Std.TreeMap.mem_keys, Table.mem_iff_exists,
      h.mem_tickets]
    rfl
  have hlen := hperm.length_eq
  rwa [length_tickets, List.length_map, Std.TreeMap.length_toList] at hlen

/-- An erased candidate makes the queue smaller by one. -/
lemma Coherent.size_erase (h : q.Coherent) (ht : q.priority? t = some p) :
    (q.erase t).size + 1 = q.size := by
  have herase : (q.erase t).priorities = q.priorities.erase t := by
    rw [VictimQueue.erase, show q.priorities[t]? = some p from ht]
  rw [(h.erase t).size_eq, h.size_eq, herase]
  exact Table.size_erase_of_getElem? ht

/-! ## Popping -/

/-- A ticket is queued, and goes before every other one. -/
structure IsFirst (q : VictimQueue α) (t : α) (p : Priority) : Prop where
  queued : q.priority? t = some p
  before : ∀ t' p', q.priority? t' = some p' → t' ≠ t →
    compare (⟨p, t⟩ : Candidate α) ⟨p', t'⟩ = .lt

omit [Std.LawfulEqOrd α] in
/-- No two tickets go before each other. -/
lemma IsFirst.eq {p' : Priority} (h : q.IsFirst t p) (h' : q.IsFirst t' p') : t = t' := by
  by_contra hne
  have hlt := h.before t' p' h'.queued (Ne.symm hne)
  have hlt' := h'.before t p h.queued hne
  exact absurd (Std.OrientedCmp.gt_of_lt hlt) (by simp [hlt'])

omit [Std.LawfulEqOrd α] in
/-- The candidates are listed in their order. -/
lemma pairwise_toList (q : VictimQueue α) : q.toList.Pairwise fun c c' => compare c c' = .lt :=
  Std.TreeSet.ordered_toList

/-- The candidate that goes before all others stands before them on the list. -/
lemma Coherent.toList_of_isFirst (h : q.Coherent) (hfirst : q.IsFirst t p) :
    q.toList = ⟨p, t⟩ :: (q.erase t).toList := by
  have hmem : ∀ c ∈ (q.erase t).toList, t ≠ c.ticket ∧ q.priority? c.ticket = some c.priority :=
    fun c hc => priority?_erase_eq_some.mp ((h.erase t).mem_toList.mp hc)
  have hsorted : ((⟨p, t⟩ : Candidate α) :: (q.erase t).toList).Pairwise
      fun c c' => compare c c' = .lt := by
    refine List.pairwise_cons.mpr ⟨fun c hc => ?_, pairwise_toList _⟩
    obtain ⟨hne, hp⟩ := hmem c hc
    exact hfirst.before _ _ hp (Ne.symm hne)
  refine eq_of_pairwise_lt (pairwise_toList q) hsorted fun c => ?_
  rw [h.mem_toList, List.mem_cons, (h.erase t).mem_toList, priority?_erase_eq_some]
  by_cases heq : t = c.ticket
  · subst heq
    rw [hfirst.queued, Option.some.injEq]
    constructor
    · rintro rfl
      exact Or.inl rfl
    · rintro (hc | ⟨hne, -⟩)
      · exact (congrArg Candidate.priority hc).symm
      · exact absurd rfl hne
  · have hne : c ≠ ⟨p, t⟩ := fun hc => heq (by rw [hc])
    simp [heq, hne]

lemma Coherent.isFirst_of_min? (h : q.Coherent) (hmin : q.order.min? = some c) :
    q.IsFirst c.ticket c.priority := by
  obtain ⟨hmem, hle⟩ := Std.TreeSet.min?_eq_some_iff_mem_and_forall.mp hmin
  refine ⟨(h.mem_order c).mp hmem, fun t p ht hne => ?_⟩
  have hd := hle ⟨p, t⟩ ((h.mem_order _).mpr ht)
  rw [Ordering.isLE_iff_eq_lt_or_eq_eq] at hd
  rcases hd with hd | hd
  · exact hd
  · rw [Std.compare_eq_iff_eq] at hd
    exact absurd (hd ▸ rfl) hne

omit [Std.LawfulEqOrd α] in
lemma Coherent.pop?_eq_none (h : q.Coherent) : q.pop? = none ↔ ∀ t, q.priority? t = none := by
  rw [pop?, Option.map_eq_none_iff, Std.TreeSet.min?_eq_none_iff]
  constructor
  · intro hempty t
    rw [Option.eq_none_iff_forall_ne_some]
    intro p hp
    exact Std.TreeSet.not_mem_of_isEmpty hempty ((h.mem_order ⟨p, t⟩).mpr hp)
  · intro hnone
    rw [Std.TreeSet.isEmpty_iff_forall_not_mem]
    intro c hc
    rw [h.mem_order, hnone] at hc
    simp at hc

/-- The popped candidate is the first one, and is erased. -/
lemma Coherent.pop?_eq_some (h : q.Coherent) :
    q.pop? = some (c, q') ↔ q.IsFirst c.ticket c.priority ∧ q' = q.erase c.ticket := by
  have hpopped : ∀ c', q.order.min? = some c' →
      (⟨q.order.erase c', q.priorities.erase c'.ticket⟩ : VictimQueue α) = q.erase c'.ticket := by
    intro c' hmin
    have hpri := (h.isFirst_of_min? hmin).queued
    rw [VictimQueue.erase, show q.priorities[c'.ticket]? = some c'.priority from hpri]
  rw [pop?, Option.map_eq_some_iff]
  constructor
  · rintro ⟨c', hmin, heq⟩
    obtain ⟨rfl, rfl⟩ := Prod.mk.inj heq
    exact ⟨h.isFirst_of_min? hmin, hpopped c' hmin⟩
  · rintro ⟨hfirst, rfl⟩
    cases hmin : q.order.min? with
    | none =>
      have hempty := h.pop?_eq_none.mp (by rw [pop?, hmin]; rfl)
      exact absurd hfirst.queued (by simp [hempty])
    | some c' =>
      have hfirst' := h.isFirst_of_min? hmin
      have hticket : c'.ticket = c.ticket := hfirst'.eq hfirst
      have hpriority : c'.priority = c.priority := by
        have hpri := hfirst'.queued
        rw [hticket, hfirst.queued] at hpri
        exact (Option.some.inj hpri).symm
      refine ⟨c', rfl, ?_⟩
      rw [hpopped c' hmin, hticket]
      cases c; cases c'
      simp_all

end VictimQueue
end CacheSim
