import CacheSim.Proofs.VictimQueue

/-!
# Queues of victims as ordered lists

A queue is changed by four calls: a ticket is queued under a priority, a ticket is taken out, the
first candidate is taken out, everything is taken out.  The calls do the same to a plain list of
candidates that is kept in order, and whatever is asked of the queue after any calls can be read off
that list.  So the ordered set and the map from tickets never come apart, and taking out one first
candidate after the other goes through the list.

* `VictimQueue.Call.perform`, `VictimQueue.Call.list`: a call to a queue, and to an ordered list;
* `VictimQueue.Coherent.toList_perform`: one call does the same to both;
* `VictimQueue.Coherent.drains_iff`: a queue that is drained gives its candidates in order;
* `VictimQueue.ordered_map_after_calls`: the queue after any calls is the list after them.
-/

namespace CacheSim
namespace VictimQueue

variable {α : Type}

/-- A call that changes a queue. -/
inductive Call (α : Type) where
  /-- A ticket is queued under a priority, in place of the one it was queued under. -/
  | set (t : α) (p : Priority)
  /-- A ticket is taken out, if it is queued. -/
  | remove (t : α)
  /-- The first candidate is taken out, if there is one. -/
  | pop
  /-- All candidates are taken out. -/
  | clear

variable [Ord α]

/-- Makes a call. -/
def Call.perform (q : VictimQueue α) : Call α → VictimQueue α
  | .set t p => q.set t p
  | .remove t => (q.remove t).2
  | .pop => (q.pop?.map Prod.snd).getD q
  | .clear => ∅

/-- The candidates with other tickets. -/
def others (l : List (Candidate α)) (t : α) : List (Candidate α) :=
  l.filter fun c => compare c.ticket t != .eq

/-- What a call does to an ordered list of candidates. -/
def Call.list (l : List (Candidate α)) : Call α → List (Candidate α)
  | .set t p => (others l t).orderedInsert (fun c c' => compare c c' = .lt) ⟨p, t⟩
  | .remove t => others l t
  | .pop => l.tail
  | .clear => []

/-- The first candidate is taken out again and again until there is none. -/
inductive Drains : VictimQueue α → List (Candidate α) → Prop where
  | done {q : VictimQueue α} : q.pop? = none → Drains q []
  | next {q q' : VictimQueue α} {c : Candidate α} {l : List (Candidate α)} :
      q.pop? = some (c, q') → Drains q' l → Drains q (c :: l)

/-- Candidates in their order, of which no two have the same ticket. -/
structure Ordered (l : List (Candidate α)) : Prop where
  ascending : l.Pairwise fun c c' => compare c c' = .lt
  nodup : (l.map Candidate.ticket).Nodup

/-- The ordered set and the map hold the candidates of a list, and the answers can be read off it. -/
structure Reads (q : VictimQueue α) (l : List (Candidate α)) : Prop where
  order : q.order.toList = l
  priorities : q.priorities.toList.Perm (l.map fun c => (c.ticket, c.priority))
  size : q.size = l.length
  size_priorities : q.priorities.size = l.length
  isEmpty : q.isEmpty = l.isEmpty
  first? : q.first? = l.head?
  priority?_iff : ∀ t p, q.priority? t = some p ↔ ⟨p, t⟩ ∈ l
  contains_iff : ∀ t, q.contains t = true ↔ ∃ c ∈ l, c.ticket = t

/-- What a call would change. -/
structure Changes (q : VictimQueue α) : Prop where
  set : ∀ t p, (q.set t p).priority? t = some p ∧
    ∀ t', t' ≠ t → (q.set t p).priority? t' = q.priority? t'
  /-- A ticket may be queued again under the priority that it has. -/
  set_same : ∀ t p, q.priority? t = some p → (q.set t p).toList = q.toList
  remove : ∀ t, (q.remove t).1 = q.priority? t ∧ (q.remove t).2.priority? t = none ∧
    ∀ t', t' ≠ t → (q.remove t).2.priority? t' = q.priority? t'
  remove_of_none : ∀ t, q.priority? t = none → (q.remove t).2 = q
  pop?_none : q.pop? = none ↔ ∀ t, q.priority? t = none
  pop?_some : ∀ c q', q.pop? = some (c, q') →
    q.first? = some c ∧ q.IsFirst c.ticket c.priority ∧ q' = (q.remove c.ticket).2

variable [Std.TransOrd α] [Std.LawfulEqOrd α]
variable {q q' : VictimQueue α} {t : α} {p : Priority} {c : Candidate α} {l : List (Candidate α)}

/-! ## Ordered lists -/

omit [Std.TransOrd α] in
lemma mem_others : c ∈ others l t ↔ c ∈ l ∧ c.ticket ≠ t := by
  rw [others, List.mem_filter, bne_iff_ne, Ne, Std.compare_eq_iff_eq]

omit [Std.LawfulEqOrd α] in
/-- A candidate that is put before the first greater one keeps a list in order. -/
lemma pairwise_orderedInsert (hl : l.Pairwise fun c c' => compare c c' = .lt)
    (hc : ∀ c' ∈ l, compare c c' ≠ .eq) :
    (l.orderedInsert (fun c c' => compare c c' = .lt) c).Pairwise
      fun c c' => compare c c' = .lt := by
  induction l with
  | nil => exact List.pairwise_singleton _ _
  | cons first rest ih =>
    obtain ⟨hfirst, hrest⟩ := List.pairwise_cons.mp hl
    obtain ⟨hne, hothers⟩ := List.forall_mem_cons.mp hc
    rw [List.orderedInsert]
    split
    · next hlt =>
      refine List.pairwise_cons.mpr ⟨List.forall_mem_cons.mpr ⟨hlt, fun c' hc' => ?_⟩, hl⟩
      exact Std.TransCmp.lt_trans hlt (hfirst c' hc')
    · next hnot =>
      have hgt : compare first c = .lt := by
        cases hcmp : compare c first with
        | lt => exact absurd hcmp hnot
        | eq => exact absurd hcmp hne
        | gt => exact Std.OrientedCmp.gt_iff_lt.mp hcmp
      refine List.pairwise_cons.mpr ⟨fun c' hc' => ?_, ih hrest hothers⟩
      rcases (List.mem_orderedInsert _).mp hc' with rfl | hmem
      · exact hgt
      · exact hfirst c' hmem

/-! ## Calls -/

/-- An erased ticket takes its candidate with it. -/
lemma Coherent.toList_erase (h : q.Coherent) (t : α) :
    (q.erase t).toList = others q.toList t := by
  refine eq_of_pairwise_lt (pairwise_toList _) ((pairwise_toList q).filter _) fun c => ?_
  rw [(h.erase t).mem_toList, priority?_erase_eq_some, mem_others, h.mem_toList, and_comm, ne_comm]

/-- A candidate that is put in replaces the one with the same ticket. -/
lemma Coherent.toList_set (h : q.Coherent) (t : α) (p : Priority) :
    (q.set t p).toList =
      (others q.toList t).orderedInsert (fun c c' => compare c c' = .lt) ⟨p, t⟩ := by
  have hother : ∀ c ∈ others q.toList t, compare (⟨p, t⟩ : Candidate α) c ≠ .eq := by
    intro c hc heq
    rw [Std.compare_eq_iff_eq] at heq
    exact (mem_others.mp hc).2 (heq ▸ rfl)
  have hordered := pairwise_orderedInsert ((pairwise_toList q).filter _) hother
  refine eq_of_pairwise_lt (pairwise_toList _) hordered fun c => ?_
  rw [List.mem_orderedInsert, ← h.toList_erase, toList, toList, set_eq_insert,
    Std.TreeSet.mem_toList, Std.TreeSet.mem_toList, Std.TreeSet.mem_insert,
    Std.compare_eq_iff_eq, eq_comm]

lemma Coherent.toList_of_pop?_none (h : q.Coherent) (hpop : q.pop? = none) : q.toList = [] := by
  refine List.eq_nil_iff_forall_not_mem.mpr fun c hc => ?_
  have hqueued := h.mem_toList.mp hc
  simp [h.pop?_eq_none.mp hpop] at hqueued

lemma Coherent.toList_of_pop?_some (h : q.Coherent) (hpop : q.pop? = some (c, q')) :
    q.toList = c :: q'.toList := by
  obtain ⟨hfirst, rfl⟩ := h.pop?_eq_some.mp hpop
  exact h.toList_of_isFirst hfirst

lemma Coherent.popped (h : q.Coherent) (hpop : q.pop? = some (c, q')) : q'.Coherent := by
  obtain ⟨-, rfl⟩ := h.pop?_eq_some.mp hpop
  exact h.erase c.ticket

lemma Coherent.perform (h : q.Coherent) (call : Call α) : (call.perform q).Coherent := by
  cases call with
  | set t p => exact h.set t p
  | remove t => exact h.erase t
  | pop =>
    rw [Call.perform]
    cases hpop : q.pop? with
    | none => exact h
    | some popped => exact h.popped hpop
  | clear => exact coherent_empty

/-- A call does the same to a queue and to the list of its candidates. -/
lemma Coherent.toList_perform (h : q.Coherent) (call : Call α) :
    (call.perform q).toList = call.list q.toList := by
  cases call with
  | set t p => exact h.toList_set t p
  | remove t => exact h.toList_erase t
  | pop =>
    rw [Call.perform, Call.list]
    cases hpop : q.pop? with
    | none =>
      rw [h.toList_of_pop?_none hpop]
      exact h.toList_of_pop?_none hpop
    | some popped =>
      rw [h.toList_of_pop?_some hpop]
      rfl
  | clear => rfl

/-- After any calls a queue holds the candidates of the list after them. -/
lemma toList_after_calls (calls : List (Call α)) :
    (calls.foldl Call.perform ∅).Coherent ∧
      (calls.foldl Call.perform ∅).toList = calls.foldl Call.list [] := by
  induction calls using List.reverseRecOn with
  | nil => exact ⟨coherent_empty, rfl⟩
  | append_singleton calls call ih =>
    obtain ⟨hcoherent, hlist⟩ := ih
    rw [List.foldl_concat, List.foldl_concat, ← hlist]
    exact ⟨hcoherent.perform call, hcoherent.toList_perform call⟩

/-! ## Draining -/

/-- A queue that is drained gives its candidates in order. -/
lemma Coherent.drains_iff (h : q.Coherent) : q.Drains l ↔ l = q.toList := by
  constructor
  · intro hdrains
    induction hdrains with
    | done hpop => exact (h.toList_of_pop?_none hpop).symm
    | next hpop _ ih => rw [h.toList_of_pop?_some hpop, ih (h.popped hpop)]
  · intro hl
    induction l generalizing q with
    | nil =>
      cases hpop : q.pop? with
      | none => exact .done hpop
      | some popped => simp [h.toList_of_pop?_some hpop] at hl
    | cons c l ih =>
      cases hpop : q.pop? with
      | none => simp [h.toList_of_pop?_none hpop] at hl
      | some popped =>
        rw [h.toList_of_pop?_some hpop] at hl
        obtain ⟨rfl, hrest⟩ := List.cons.inj hl
        exact .next hpop (ih (h.popped hpop) hrest)

/-! ## Answers -/

lemma Coherent.ordered (h : q.Coherent) : Ordered q.toList :=
  ⟨pairwise_toList q, h.nodup_tickets⟩

lemma Coherent.reads (h : q.Coherent) : q.Reads q.toList := by
  have hlength : q.size = q.toList.length := by
    rw [toList, Std.TreeSet.length_toList, size]
  refine ⟨rfl, ?_, hlength, h.size_eq.symm.trans hlength, Std.TreeSet.isEmpty_toList.symm,
    Std.TreeSet.min?_eq_head?_toList, fun t p => (h.mem_toList (c := ⟨p, t⟩)).symm, fun t => ?_⟩
  · -- the entries of the map are the candidates, and neither are listed twice
    have hnodup : (q.toList.map fun c => (c.ticket, c.priority)).Nodup := by
      refine List.Nodup.of_map Prod.fst ?_
      rw [List.map_map]
      exact h.nodup_tickets
    refine (List.perm_ext_iff_of_nodup (Table.nodup_toList _) hnodup).mpr ?_
    rintro ⟨t, p⟩
    rw [Table.mem_toList, List.mem_map]
    constructor
    · intro hqueued
      exact ⟨⟨p, t⟩, h.mem_toList.mpr hqueued, rfl⟩
    · rintro ⟨c, hc, heq⟩
      obtain ⟨rfl, rfl⟩ := Prod.mk.inj heq
      exact h.mem_toList.mp hc
  · rw [contains, Std.TreeMap.contains_iff_mem, Table.mem_iff_exists, ← List.mem_map]
    exact h.mem_tickets.symm

lemma Coherent.changes (h : q.Coherent) : q.Changes := by
  classical
  refine ⟨fun t p => ⟨?_, fun t' hne => ?_⟩, fun t p hp => ?_, fun t => ⟨rfl, ?_, fun t' hne => ?_⟩,
    fun t => erase_of_priority?_eq_none, h.pop?_eq_none, fun c q' hpop => ?_⟩
  · rw [priority?_set, if_pos rfl]
  · rw [priority?_set, if_neg (Ne.symm hne)]
  · refine eq_of_pairwise_lt (pairwise_toList _) (pairwise_toList q) fun c => ?_
    rw [(h.set t p).mem_toList, h.mem_toList, priority?_set]
    split
    · next heq => rw [← heq, hp]
    · rfl
  · exact (priority?_erase q t t).trans (if_pos rfl)
  · exact (priority?_erase q t t').trans (if_neg (Ne.symm hne))
  · obtain ⟨hfirst, hrest⟩ := h.pop?_eq_some.mp hpop
    refine ⟨?_, hfirst, hrest⟩
    rw [h.reads.first?, h.toList_of_isFirst hfirst]
    rfl

/-- After any calls a queue is the ordered list after them: its ordered set and its map hold the
candidates of this list.  A further call changes the priority of the one ticket that it names, or
takes out the first candidate, and draining the queue gives the list. -/
theorem ordered_map_after_calls (calls : List (Call α)) :
    let q := calls.foldl Call.perform ∅
    let l := calls.foldl Call.list []
    Ordered l ∧ q.Reads l ∧ q.Changes ∧ ∀ drained, q.Drains drained ↔ drained = l := by
  intro q l
  obtain ⟨hcoherent, hlist⟩ : q.Coherent ∧ q.toList = l := toList_after_calls calls
  rw [← hlist]
  exact ⟨hcoherent.ordered, hcoherent.reads, hcoherent.changes, fun _ => hcoherent.drains_iff⟩

/-- Tickets with equal priorities, one that is queued again under the same priority and one under
another, and tickets that are taken out by name, first in the queue and not at all. -/
theorem ordered_map_of_repeated_tickets :
    let calls : List (Call UInt64) := [.set 9 5, .set 4 5, .set 7 5, .set 9 5, .set 7 (-1), .pop,
      .remove 8, .set 7 30, .set 3 2, .remove 3, .set 2 5]
    let q := calls.foldl Call.perform ∅
    let l := calls.foldl Call.list []
    l = [⟨5, 2⟩, ⟨5, 4⟩, ⟨5, 9⟩, ⟨30, 7⟩] ∧
      Ordered l ∧ q.Reads l ∧ q.Changes ∧ ∀ drained, q.Drains drained ↔ drained = l :=
  ⟨by decide, ordered_map_after_calls [.set 9 5, .set 4 5, .set 7 5, .set 9 5, .set 7 (-1), .pop,
    .remove 8, .set 7 30, .set 3 2, .remove 3, .set 2 5]⟩

end VictimQueue
end CacheSim
