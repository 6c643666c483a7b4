import CacheSim.Proofs.RankTree.Calls
import CacheSim.Proofs.Roster.Consistency
import CacheSim.Proofs.VictimCalls

/-!
# The stay of one object

An object enters the cache, is hit some number of times, may be asked for as the next victim, and
leaves.  While it stays, the roster keeps everything it knows of other objects; when it has left,
the roster is what it was before the object came, but for its ghost.  What makes this hold among
objects with equal features is that the roster is consistent before and after: equal residents have
equal multisets of features, and equal priorities make equal queues.

* `Roster.Agrees`: two rosters that differ at most in their ghosts;
* `Roster.Spares`, `Roster.Hosts`: a roster with one object more than another one;
* `Roster.Hosts.run`: the stay of an object, call by call;
* `Roster.traceless_stay`: what is left of a stay.
-/

namespace CacheSim
namespace Roster

/-- What happens to an object during its stay. -/
inductive Visit where
  /-- The object is hit. -/
  | hit (now : UInt64)
  /-- The next victim is asked for. -/
  | pop

/-- The call of a visit. -/
def Visit.call (t : Ticket) : Visit → Call
  | .hit now => .touch now t
  | .pop => .pop

/-- The features of the object after a visit. -/
def Visit.profile (profile : Profile) : Visit → Profile
  | .hit now => profile.touch now
  | .pop => profile

/-- How often the object is hit. -/
def hits (visits : List Visit) : Nat :=
  visits.countP (· matches .hit _)

/-- The calls of a stay, up to the eviction. -/
def stay (now : UInt64) (t : Ticket) (size : UInt64) (visits : List Visit) : List Call :=
  .insert now t size :: visits.map (Visit.call t)

variable {r r₁ r' : Roster} {t : Ticket} {now left size : UInt64} {profile : Profile}
variable {visits : List Visit} {event : Event} {events : List Event}
variable {call : Call} {fault : Fault}

/-! ## Rosters that agree -/

/-- Two rosters show the same population and the same queue. -/
structure Agrees (r r' : Roster) : Prop where
  residents : ∀ id : ObjectId, r'.residents[id]? = r.residents[id]?
  counts : r'.counts.toList = r.counts.toList
  entered : r'.entered.toList = r.entered.toList
  sizes : r'.sizes.toList = r.sizes.toList
  priority? : ∀ t, r'.priority? t = r.priority? t
  queue : r'.queue.toList = r.queue.toList
  /-- The queues are drained in the same order. -/
  drains : ∀ drained, r'.queue.Drains drained ↔ r.queue.Drains drained

/-- Consistent rosters agree if they have the same residents and the same priorities. -/
lemma Consistent.agrees (h : r.Consistent) (h' : r'.Consistent)
    (hresidents : ∀ id : ObjectId, r'.residents[id]? = r.residents[id]?)
    (hpriority : ∀ t, r'.priority? t = r.priority? t) : r.Agrees r' := by
  have hprofiles : Residents.profiles r'.residents = Residents.profiles r.residents := by
    rw [Residents.profiles, Residents.profiles,
      (Std.TreeMap.Equiv.of_forall_constGet?_eq hresidents).toList_eq]
  have hcensus := hprofiles ▸ h'.census.counts
  have hentered := hprofiles ▸ h'.census.entered
  have hsizes := hprofiles ▸ h'.census.sizes
  have hqueue : r'.queue.toList = r.queue.toList := by
    refine eq_of_pairwise_lt (VictimQueue.pairwise_toList _) (VictimQueue.pairwise_toList _)
      fun c => ?_
    rw [h'.coherent.mem_toList, h.coherent.mem_toList]
    exact Eq.congr_left (hpriority c.ticket)
  exact ⟨hresidents, h.census.counts.toList_eq hcensus, h.census.entered.toList_eq hentered,
    h.census.sizes.toList_eq hsizes, hpriority, hqueue, fun drained => by
      rw [h'.coherent.drains_iff, h.coherent.drains_iff, hqueue]⟩

/-! ## Rosters with one object more -/

/-- Nothing has changed but one object and its place in the queue. -/
structure Spares (t : Ticket) (r r' : Roster) : Prop where
  others : ∀ id : ObjectId, id ≠ t.id → r'.residents[id]? = r.residents[id]?
  priority? : ∀ u, u ≠ t → r'.priority? u = r.priority? u
  ghosts : r'.ghosts = r.ghosts

/-- A roster is another one with a further resident, which may be in the queue or not. -/
structure Hosts (t : Ticket) (profile : Profile) (r r' : Roster) : Prop extends Spares t r r' where
  consistent : r'.Consistent
  resident : r'.residents[t.id]? = some ⟨t, profile⟩

lemma Spares.refl (t : Ticket) (r : Roster) : Spares t r r :=
  ⟨fun _ _ => rfl, fun _ _ => rfl, rfl⟩

/-- An object with new features that is queued anew leaves the others as they are. -/
lemma Spares.set (h : Spares t r r₁) {resident : Resident} {p : Priority}
    (hresidents : r'.residents = r₁.residents.insert t.id resident)
    (hqueue : r'.queue = r₁.queue.set t p) (hghosts : r'.ghosts = r₁.ghosts) : Spares t r r' := by
  refine ⟨fun id hne => ?_, fun u hne => ?_, hghosts.trans h.ghosts⟩
  · rw [← h.others id hne, hresidents, Std.TreeMap.getElem?_insert,
      if_neg fun heq => hne (Std.compare_eq_iff_eq.mp heq).symm]
  · rw [← h.priority? u hne, Roster.priority?, hqueue, VictimQueue.priority?_set,
      if_neg (Ne.symm hne)]
    rfl

lemma Consistent.hosts_insert (h : r.Consistent) (hnew : t.id ∉ r.residents)
    (hcall : r.perform (.insert now t size) = .ok (event, r')) :
    Hosts t (.start now size) r r' := by
  rw [perform_insert hnew, map_eq_ok] at hcall
  obtain ⟨p, -, heq⟩ := hcall
  obtain ⟨-, rfl⟩ := Prod.mk.inj heq
  exact ⟨(Spares.refl t r).set rfl rfl rfl, (h.seat hnew).enqueue residents_seat p, residents_seat⟩

/-- A visit changes nothing but the features of the object and its place in the queue. -/
lemma Hosts.visit (h : Hosts t profile r r₁) {visit : Visit}
    (hcall : r₁.perform (visit.call t) = .ok (event, r')) (hpop : ∀ u, event = .popped u → u = t) :
    Hosts t (visit.profile profile) r r' := by
  cases visit with
  | hit now =>
    rw [Visit.call, perform_touch h.resident, map_eq_ok] at hcall
    obtain ⟨p, -, heq⟩ := hcall
    obtain ⟨-, rfl⟩ := Prod.mk.inj heq
    exact ⟨h.toSpares.set rfl rfl rfl,
      (h.consistent.reseat h.resident).enqueue residents_reseat p, residents_reseat⟩
  | pop =>
    rcases h.consistent.perform_pop with ⟨u, p, -, hpopped⟩ | ⟨-, hpopped⟩
    · obtain ⟨rfl, rfl⟩ := Prod.mk.inj (Except.ok.inj (hpopped.symm.trans hcall))
      obtain rfl := hpop u rfl
      refine ⟨⟨h.others, fun u' hne => ?_, h.ghosts⟩, h.consistent.dequeue u, h.resident⟩
      rw [← h.priority? u' hne]
      exact (VictimQueue.priority?_erase _ u u').trans (if_neg (Ne.symm hne))
    · obtain ⟨-, rfl⟩ := Prod.mk.inj (Except.ok.inj (hpopped.symm.trans hcall))
      exact h

lemma Hosts.run (h : Hosts t profile r r₁)
    (hrun : runCalls perform r₁ (visits.map (Visit.call t)) = .ok (events, r'))
    (hpop : ∀ u, .popped u ∈ events → u = t) :
    Hosts t (visits.foldl Visit.profile profile) r r' := by
  induction visits generalizing profile r₁ events with
  | nil =>
    obtain ⟨-, rfl⟩ := runCalls_nil_eq_ok.mp hrun
    exact h
  | cons visit visits ih =>
    obtain ⟨event, r₂, rest, hcall, hrest, rfl⟩ := runCalls_cons_eq_ok.mp hrun
    have hvisit := h.visit hcall fun u heq => hpop u (heq ▸ List.mem_cons_self)
    exact ih hvisit hrest fun u hmem => hpop u (List.mem_cons_of_mem event hmem)

/-- An object that leaves takes its features and its place in the queue with it. -/
lemma Hosts.evict (h : Hosts t profile r r₁) (hcon : r.Consistent) (hnew : t.id ∉ r.residents)
    (left : UInt64) :
    (∃ fault, r.ghosts.record (ghostOf left t.id profile) = .error fault ∧
      r₁.evict left t = .error fault) ∨
    ∃ r', r.ghosts.record (ghostOf left t.id profile) = .ok r'.ghosts ∧
      r₁.evict left t = .ok r' ∧ r.Agrees r' := by
  rw [evict_of_holder h.resident, h.ghosts]
  cases r.ghosts.record (ghostOf left t.id profile) with
  | error fault => exact Or.inl ⟨fault, rfl, rfl⟩
  | ok ghosts =>
    have hleft := h.consistent.unseat h.resident ghosts
    refine Or.inr ⟨r₁.unseat t profile ghosts, rfl, rfl,
      hcon.agrees hleft (fun id => ?_) fun u => ?_⟩
    · change (r₁.residents.erase t.id)[id]? = r.residents[id]?
      rw [Std.TreeMap.getElem?_erase]
      split
      · next heq =>
        obtain rfl := Std.LawfulEqCmp.eq_of_compare heq
        exact (Std.TreeMap.getElem?_eq_none hnew).symm
      · next hne => exact h.others id fun heq => hne (heq ▸ Std.ReflCmp.compare_self)
    · change (r₁.queue.erase t).priority? u = r.queue.priority? u
      rw [VictimQueue.priority?_erase]
      split
      · next heq =>
        -- a candidate would be a resident, and the object was none before it came
        subst heq
        refine (Option.eq_none_iff_forall_ne_some.mpr fun p hp => ?_).symm
        obtain ⟨_, hres⟩ := hcon.queued t p hp
        exact hnew (Table.mem_iff_exists.mpr ⟨_, hres⟩)
      · next hne => exact h.priority? u (Ne.symm hne)

/-! ## Features -/

lemma profile_foldl (visits : List Visit) (profile : Profile) :
    (visits.foldl Visit.profile profile).entered = profile.entered ∧
    (visits.foldl Visit.profile profile).size = profile.size ∧
    (profile.accesses.toNat ≤ UInt32.size - 1 →
      (visits.foldl Visit.profile profile).accesses.toNat =
        min (profile.accesses.toNat + hits visits) (UInt32.size - 1)) := by
  induction visits generalizing profile with
  | nil => exact ⟨rfl, rfl, fun h => (Nat.min_eq_left h).symm⟩
  | cons visit visits ih =>
    obtain ⟨hentered, hsize, haccesses⟩ := ih (visit.profile profile)
    cases visit with
    | hit now =>
      have htouch : (Visit.profile profile (.hit now)).accesses.toNat = _ :=
        profile.toNat_accesses_touch now
      have hhits : hits (.hit now :: visits) = hits visits + 1 := List.countP_cons_of_pos rfl
      refine ⟨hentered, hsize, fun h => ?_⟩
      rw [List.foldl_cons, haccesses (htouch ▸ Nat.min_le_right _ _), htouch, hhits]
      omega
    | pop => exact ⟨hentered, hsize, haccesses⟩

/-- The ghost of an object tells of all its hits, as far as they can be counted. -/
lemma ghostOf_foldl (visits : List Visit) (now left : UInt64) (id : ObjectId) (size : UInt64) :
    ghostOf left id (visits.foldl Visit.profile (.start now size)) =
      ⟨id, size, UInt32.ofNat (min (1 + hits visits) (UInt32.size - 1)), Word.monus left now⟩ := by
  obtain ⟨hentered, hsize, haccesses⟩ := profile_foldl visits (.start now size)
  have hcount : (visits.foldl Visit.profile (.start now size)).accesses =
      UInt32.ofNat (min (1 + hits visits) (UInt32.size - 1)) := by
    rw [← UInt32.toNat_inj, haccesses (show 1 ≤ _ by decide), UInt32.toNat_ofNat_of_lt']
    · rfl
    · exact Nat.lt_of_le_of_lt (Nat.min_le_right _ _) (by decide)
  rw [ghostOf, Profile.age, hentered, hsize, hcount]
  rfl

/-! ## Calls that go through -/

lemma scorer_of_step (hstep : Step r event r') : r'.scorer = r.scorer := by
  cases hstep <;> rfl

/-- A call that evicts nothing fails only where an object cannot be scored. -/
lemma unscored_of_perform (hcall : r.perform call = .error fault)
    (hstays : ∀ left t, call ≠ .evict left t) :
    ∃ scene, r.scorer.priority scene = .error fault := by
  cases call with
  | insert now t size =>
    by_cases hmem : t.id ∈ r.residents
    · simp [perform_insert_of_mem hmem] at hcall
    · rw [perform_insert hmem, map_eq_error] at hcall
      exact ⟨_, hcall⟩
  | touch now t =>
    cases hholder : r.holder? t with
    | none => simp [perform_touch_of_not_holder hholder] at hcall
    | some resident =>
      obtain ⟨ticket, profile⟩ := resident
      obtain ⟨hres, rfl⟩ := holder?_eq_some.mp hholder
      rw [perform_touch hres, map_eq_error] at hcall
      exact ⟨_, hcall⟩
  | evict left t => exact absurd rfl (hstays left t)
  | pop =>
    rw [perform] at hcall
    split at hcall <;> simp at hcall
  | clear => simp [perform] at hcall

/-- A run without evictions goes through unless an object cannot be scored. -/
lemma Consistent.run_or_unscored (h : r.Consistent) {calls : List Call}
    (hstays : ∀ left t, .evict left t ∉ calls) :
    (∃ fault scene, r.scorer.priority scene = .error fault ∧
      runCalls perform r calls = .error fault) ∨
    ∃ events r', runCalls perform r calls = .ok (events, r') := by
  cases hrun : runCalls perform r calls with
  | ok done => exact Or.inr ⟨done.1, done.2, rfl⟩
  | error fault =>
    refine Or.inl ⟨fault, ?_⟩
    induction calls generalizing r with
    | nil => simp [runCalls] at hrun
    | cons call calls ih =>
      rw [runCalls, bind_eq_error] at hrun
      rcases hrun with hcall | ⟨⟨event, r₁⟩, hcall, hrest⟩
      · obtain ⟨scene, hscene⟩ := unscored_of_perform hcall fun left t heq =>
          hstays left t (heq ▸ List.mem_cons_self)
        exact ⟨scene, hscene, rfl⟩
      · have hstep := step_of_perform h hcall
        rw [bind_eq_error] at hrest
        rcases hrest with hrest | ⟨_, -, hnever⟩
        · obtain ⟨scene, hscene, -⟩ := ih (h.step hstep)
            (fun left t hmem => hstays left t (List.mem_cons_of_mem call hmem)) hrest
          exact ⟨scene, scorer_of_step hstep ▸ hscene, rfl⟩
        · simp at hnever

/-! ## Stays -/

/-- An object that was not there is hosted as long as no other one is popped. -/
lemma Consistent.hosts_stay (h : r.Consistent) (hnew : t.id ∉ r.residents)
    (hrun : runCalls perform r (stay now t size visits) = .ok (events, r'))
    (hpop : ∀ u, .popped u ∈ events → u = t) :
    Hosts t (visits.foldl Visit.profile (.start now size)) r r' := by
  obtain ⟨event, r₁, rest, hinsert, hrest, rfl⟩ := runCalls_cons_eq_ok.mp hrun
  have hhosts := h.hosts_insert hnew hinsert
  exact hhosts.run hrest fun u hmem => hpop u (List.mem_cons_of_mem event hmem)

/-- **A stay leaves nothing but a ghost.**  After any calls, an object that is not on the roster is
inserted, then hit any number of times at any times, and possibly asked for as the next victim.
These calls go through unless the policy cannot score an object.  If nothing else is popped:

* at every point of the stay the other objects have the features and the priorities that they had
  before, and nothing is forgotten;
* the eviction goes through exactly when its ghost, with all hits that can be counted and the time
  of the stay, can be recorded in the log from before the stay.  It leaves the log with this ghost,
  and a roster that agrees with the one from before in all else. -/
theorem traceless_stay (scorer : Scorer) (budget : UInt64) {calls : List Call}
    {events : List Event} {r : Roster}
    (hrun : runCalls perform (empty scorer budget) calls = .ok (events, r)) {t : Ticket}
    (hnew : t.id ∉ r.residents) (now size left : UInt64) (visits : List Visit) :
    (∃ fault scene, r.scorer.priority scene = .error fault ∧
      runCalls perform r (stay now t size visits) = .error fault) ∨
    ∃ answers r₁, runCalls perform r (stay now t size visits) = .ok (answers, r₁) ∧
      ((∀ u, .popped u ∈ answers → u = t) →
        (∀ begun, begun <+: visits →
          ∃ answers' r', runCalls perform r (stay now t size begun) = .ok (answers', r') ∧
            Hosts t (begun.foldl Visit.profile (.start now size)) r r') ∧
        let ghost : Ghost := ⟨t.id, size, UInt32.ofNat (min (1 + hits visits) (UInt32.size - 1)),
          Word.monus left now⟩
        (∃ fault, r.ghosts.record ghost = .error fault ∧ r₁.evict left t = .error fault) ∨
        ∃ r₂, r.ghosts.record ghost = .ok r₂.ghosts ∧ r₁.evict left t = .ok r₂ ∧ r.Agrees r₂) := by
  have hcon := (run_invariant scorer budget hrun).1
  have hstays : ∀ left u, .evict left u ∉ stay now t size visits := by
    intro left u hmem
    rcases List.mem_cons.mp hmem with hins | hmem
    · cases hins
    · obtain ⟨visit, -, hvisit⟩ := List.mem_map.mp hmem
      cases visit <;> cases hvisit
  refine (hcon.run_or_unscored hstays).imp_right fun ⟨answers, r₁, hstay⟩ =>
    ⟨answers, r₁, hstay, fun hpop => ⟨fun begun hbegun => ?_, ?_⟩⟩
  · have hprefix : stay now t size begun <+: stay now t size visits :=
      List.cons_prefix_cons.mpr ⟨rfl, hbegun.map _⟩
    obtain ⟨answers', r', hrun', hbefore⟩ := exists_run_of_prefix hprefix hstay
    exact ⟨answers', r', hrun',
      hcon.hosts_stay hnew hrun' fun u hmem => hpop u (hbefore.subset hmem)⟩
  · have hhosts := hcon.hosts_stay hnew hstay hpop
    have hevict := hhosts.evict hcon hnew left
    rwa [ghostOf_foldl] at hevict

/-- A stay among objects of the same size and the same count, one of which has been popped and not
evicted.  The object is popped and hit once more before it leaves. -/
theorem traceless_stay_among_equals :
    ∃ events r answers r₁ r₂,
      runCalls perform (empty .lfu 100) [.insert 5 ⟨0, 1⟩ 10, .pop, .insert 7 ⟨1, 2⟩ 10,
        .touch 7 ⟨1, 2⟩, .touch 8 ⟨1, 2⟩] = .ok (events, r) ∧
      r.priority? ⟨0, 1⟩ = none ∧ (⟨2, 7⟩ : Ticket).id ∉ r.residents ∧
      runCalls perform r (stay 7 ⟨2, 7⟩ 10 [.hit 8, .pop, .hit 3]) = .ok (answers, r₁) ∧
      answers = [.inserted ⟨2, 7⟩, .touched ⟨2, 7⟩, .popped ⟨2, 7⟩, .touched ⟨2, 7⟩] ∧
      r₁.evict 9 ⟨2, 7⟩ = .ok r₂ ∧ r₂.ghosts.toList = [⟨7, 10, 3, 2⟩] ∧ r.Agrees r₂ := by
  have hends : (do
      let (events, r) ← runCalls perform (empty .lfu 100) [.insert 5 ⟨0, 1⟩ 10, .pop,
        .insert 7 ⟨1, 2⟩ 10, .touch 7 ⟨1, 2⟩, .touch 8 ⟨1, 2⟩]
      let (answers, _) ← runCalls perform r (stay 7 ⟨2, 7⟩ 10 [.hit 8, .pop, .hit 3])
      let ghosts ← r.ghosts.record ⟨7, 10, 3, 2⟩
      .ok (r.priority? ⟨0, 1⟩, r.residents.contains 7, answers, ghosts.toList)) =
      (.ok (none, false, [.inserted ⟨2, 7⟩, .touched ⟨2, 7⟩, .popped ⟨2, 7⟩, .touched ⟨2, 7⟩],
        [⟨7, 10, 3, 2⟩]) : Except Fault _) := by
    cbv
  obtain ⟨⟨events, r⟩, hrun, hends⟩ := bind_eq_ok.mp hends
  obtain ⟨⟨answers, r₁⟩, hstay, hends⟩ := bind_eq_ok.mp hends
  obtain ⟨ghosts, hrecord, hends⟩ := bind_eq_ok.mp hends
  simp only [Except.ok.injEq, Prod.mk.injEq] at hends
  obtain ⟨hpopped, hcontains, hanswers, hghosts⟩ := hends
  have hnew : (⟨2, 7⟩ : Ticket).id ∉ r.residents := by
    rw [← Std.TreeMap.contains_iff_mem]
    exact Bool.eq_false_iff.mp hcontains
  have hleaves := traceless_stay .lfu 100 hrun hnew 7 10 9 [.hit 8, .pop, .hit 3]
  rcases hleaves with ⟨fault, -, -, hfault⟩ | ⟨answers', r₁', hstay', hleaves⟩
  · cases hstay.symm.trans hfault
  · obtain ⟨rfl, rfl⟩ := Prod.mk.inj (Except.ok.inj (hstay.symm.trans hstay'))
    obtain ⟨-, hevict⟩ := hleaves fun u hmem => by simpa [hanswers] using hmem
    rcases hevict with ⟨fault, hfault, -⟩ | ⟨r₂, hrecord', hevict, hagrees⟩
    · cases hrecord.symm.trans hfault
    · obtain rfl := Except.ok.inj (hrecord.symm.trans hrecord')
      exact ⟨events, r, answers, r₁, r₂, hrun, hpopped, hnew, hstay, hanswers, hevict, hghosts,
        hagrees⟩

end Roster
end CacheSim
