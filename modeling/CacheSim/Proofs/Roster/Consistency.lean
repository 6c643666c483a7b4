import CacheSim.Proofs.Roster.Transitions

/-!
# Consistency of the roster under any calls

Nothing obliges the owner of a roster to insert an object once, to evict only what was popped, or
to pass the ticket an object was admitted with.  This file follows a roster through any calls
whatever.  `Roster.perform` makes one call and tells what it did; `Roster.Step` lists what a call
can do.

* `Roster.perform_insert`, `Roster.perform_touch`, `Roster.perform_evict`,
  `Roster.Consistent.perform_pop`: what each call does;
* `Roster.step_of_perform`: these are all the things a call can do;
* `Roster.consistent_after_calls`: after any run of calls the roster is consistent, a resident is
  missing from the queue exactly when it was popped since it was last scored, every scene shows
  the population with the scored object in it, and a call for a stranger changes nothing.
-/

namespace CacheSim
namespace Roster

/-- A call that is made to a roster. -/
inductive Call where
  /-- An object enters the cache. -/
  | insert (now : UInt64) (t : Ticket) (size : UInt64)
  /-- An object is hit. -/
  | touch (now : UInt64) (t : Ticket)
  /-- An object has left the cache. -/
  | evict (now : UInt64) (t : Ticket)
  /-- The next victim is asked for. -/
  | pop
  /-- Everything is to be forgotten. -/
  | clear

/-- What a call did. -/
inductive Event where
  | inserted (t : Ticket)
  | touched (t : Ticket)
  | evicted (t : Ticket)
  | popped (t : Ticket)
  | cleared
  /-- The call was for a stranger, or there was no victim. -/
  | ignored
  deriving DecidableEq

/-- Makes a call. -/
def perform (r : Roster) : Call → Except Fault (Event × Roster)
  | .insert now t size =>
    (if r.residents.contains t.id then .ignored else .inserted t, ·) <$> r.insert now t size
  | .touch now t =>
    (if (r.holder? t).isSome then .touched t else .ignored, ·) <$> r.touch now t
  | .evict now t =>
    (if (r.holder? t).isSome then .evicted t else .ignored, ·) <$> r.evict now t
  | .pop =>
    match r.popVictim? with
    | none => .ok (.ignored, r)
    | some (t, r) => .ok (.popped t, r)
  | .clear => .ok (.cleared, r.clear)

/-! ## The things a call can do -/

/-- What a call can do to a roster. -/
inductive Step (r : Roster) : Event → Roster → Prop where
  /-- A new object is put on the roster and queued. -/
  | inserted {t : Ticket} {now size : UInt64} {p : Priority} : t.id ∉ r.residents →
      Step r (.inserted t) { r.seat now t size with queue := r.queue.set t p }
  /-- A resident is touched and queued again. -/
  | touched {t : Ticket} {now : UInt64} {profile : Profile} {p : Priority} :
      r.residents[t.id]? = some ⟨t, profile⟩ →
      Step r (.touched t) { r.reseat now t profile with queue := r.queue.set t p }
  /-- A resident leaves the roster and its queue, and its ghost is recorded. -/
  | evicted {t : Ticket} {now : UInt64} {profile : Profile} {ghosts : GhostLog} :
      r.residents[t.id]? = some ⟨t, profile⟩ →
      r.ghosts.record (ghostOf now t.id profile) = .ok ghosts →
      Step r (.evicted t) (r.unseat t profile ghosts)
  /-- A candidate leaves the queue. -/
  | popped {t : Ticket} {p : Priority} : r.queue.priority? t = some p →
      Step r (.popped t) { r with queue := r.queue.erase t }
  /-- Everything is forgotten. -/
  | cleared : Step r .cleared r.clear
  /-- Nothing happens. -/
  | ignored : Step r .ignored r

variable {r r' : Roster} {t : Ticket} {now size : UInt64} {profile : Profile} {call : Call}
variable {event : Event} {events : List Event} {p : Priority} {scorer : Scorer} {scene : Scene}

/-- An object that is on the roster already is not inserted again. -/
lemma perform_insert_of_mem (h : t.id ∈ r.residents) :
    r.perform (.insert now t size) = .ok (.ignored, r) := by
  rw [perform, if_pos (Std.TreeMap.contains_iff_mem.mpr h), insert_of_mem h]
  rfl

/-- A new object is put on the roster, scored and queued. -/
lemma perform_insert (h : t.id ∉ r.residents) :
    r.perform (.insert now t size) =
      (fun p => (.inserted t, { r.seat now t size with queue := r.queue.set t p })) <$>
        r.scorer.priority ((r.seat now t size).scene now t.id (.start now size)) := by
  rw [perform, if_neg (mt Std.TreeMap.contains_iff_mem.mp h), insert_of_not_mem h]
  change _ <$> (r.scorer.priority _ >>= _) = _
  cases r.scorer.priority ((r.seat now t size).scene now t.id (.start now size)) <;> rfl

lemma perform_touch_of_not_holder (h : r.holder? t = none) :
    r.perform (.touch now t) = .ok (.ignored, r) := by
  rw [perform, h, touch_of_not_holder h]
  rfl

/-- A resident is touched, scored again and queued anew. -/
lemma perform_touch (h : r.residents[t.id]? = some ⟨t, profile⟩) :
    r.perform (.touch now t) =
      (fun p => (.touched t, { r.reseat now t profile with queue := r.queue.set t p })) <$>
        r.scorer.priority ((r.reseat now t profile).scene now t.id (profile.touch now)) := by
  rw [perform, holder?_eq_some.mpr ⟨h, rfl⟩, touch_of_holder h]
  change _ <$> (r.scorer.priority _ >>= _) = _
  cases r.scorer.priority ((r.reseat now t profile).scene now t.id (profile.touch now)) <;> rfl

lemma perform_evict_of_not_holder (h : r.holder? t = none) :
    r.perform (.evict now t) = .ok (.ignored, r) := by
  rw [perform, h, evict_of_not_holder h]
  rfl

/-- A resident leaves the roster and becomes a ghost. -/
lemma perform_evict (h : r.residents[t.id]? = some ⟨t, profile⟩) :
    r.perform (.evict now t) =
      (fun ghosts => (.evicted t, r.unseat t profile ghosts)) <$>
        r.ghosts.record (ghostOf now t.id profile) := by
  rw [perform, holder?_eq_some.mpr ⟨h, rfl⟩, evict_of_holder h]
  cases r.ghosts.record (ghostOf now t.id profile) <;> rfl

/-- The first candidate is popped, if there is one. -/
lemma Consistent.perform_pop (h : r.Consistent) :
    (∃ t p, r.queue.IsFirst t p ∧
      r.perform .pop = .ok (.popped t, { r with queue := r.queue.erase t })) ∨
    (∀ t, r.queue.priority? t = none) ∧ r.perform .pop = .ok (.ignored, r) := by
  cases hpop : r.popVictim? with
  | none => exact Or.inr ⟨(popVictim?_eq_none h).mp hpop, by rw [perform, hpop]⟩
  | some victim =>
    obtain ⟨t, r'⟩ := victim
    obtain ⟨p, hfirst, rfl⟩ := popVictim?_eq_some h hpop
    exact Or.inl ⟨t, p, hfirst, by rw [perform, hpop]⟩

lemma step_of_perform (h : r.Consistent) (hcall : r.perform call = .ok (event, r')) :
    Step r event r' := by
  have hignored : r.perform call = .ok (.ignored, r) → Step r event r' := by
    intro hignored
    obtain ⟨rfl, rfl⟩ := Prod.mk.inj (Except.ok.inj (hcall.symm.trans hignored))
    exact .ignored
  cases call with
  | insert now t size =>
    by_cases hmem : t.id ∈ r.residents
    · exact hignored (perform_insert_of_mem hmem)
    · rw [perform_insert hmem, map_eq_ok] at hcall
      obtain ⟨p, -, heq⟩ := hcall
      obtain ⟨rfl, rfl⟩ := Prod.mk.inj heq
      exact .inserted hmem
  | touch now t =>
    cases hholder : r.holder? t with
    | none => exact hignored (perform_touch_of_not_holder hholder)
    | some resident =>
      obtain ⟨ticket, profile⟩ := resident
      obtain ⟨hres, rfl⟩ := holder?_eq_some.mp hholder
      rw [perform_touch hres, map_eq_ok] at hcall
      obtain ⟨p, -, heq⟩ := hcall
      obtain ⟨rfl, rfl⟩ := Prod.mk.inj heq
      exact .touched hres
  | evict now t =>
    cases hholder : r.holder? t with
    | none => exact hignored (perform_evict_of_not_holder hholder)
    | some resident =>
      obtain ⟨ticket, profile⟩ := resident
      obtain ⟨hres, rfl⟩ := holder?_eq_some.mp hholder
      rw [perform_evict hres, map_eq_ok] at hcall
      obtain ⟨ghosts, hrecord, heq⟩ := hcall
      obtain ⟨rfl, rfl⟩ := Prod.mk.inj heq
      exact .evicted hres hrecord
  | pop =>
    rcases h.perform_pop with ⟨t, p, hfirst, hpop⟩ | ⟨-, hpop⟩
    · obtain ⟨rfl, rfl⟩ := Prod.mk.inj (Except.ok.inj (hcall.symm.trans hpop))
      exact .popped hfirst.queued
    · exact hignored hpop
  | clear =>
    obtain ⟨rfl, rfl⟩ := Prod.mk.inj (Except.ok.inj hcall)
    exact .cleared

lemma Consistent.step (h : r.Consistent) (hstep : Step r event r') : r'.Consistent := by
  cases hstep with
  | inserted hnew => exact (h.seat hnew).enqueue residents_seat _
  | touched hres => exact (h.reseat hres).enqueue residents_reseat _
  | evicted hres _ => exact h.unseat hres _
  | popped hp => exact h.dequeue _
  | cleared => exact Consistent.clear r
  | ignored => exact h

/-! ## Candidates that were popped -/

/-- A ticket was popped, and has not been inserted or touched since. -/
def PoppedSince (t : Ticket) (events : List Event) : Prop :=
  ∃ earlier later, events = earlier ++ .popped t :: later ∧
    .inserted t ∉ later ∧ .touched t ∉ later

lemma poppedSince_append : PoppedSince t (events ++ [event]) ↔
    event = .popped t ∨ event ≠ .inserted t ∧ event ≠ .touched t ∧ PoppedSince t events := by
  constructor
  · rintro ⟨earlier, later, heq, hins, htouch⟩
    -- the last event is the pop itself or comes after it
    rcases List.eq_nil_or_concat later with rfl | ⟨later, last, rfl⟩
    · exact Or.inl (List.singleton_inj.mp (List.append_inj' heq rfl).2)
    · rw [List.concat_eq_append, ← List.cons_append, ← List.append_assoc] at heq
      obtain ⟨hevents, hlast⟩ := List.append_inj' heq rfl
      obtain rfl := List.singleton_inj.mp hlast
      simp only [List.concat_eq_append, List.mem_append, List.mem_singleton, not_or] at hins htouch
      exact Or.inr ⟨Ne.symm hins.2, Ne.symm htouch.2, earlier, later, hevents, hins.1, htouch.1⟩
  · rintro (rfl | ⟨hins, htouch, earlier, later, rfl, hins', htouch'⟩)
    · exact ⟨events, [], rfl, by simp, by simp⟩
    · refine ⟨earlier, later ++ [event], by simp, ?_, ?_⟩
      · simp [hins', Ne.symm hins]
      · simp [htouch', Ne.symm htouch]

/-- A resident is out of the queue exactly when it was popped since it was last scored. -/
def QueueFollows (events : List Event) (r : Roster) : Prop :=
  ∀ (t : Ticket) profile, r.residents[t.id]? = some ⟨t, profile⟩ →
    (r.queue.priority? t = none ↔ PoppedSince t events)

/-- A resident that is queued anew is in the queue, and the others are where they were. -/
lemma QueueFollows.set (h : QueueFollows events r) (residents : Residents)
    (hsame : ∀ t' profile, t' ≠ t → residents[t'.id]? = some ⟨t', profile⟩ →
      ∃ profile', r.residents[t'.id]? = some ⟨t', profile'⟩)
    (hevent : event = .inserted t ∨ event = .touched t) :
    ∀ (t' : Ticket) profile, residents[t'.id]? = some ⟨t', profile⟩ →
      ((r.queue.set t p).priority? t' = none ↔ PoppedSince t' (events ++ [event])) := by
  intro t' profile hres
  rw [VictimQueue.priority?_set, poppedSince_append]
  by_cases heq : t = t'
  · subst heq
    rcases hevent with rfl | rfl <;> simp
  · obtain ⟨profile', hres'⟩ := hsame t' profile (Ne.symm heq) hres
    rw [if_neg heq, h t' profile' hres']
    rcases hevent with rfl | rfl <;> simp [heq]

lemma QueueFollows.step (h : QueueFollows events r) (hstep : Step r event r') :
    QueueFollows (events ++ [event]) r' := by
  cases hstep with
  | @inserted t now size p hnew =>
    refine h.set _ (fun t' profile hne hres => ?_) (Or.inl rfl)
    rcases Table.getElem?_insert_eq_some.mp hres with ⟨-, heq⟩ | ⟨-, hres⟩
    · exact absurd (Resident.mk.inj heq).1 (Ne.symm hne)
    · exact ⟨profile, hres⟩
  | @touched t now profile p hres =>
    refine h.set _ (fun t' profile hne hres => ?_) (Or.inr rfl)
    rcases Table.getElem?_insert_eq_some.mp hres with ⟨-, heq⟩ | ⟨-, hres⟩
    · exact absurd (Resident.mk.inj heq).1 (Ne.symm hne)
    · exact ⟨profile, hres⟩
  | @evicted t now profile ghosts hres =>
    intro t' profile' hres'
    obtain ⟨hne, hres'⟩ := Table.getElem?_erase_eq_some.mp hres'
    have hne' : t ≠ t' := fun heq => hne (heq ▸ rfl)
    rw [unseat, VictimQueue.priority?_erase, if_neg hne', poppedSince_append,
      h t' profile' hres']
    simp
  | @popped t p hp =>
    intro t' profile' hres'
    rw [VictimQueue.priority?_erase, poppedSince_append]
    by_cases heq : t = t'
    · simp [heq]
    · rw [if_neg heq, h t' profile' hres']
      simp [heq]
  | cleared =>
    intro t' profile' hres'
    simp [clear] at hres'
  | ignored =>
    intro t' profile' hres'
    rw [poppedSince_append, h t' profile' hres']
    simp

/-! ## Scenes -/

/-- The scene that a call hands to the scorer, if it does. -/
def scene? (r : Roster) : Call → Option Scene
  | .insert now t size =>
    if r.residents.contains t.id then none
    else some ((r.seat now t size).scene now t.id (.start now size))
  | .touch now t =>
    (r.holder? t).map fun resident =>
      (r.reseat now t resident.profile).scene now t.id (resident.profile.touch now)
  | _ => none

/-- A scene shows a population: its multisets are the features of that population, and the scored
object is in it with the features to be scored. -/
structure Shows (scene : Scene) (residents : Residents) : Prop where
  census : Census residents scene.counts scene.entered scene.sizes
  scored : ∃ t, residents[scene.id]? = some ⟨t, scene.profile⟩

/-- The same roster with another policy. -/
def withScorer (r : Roster) (scorer : Scorer) : Roster :=
  { r with scorer := scorer }

lemma enqueue_withScorer
    (h : scorer.priority (r.scene now t.id profile) =
      r.scorer.priority (r.scene now t.id profile)) :
    (r.withScorer scorer).enqueue now t profile =
      (·.withScorer scorer) <$> r.enqueue now t profile := by
  change (scorer.priority (r.scene now t.id profile) >>= _) = _
  rw [h, enqueue]
  cases r.scorer.priority (r.scene now t.id profile) <;> rfl

lemma scene?_insert (h : t.id ∉ r.residents) :
    r.scene? (.insert now t size) =
      some ((r.seat now t size).scene now t.id (.start now size)) := by
  rw [scene?, if_neg (mt Std.TreeMap.contains_iff_mem.mp h)]

lemma scene?_touch (h : r.residents[t.id]? = some ⟨t, profile⟩) :
    r.scene? (.touch now t) =
      some ((r.reseat now t profile).scene now t.id (profile.touch now)) := by
  rw [scene?, holder?_eq_some.mpr ⟨h, rfl⟩]
  rfl

lemma insert_withScorer
    (h : ∀ scene, r.scene? (.insert now t size) = some scene →
      scorer.priority scene = r.scorer.priority scene) :
    (r.withScorer scorer).insert now t size = (·.withScorer scorer) <$> r.insert now t size := by
  by_cases hmem : t.id ∈ r.residents
  · rw [insert_of_mem hmem, insert_of_mem (r := r.withScorer scorer) hmem]
    rfl
  · rw [insert_of_not_mem hmem, insert_of_not_mem (r := r.withScorer scorer) hmem]
    exact enqueue_withScorer (r := r.seat now t size) (h _ (scene?_insert hmem))

lemma touch_withScorer
    (h : ∀ scene, r.scene? (.touch now t) = some scene →
      scorer.priority scene = r.scorer.priority scene) :
    (r.withScorer scorer).touch now t = (·.withScorer scorer) <$> r.touch now t := by
  cases hholder : r.holder? t with
  | none =>
    rw [touch_of_not_holder hholder, touch_of_not_holder (r := r.withScorer scorer) hholder]
    rfl
  | some resident =>
    obtain ⟨ticket, profile⟩ := resident
    obtain ⟨hres, rfl⟩ := holder?_eq_some.mp hholder
    rw [touch_of_holder hres, touch_of_holder (r := r.withScorer scorer) hres]
    exact enqueue_withScorer (r := r.reseat now ticket profile) (h _ (scene?_touch hres))

lemma evict_withScorer :
    (r.withScorer scorer).evict now t = (·.withScorer scorer) <$> r.evict now t := by
  cases hholder : r.holder? t with
  | none =>
    rw [evict_of_not_holder hholder, evict_of_not_holder (r := r.withScorer scorer) hholder]
    rfl
  | some resident =>
    obtain ⟨ticket, profile⟩ := resident
    obtain ⟨hres, rfl⟩ := holder?_eq_some.mp hholder
    rw [evict_of_holder hres, evict_of_holder (r := r.withScorer scorer) hres]
    change _ <$> r.ghosts.record _ = _
    cases r.ghosts.record (ghostOf now ticket.id profile) <;> rfl

/-- A call consults the scorer about its scene and nothing else: a policy that gives that scene
the same priority makes the call end in the same way. -/
lemma perform_withScorer
    (h : ∀ scene, r.scene? call = some scene → scorer.priority scene = r.scorer.priority scene) :
    (r.withScorer scorer).perform call =
      (fun done => (done.1, done.2.withScorer scorer)) <$> r.perform call := by
  cases call with
  | insert now t size =>
    rw [perform, perform, insert_withScorer h]
    cases r.insert now t size <;> rfl
  | touch now t =>
    rw [perform, perform, touch_withScorer h]
    cases r.touch now t <;> rfl
  | evict now t =>
    rw [perform, perform, evict_withScorer]
    cases r.evict now t <;> rfl
  | pop =>
    rw [perform, perform]
    simp only [popVictim?, withScorer]
    cases r.queue.pop? <;> rfl
  | clear => rfl

/-- The scene of a call shows the residents that there are after the call. -/
lemma shows_scene (h : r.Consistent) (hscene : r.scene? call = some scene)
    (hcall : (r.withScorer scorer).perform call = .ok (event, r')) : Shows scene r'.residents := by
  cases call with
  | insert now t size =>
    by_cases hmem : t.id ∈ r.residents
    · rw [scene?, if_pos (Std.TreeMap.contains_iff_mem.mpr hmem)] at hscene
      simp at hscene
    · rw [scene?_insert hmem] at hscene
      obtain rfl := Option.some.inj hscene
      rw [perform_insert (r := r.withScorer scorer) hmem, map_eq_ok] at hcall
      obtain ⟨p, -, heq⟩ := hcall
      obtain ⟨-, rfl⟩ := Prod.mk.inj heq
      exact ⟨(h.seat hmem).census, t, residents_seat⟩
  | touch now t =>
    cases hholder : r.holder? t with
    | none => simp [scene?, hholder] at hscene
    | some resident =>
      obtain ⟨ticket, profile⟩ := resident
      obtain ⟨hres, rfl⟩ := holder?_eq_some.mp hholder
      rw [scene?_touch hres] at hscene
      obtain rfl := Option.some.inj hscene
      rw [perform_touch (r := r.withScorer scorer) hres, map_eq_ok] at hcall
      obtain ⟨p, -, heq⟩ := hcall
      obtain ⟨-, rfl⟩ := Prod.mk.inj heq
      exact ⟨(h.reseat hres).census, ticket, residents_reseat⟩
  | evict now t => simp [scene?] at hscene
  | pop => simp [scene?] at hscene
  | clear => simp [scene?] at hscene

/-! ## Runs -/

/-- What every call keeps, with the events so far in view. -/
lemma run_invariant (scorer : Scorer) (budget : UInt64) {calls : List Call}
    (hrun : runCalls perform (empty scorer budget) calls = .ok (events, r)) :
    r.Consistent ∧ QueueFollows events r := by
  have hinv : r.Consistent ∧ QueueFollows ((calls.zip events).map Prod.snd) r := by
    refine runCalls_induction (P := fun log r =>
      r.Consistent ∧ QueueFollows (log.map Prod.snd) r) ?_ ?_ hrun
    · refine ⟨consistent_empty scorer budget, fun t profile hres => ?_⟩
      simp [empty] at hres
    · rintro log r call event r' ⟨hcon, hqueue⟩ hcall
      have hstep := step_of_perform hcon hcall
      rw [List.map_append]
      exact ⟨hcon.step hstep, hqueue.step hstep⟩
  rwa [List.map_snd_zip (Nat.le_of_eq (length_answers hrun))] at hinv

/-- **The roster is consistent after any calls.**  Whatever calls are made to an empty roster, in
whatever order:

* the access counts, admission times and sizes are exactly those of the residents, and every
  candidate in the queue is a resident under the ticket it was admitted with;
* a resident is missing from the queue exactly when it was popped since it was last inserted or
  touched;
* the next call consults the scorer about at most one scene, and that scene shows the population
  after the call, the scored object with its new features in it;
* an object that is on the roster is not inserted again, and a ticket that no resident was
  admitted with is neither touched nor evicted: the roster stays as it is. -/
theorem consistent_after_calls (scorer : Scorer) (budget : UInt64) {calls : List Call}
    {events : List Event} {r : Roster}
    (hrun : runCalls perform (empty scorer budget) calls = .ok (events, r)) :
    r.Consistent ∧
    (∀ (t : Ticket) profile, r.residents[t.id]? = some ⟨t, profile⟩ →
      (r.queue.priority? t = none ↔ PoppedSince t events)) ∧
    (∀ (call : Call) (scorer' : Scorer),
      ((∀ scene, r.scene? call = some scene →
          scorer'.priority scene = r.scorer.priority scene) →
        (r.withScorer scorer').perform call =
          (fun done => (done.1, done.2.withScorer scorer')) <$> r.perform call) ∧
      ∀ scene event r', r.scene? call = some scene →
        (r.withScorer scorer').perform call = .ok (event, r') → Shows scene r'.residents) ∧
    (∀ (now size : UInt64) (t : Ticket), t.id ∈ r.residents → r.insert now t size = .ok r) ∧
    (∀ (now : UInt64) (t : Ticket), (∀ profile, r.residents[t.id]? ≠ some ⟨t, profile⟩) →
      r.touch now t = .ok r ∧ r.evict now t = .ok r) := by
  obtain ⟨hcon, hqueue⟩ := run_invariant scorer budget hrun
  refine ⟨hcon, hqueue, fun call scorer' => ⟨perform_withScorer, fun scene event r' => ?_⟩,
    fun now size t hmem => insert_of_mem hmem, fun now t hstranger => ?_⟩
  · exact shows_scene hcon
  · have hholder := holder?_eq_none.mpr hstranger
    exact ⟨touch_of_not_holder hholder, evict_of_not_holder hholder⟩

/-- An object is popped, hit while it is out of the queue, and popped again; calls for a second
admission and for a stale ticket come in between. -/
theorem consistent_after_stray_calls :
    ∃ events r, runCalls perform (empty .lru 100)
        [.insert 5 ⟨0, 1⟩ 10, .pop, .insert 3 ⟨9, 1⟩ 4, .touch 2 ⟨9, 1⟩, .touch 4 ⟨0, 1⟩,
          .insert 6 ⟨1, 2⟩ 7, .pop] = .ok (events, r) ∧
      events = [.inserted ⟨0, 1⟩, .popped ⟨0, 1⟩, .ignored, .ignored, .touched ⟨0, 1⟩,
        .inserted ⟨1, 2⟩, .popped ⟨0, 1⟩] ∧
      r.Consistent ∧ r.residents[(1 : ObjectId)]? = some ⟨⟨0, 1⟩, ⟨2, 4, 10, 5⟩⟩ ∧
      r.queue.priority? ⟨0, 1⟩ = none ∧ PoppedSince ⟨0, 1⟩ events := by
  have hends : (fun done : List Event × Roster =>
        (done.1, done.2.residents[(1 : ObjectId)]?, done.2.queue.priority? ⟨0, 1⟩)) <$>
      runCalls perform (empty .lru 100)
        [.insert 5 ⟨0, 1⟩ 10, .pop, .insert 3 ⟨9, 1⟩ 4, .touch 2 ⟨9, 1⟩, .touch 4 ⟨0, 1⟩,
          .insert 6 ⟨1, 2⟩ 7, .pop] =
      .ok ([.inserted ⟨0, 1⟩, .popped ⟨0, 1⟩, .ignored, .ignored, .touched ⟨0, 1⟩,
        .inserted ⟨1, 2⟩, .popped ⟨0, 1⟩], some ⟨⟨0, 1⟩, ⟨2, 4, 10, 5⟩⟩, none) := by
    cbv
  obtain ⟨⟨events, r⟩, hrun, heq⟩ := map_eq_ok.mp hends
  simp only [Prod.mk.injEq] at heq
  obtain ⟨hevents, hres, hqueue⟩ := heq
  obtain ⟨hcon, hpopped, -⟩ := consistent_after_calls .lru 100 hrun
  exact ⟨events, r, hrun, hevents, hcon, hres, hqueue, (hpopped ⟨0, 1⟩ _ hres).mp hqueue⟩

end Roster
end CacheSim
