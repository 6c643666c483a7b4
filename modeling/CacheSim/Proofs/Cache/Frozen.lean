import CacheSim.Proofs.Cache.Chronicle
import CacheSim.Proofs.Cache.Events
import CacheSim.Proofs.Cache.Victims
import CacheSim.Proofs.Scoring

/-!
# Priorities are frozen at the last touch

A scorer looks at the whole population and at the ghosts, and these go on changing after an object
has been scored.  The object keeps the priority it was given at its latest request, when it was
admitted or hit.  So the order in which objects are evicted cannot be read off the present state;
it can be read off the events, by what the scorer saw at the latest request for each object.

* `Cache.lastScene?`: what the scorer saw of an object at the latest request for it;
* `Cache.Frozen`: that scene tells the present features and the present priority of the object;
* `Cache.frozen_after_calls`: every run keeps that, every victim has the least score at its last
  touch, and the bands of the composite policies are respected.
-/

namespace CacheSim
namespace Cache

/-! ## The latest request for an object -/

/-- What there is to see of an object after an event, if it is on the roster then. -/
def Event.scene? (e : Event) (id : ObjectId) : Option Scene :=
  (e.after.roster.profile? id).map (e.after.roster.scene e.after.clock id)

/-- What there was to see of an object after the latest event that requested it. -/
def lastScene? (id : ObjectId) (events : List Event) : Option Scene :=
  (events.reverse.find? fun e => e.call.requests id).bind fun e => e.scene? id

/-- At their last touches `v` got a smaller score than `w`, or as small a score and `v` has the
smaller serial number. -/
def ScoredBelow (scorer : Scorer) (events : List Event) (v w : Ticket) : Prop :=
  ∃ scene scene' p p', lastScene? v.id events = some scene ∧
    lastScene? w.id events = some scene' ∧ scorer.priority scene = .ok p ∧
    scorer.priority scene' = .ok p' ∧ (p < p' ∨ p = p' ∧ v.serial < w.serial)

/-- At their last touches `v` was put into a lower band than `w`, or into the same band and `v` was
requested less recently. -/
def BandedBelow (policy : Composite) (events : List Event) (h : Chronicle) (v w : ObjectId) :
    Prop :=
  ∃ scene scene' b b', lastScene? v events = some scene ∧ lastScene? w events = some scene' ∧
    policy.band scene = .ok b ∧ policy.band scene' = .ok b' ∧
    (b < b' ∨ b = b' ∧ h.latest v < h.latest w)

variable {c c' : Cache} {id : ObjectId} {resident : Resident} {call : Call} {answer : Answer}
variable {events : List Event} {start : Cache} {v w : Ticket} {h : Chronicle}

lemma lastScene?_concat (id : ObjectId) (events : List Event) (e : Event) :
    lastScene? id (events ++ [e]) =
      if e.call.requests id then e.scene? id else lastScene? id events := by
  rw [lastScene?, List.reverse_append, List.reverse_singleton, List.singleton_append,
    List.find?_cons]
  cases e.call.requests id <;> rfl

/-- Every object has the features that were seen at its last touch, and is queued under the
priority that it was given then. -/
def Frozen (events : List Event) (c : Cache) : Prop :=
  ∀ (id : ObjectId) resident, c.roster.residents[id]? = some resident →
    ∃ scene p, lastScene? id events = some scene ∧ scene.profile = resident.profile ∧
      c.roster.scorer.priority scene = .ok p ∧
      c.roster.queue.priority? resident.ticket = some p

/-- The object that is requested is scored anew, and all others are left alone. -/
lemma Frozen.snoc (hfrozen : Frozen events c) (hlock : c.Lockstep)
    (hcall : c.perform call = .ok (answer, c')) :
    Frozen (events ++ [⟨c, call, answer, c'⟩]) c' := by
  intro id resident hres
  rw [lastScene?_concat]
  cases hrequests : call.requests id with
  | true =>
    obtain ⟨p, hp, hqueued⟩ := scored_of_perform hlock hcall hrequests hres
    refine ⟨c'.roster.scene c'.clock id resident.profile, p, ?_, rfl, hp, hqueued⟩
    rw [if_pos rfl, Event.scene?, Roster.profile?, hres]
    rfl
  | false =>
    obtain ⟨hold, hsame⟩ := frame_of_perform hlock hcall hrequests resident hres
    obtain ⟨scene, p, hscene, hprofile, hp, hqueued⟩ := hfrozen id resident hold
    refine ⟨scene, p, by simpa using hscene, hprofile, ?_, hsame.trans hqueued⟩
    rw [(sameSetup_of_perform hlock hcall).scorer]
    exact hp

lemma Trail.frozen (htrail : Trail start events c) (hlock : start.Lockstep)
    (hstart : Frozen [] start) : Frozen events c := by
  induction htrail with
  | nil => exact hstart
  | snoc hmore hcall ih => exact ih.snoc (hmore.lockstep hlock).1 hcall

/-! ## The order of the queue is the order of the last touches -/

lemma Frozen.scoredBelow (hfrozen : Frozen events c) (hlock : c.Lockstep) {size size' : UInt64}
    (hv : c.stored[v.id]? = some ⟨v, size⟩) (hw : c.stored[w.id]? = some ⟨w, size'⟩)
    (hahead : c.roster.queue.Ahead v w) : ScoredBelow c.roster.scorer events v w := by
  obtain ⟨p, p', hp, hp', hlt⟩ := hahead
  obtain ⟨profile, hres, -⟩ := hlock.stored_eq_some.mp hv
  obtain ⟨profile', hres', -⟩ := hlock.stored_eq_some.mp hw
  obtain ⟨scene, q, hscene, -, hq, hqueued⟩ := hfrozen v.id _ hres
  obtain ⟨scene', q', hscene', -, hq', hqueued'⟩ := hfrozen w.id _ hres'
  rw [hp, Option.some.injEq] at hqueued
  rw [hp', Option.some.injEq] at hqueued'
  subst hqueued hqueued'
  exact ⟨scene, scene', p, p', hscene, hscene', hq, hq', hlt⟩

/-- A scene at the last touch shows the time of the latest request. -/
lemma Frozen.lastAccess (hfrozen : Frozen events c) (hlock : c.Lockstep) (hrec : Recorded h c)
    (hid : id ∈ c.stored) {scene : Scene} (hscene : lastScene? id events = some scene) :
    scene.profile.lastAccess.toNat = h.latest id ∧ 0 < h.latest id := by
  obtain ⟨resident, hres⟩ := Table.mem_iff_exists.mp (hlock.mem_stored.mp hid)
  obtain ⟨scene', p, hscene', hprofile, -, -⟩ := hfrozen id resident hres
  rw [hscene, Option.some.injEq] at hscene'
  subst hscene'
  have hrecords := hrec.records id resident hres
  rw [hprofile]
  exact ⟨hrecords.lastAccess, hrecords.requested⟩

/-- A smaller composite score means a lower band, or the same band and an earlier request. -/
lemma Frozen.bandedBelow {policy : Composite} (hfrozen : Frozen events c) (hlock : c.Lockstep)
    (hrec : Recorded h c) (hv : v.id ∈ c.stored) (hw : w.id ∈ c.stored) (hne : v.id ≠ w.id)
    (hbelow : ScoredBelow policy.scorer events v w) :
    BandedBelow policy events h v.id w.id := by
  obtain ⟨scene, scene', p, p', hscene, hscene', hp, hp', hlt⟩ := hbelow
  obtain ⟨htime, hpos⟩ := hfrozen.lastAccess hlock hrec hv hscene
  obtain ⟨htime', -⟩ := hfrozen.lastAccess hlock hrec hw hscene'
  have hlatest : h.latest v.id ≠ h.latest w.id := fun heq => hne (Chronicle.latest_inj hpos heq)
  rw [Composite.scorer_priority, map_eq_ok] at hp hp'
  obtain ⟨b, hb, rfl⟩ := hp
  obtain ⟨b', hb', rfl⟩ := hp'
  refine ⟨scene, scene', b, b', hscene, hscene', hb, hb', ?_⟩
  rcases hlt with hlt | ⟨heq, -⟩
  · rw [banded_lt_banded_iff] at hlt
    omega
  · -- the same score would be given at the same time
    have hnot := Int.not_lt.mpr (Int.le_of_eq heq)
    have hnot' := Int.not_lt.mpr (Int.le_of_eq heq.symm)
    rw [banded_lt_banded_iff] at hnot hnot'
    omega

/-! ## Runs -/

/-- **Priorities are frozen at the last touch, and bands are respected.**  Whatever calls are made
to a fresh cache, as long as no counter overflows:

* every stored object is queued under the value that the scorer returned for what was to be seen
  of the object after the latest request for it, whatever has happened since;
* the victims of the next call have smaller scores at their last touches than all objects that
  stay, or as small scores and smaller serial numbers, and they are evicted in that order;
* under a composite policy, a victim was put at its last touch into a lower band than any object
  that is evicted later or stays, or into the same band and was requested less recently. -/
theorem frozen_after_calls (capacity budget : UInt64) (scorer : Scorer) (unitSizes : Bool)
    {calls : List Call} {answers : List Answer} {c : Cache}
    (hrun : runCalls perform (new capacity (.empty scorer budget) unitSizes) calls =
      .ok (answers, c)) :
    ∃ events, Trail (new capacity (.empty scorer budget) unitSizes) events c ∧
      events.map Event.call = calls ∧ events.map Event.answer = answers ∧
      (∀ (id : ObjectId) object, c.stored[id]? = some object →
        ∃ scene p, lastScene? id events = some scene ∧ scorer.priority scene = .ok p ∧
          c.roster.priority? object.ticket = some p) ∧
      ∀ call answer c', c.perform call = .ok (answer, c') →
        (answer.victims.Pairwise (ScoredBelow scorer events) ∧
          ∀ v ∈ answer.victims, (∃ size, c.stored[v.id]? = some ⟨v, size⟩) ∧
            ∀ (id : ObjectId) object, c.stored[id]? = some object →
              id ∉ answer.victims.map Ticket.id → ScoredBelow scorer events v object.ticket) ∧
        ∀ policy : Composite, scorer = policy.scorer →
          answer.victims.Pairwise (fun v w =>
            BandedBelow policy events (chronicle (calls.zip answers)) v.id w.id) ∧
          ∀ v ∈ answer.victims, ∀ id ∈ c.stored, id ∉ answer.victims.map Ticket.id →
            BandedBelow policy events (chronicle (calls.zip answers)) v.id id := by
  have hstart := lockstep_new capacity budget scorer unitSizes
  obtain ⟨events, htrail, hcalls, hanswers⟩ := trail_of_run hrun
  obtain ⟨hlock, hsame⟩ := htrail.lockstep hstart
  have hscorer : c.roster.scorer = scorer := hsame.scorer
  have hrec := (follows_of_run hrun).recorded
  have hfrozen : Frozen events c :=
    htrail.frozen hstart fun id resident hres => by simp [new, Roster.empty] at hres
  refine ⟨events, htrail, hcalls, hanswers, fun id object hstored => ?_,
    fun call answer c' hcall => ⟨?_, ?_⟩⟩
  · obtain ⟨profile, hres, -⟩ := hlock.stored_eq_some.mp hstored
    obtain ⟨scene, p, hscene, -, hp, hqueued⟩ := hfrozen id _ hres
    exact ⟨scene, p, hscene, hscorer ▸ hp, hqueued⟩
  · refine victims_of_perform hlock hcall fun v w size size' hv hw hne hahead => ?_
    rw [← hscorer]
    exact hfrozen.scoredBelow hlock hv hw hahead
  · rintro policy rfl
    obtain ⟨hpairs, hfirst⟩ := victims_of_perform
      (R := fun v w => BandedBelow policy events (chronicle (calls.zip answers)) v.id w.id)
      hlock hcall fun v w size size' hv hw hne hahead => by
        have hbelow := hfrozen.scoredBelow hlock hv hw hahead
        rw [hscorer] at hbelow
        exact hfrozen.bandedBelow hlock hrec (Table.mem_iff_exists.mpr ⟨_, hv⟩)
          (Table.mem_iff_exists.mpr ⟨_, hw⟩) hne hbelow
    refine ⟨hpairs, fun v hv id hid hnot => ?_⟩
    obtain ⟨object, hobject⟩ := Table.mem_iff_exists.mp hid
    have hbelow := (hfirst v hv).2 id object hobject hnot
    rwa [hlock.ticket_id hobject] at hbelow

/-- Under largest first the first object is put into the highest band, being alone.  By now it is
the largest of three and would be in band three.  But it is the third object that goes, which was
put into band six. -/
theorem frozen_since_alone :
    ∃ answers c events c', runCalls perform (new 10 (.empty .largestFirst 100) false)
        [.request ⟨0, 1, 3⟩, .request ⟨0, 2, 1⟩, .request ⟨0, 3, 2⟩] = .ok (answers, c) ∧
      Trail (new 10 (.empty .largestFirst 100) false) events c ∧
      c.roster.priority? ⟨0, 1⟩ = some (banded 9 1) ∧
      (c.roster.profile? 1).map (fun profile =>
        Scorer.largestFirst.priority (c.roster.scene c.clock 1 profile)) =
          some (.ok (banded 3 1)) ∧
      c.perform (.evict 9) = .ok (.evicted ⟨2, 3⟩, c') ∧
      BandedBelow .largestFirst events [(3, false), (2, false), (1, false)] 3 1 := by
  have hends : (fun done : List Answer × Cache =>
        (chronicle (List.zip [.request ⟨0, 1, 3⟩, .request ⟨0, 2, 1⟩, .request ⟨0, 3, 2⟩] done.1),
          done.2.contains 1, done.2.roster.priority? ⟨0, 1⟩,
          (done.2.roster.profile? 1).map (fun profile =>
            Scorer.largestFirst.priority (done.2.roster.scene done.2.clock 1 profile)),
          Prod.fst <$> done.2.perform (.evict 9))) <$>
      runCalls perform (new 10 (.empty .largestFirst 100) false)
        [.request ⟨0, 1, 3⟩, .request ⟨0, 2, 1⟩, .request ⟨0, 3, 2⟩] =
      .ok ([(3, false), (2, false), (1, false)], true, some (banded 9 1),
        some (.ok (banded 3 1)), .ok (.evicted ⟨2, 3⟩)) := by
    cbv
  obtain ⟨⟨answers, c⟩, hrun, heq⟩ := map_eq_ok.mp hends
  simp only [Prod.mk.injEq] at heq
  obtain ⟨hchronicle, hstored, hpriority, hnow, hnext⟩ := heq
  obtain ⟨⟨answer, c'⟩, hcall, rfl⟩ := map_eq_ok.mp hnext
  obtain ⟨events, htrail, -, -, -, hvictims⟩ :=
    frozen_after_calls 10 100 .largestFirst false hrun
  obtain ⟨-, hbands⟩ := hvictims _ _ _ hcall
  obtain ⟨-, hfirst⟩ := hbands .largestFirst rfl
  rw [hchronicle] at hfirst
  refine ⟨answers, c, events, c', hrun, htrail, hpriority, hnow, hcall, ?_⟩
  exact hfirst ⟨2, 3⟩ (by simp [Answer.victims]) 1 (Std.TreeMap.contains_iff_mem.mp hstored)
    (by simp [Answer.victims])

end Cache
end CacheSim
