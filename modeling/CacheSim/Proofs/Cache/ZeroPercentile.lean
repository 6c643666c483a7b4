import CacheSim.Proofs.Ages
import CacheSim.Proofs.Cache.Bounds
import CacheSim.Proofs.Cache.Collapse
import CacheSim.Proofs.Cache.Conservation
import CacheSim.Proofs.Cache.Frozen
import CacheSim.Proofs.Roster.Consistency

/-!
# Percentiles of zero

Percentile `0.0` of the access counts is the smallest one, and percentile `0.0` of the ages is that
of the youngest object.  An object is in the population when it is scored, with its new count, so no
count is below that percentile and no age is either.  The policies that compare with these
percentiles put every object into the same band, and a policy with one band is least recent use.

* `Scene.LeastAtZero`: what a scorer sees at percentile `0.0`;
* `Roster.Shows.leastAtZero`: it sees that whenever the population is counted right;
* `Cache.lru_at_zero_percentiles`: the policies with percentile `0.0`.
-/

namespace CacheSim

/-! ## What a scorer sees -/

/-- The object that is scored is in the population, and nothing in the population is below the
percentile `0.0`. -/
structure Scene.LeastAtZero (scene : Scene) : Prop where
  /-- The count of the object is one of the counts. -/
  counted : scene.profile.accesses ∈ scene.counts.toList
  leastCount : ∀ accesses ∈ scene.counts.toList, scene.counts.percentile 0.0 ≤ accesses
  /-- The admission time of the object is one of the admission times. -/
  admitted : scene.profile.entered ∈ scene.entered.toList
  /-- The youngest object is found as long as a float can count the objects. -/
  leastAge : scene.ages.size < 2 ^ 53 → ∀ entered ∈ scene.entered.toList,
    scene.ages.percentile 0.0 ≤ Word.monus scene.now entered

variable {scene : Scene} {residents : Residents}

lemma Roster.Shows.mem_profiles (h : Roster.Shows scene residents) :
    scene.profile ∈ residents.profiles := by
  obtain ⟨t, hres⟩ := h.scored
  exact Residents.mem_profiles.mpr ⟨scene.id, t, hres⟩

lemma Roster.Shows.leastAtZero (h : Roster.Shows scene residents) : scene.LeastAtZero where
  counted := h.census.counts.perm.mem_iff.mpr (List.mem_map_of_mem h.mem_profiles)
  leastCount := fun accesses hmem => by
    have hle := h.census.counts.percentile_zero_le (h.census.counts.perm.mem_iff.mp hmem)
    rwa [ne_eq, Std.compare_eq_lt, UInt32.not_lt] at hle
  admitted := h.census.entered.perm.mem_iff.mpr (List.mem_map_of_mem h.mem_profiles)
  leastAge := fun hfew entered hmem => by
    have hle := h.census.entered.le_percentile_one (h.census.entered.perm.mem_iff.mp hmem) hfew
    rw [ne_eq, Std.compare_eq_lt, UInt64.not_lt] at hle
    rw [Ages.percentile, show clampUnit (1.0 - 0.0) = 1.0 by decide]
    exact Word.monus_le_monus hle

namespace Cache

variable {c c' : Cache} {id : ObjectId} {x : Resident} {capacity budget : UInt64}
variable {unitSizes : Bool} {calls : List Call} {scorer : Scorer}

/-- A stored object shows the population. -/
lemma Lockstep.shows (h : c.Lockstep) (hx : c.roster.residents[id]? = some x) :
    Roster.Shows (c.roster.scene c.clock id x.profile) c.roster.residents :=
  ⟨h.roster.census, x.ticket, hx⟩

/-! ## One band -/

/-- No object has been accessed less than the least accessed one. -/
lemma oneBand_of_least_count : OneBand (fun _ => True) (.percentileLfu 0.0) 1 := by
  intro c id x hlock _ hx
  have hleast := (hlock.shows hx).leastAtZero
  rw [Composite.band, if_neg (UInt32.not_lt.mpr (hleast.leastCount _ hleast.counted))]

/-- A cache with so few objects that a float can count them. -/
def FewObjects (c : Cache) : Prop :=
  c.size < 2 ^ 53

/-- No object is younger than the youngest. -/
lemma oneBand_of_least_age : OneBand FewObjects (.ageGated 0.0) 0 := by
  intro c id x hlock hfew hx
  have hleast := (hlock.shows hx).leastAtZero
  have hsize : c.roster.entered.size < 2 ^ 53 :=
    Nat.lt_of_le_of_lt hlock.populated.entered hfew
  rw [Composite.band, if_pos]
  exact hleast.leastAge hsize _ hleast.admitted

/-- There are as many objects in the other unit. -/
lemma Scaled.size_eq {factor : Nat} (hs : Scaled factor c c') : c'.size = c.size := by
  refine Table.size_eq_of_mem_iff fun id => ?_
  rw [Std.TreeMap.mem_iff_isSome_getElem?, Std.TreeMap.mem_iff_isSome_getElem?,
    Option.isSome_iff_ne_none, Option.isSome_iff_ne_none]
  exact not_congr (hs.stored_eq_none_iff id)

/-- Only requests bring objects into the cache. -/
lemma fewObjects_of_few_requests (hfew : calls.countP Call.isRequest < 2 ^ 53) :
    Throughout FewObjects (new capacity (.empty scorer budget) unitSizes) calls := by
  intro early answers c hearly hrun
  obtain ⟨events, htrail, hcalls, -⟩ := trail_of_run hrun
  have haccounts := htrail.accounts (lockstep_new capacity budget scorer unitSizes)
    (accounts_nil capacity budget scorer unitSizes)
  have hle : early.countP Call.isRequest ≤ calls.countP Call.isRequest :=
    hearly.sublist.countP_le
  have hobjects := haccounts.objects
  have hhits := haccounts.hits
  have hrequests := haccounts.requests
  rw [← hcalls, List.countP_map] at hle
  change c.size < 2 ^ 53
  change events.countP (fun e => e.call.isRequest) ≤ _ at hle
  omega

/-- **Percentiles of zero mean least recent use.**  Whatever the capacity, the budget for ghosts and
the calls, and whether sizes count or not, the answers and the counters of a run (or the overflow
with which it ends) are the same under

* the policy that evicts objects with fewer accesses than percentile `0.0` first, and least recent
  use;
* the policy that evicts objects that are as old as percentile `0.0` of the ages first, and least
  recent use, if there are always fewer than `2 ^ 53` objects in one of the two runs.

Whatever the policy, when an object is scored, which happens when it has been requested and is
stored then, it is in the population, no count is below percentile `0.0` of the counts, and no age
is below percentile `0.0` of the ages, as long as a float can count the objects. -/
theorem lru_at_zero_percentiles (capacity budget : UInt64) (unitSizes : Bool)
    (calls : List Call) :
    outcome capacity budget unitSizes calls (.percentileLfu 0.0) =
      outcome capacity budget unitSizes calls .lru ∧
    (Throughout FewObjects (new capacity (.empty (.ageGated 0.0) budget) unitSizes) calls ∨
        Throughout FewObjects (new capacity (.empty .lru budget) unitSizes) calls →
      outcome capacity budget unitSizes calls (.ageGated 0.0) =
        outcome capacity budget unitSizes calls .lru) ∧
    ∀ (scorer : Scorer) (events : List Event) (c : Cache),
      Trail (new capacity (.empty scorer budget) unitSizes) events c →
      ∀ e ∈ events, ∀ (id : ObjectId) scene, e.call.requests id = true → e.scene? id = some scene →
        scene.LeastAtZero ∧ ∃ object p, e.after.stored[id]? = some object ∧
          scorer.priority scene = .ok p ∧
          e.after.roster.queue.priority? object.ticket = some p := by
  refine ⟨?_, fun hfew => ?_, fun scorer events c htrail e he id scene hrequests hscene => ?_⟩
  · exact outcome_of_band oneBand_of_least_count (fun _ _ _ _ => trivial)
      (Or.inl fun _ _ _ _ _ => trivial)
  · refine outcome_of_band oneBand_of_least_age (fun c c' hs hfew => ?_) hfew
    rw [FewObjects, hs.size_eq]
    exact hfew
  · obtain ⟨earlier, later, heq⟩ := List.append_of_mem he
    obtain ⟨hbefore, hcall⟩ := htrail.before heq
    obtain ⟨hlock, hsame⟩ := hbefore.lockstep (lockstep_new capacity budget scorer unitSizes)
    have hafter := hlock.perform hcall
    rw [Event.scene?, Roster.profile?, Option.map_map, Option.map_eq_some_iff] at hscene
    obtain ⟨x, hx, rfl⟩ := hscene
    obtain ⟨p, hp, hqueued⟩ := scored_of_perform hlock hcall hrequests hx
    have hscorer : e.after.roster.scorer = scorer :=
      (hsame.trans (sameSetup_of_perform hlock hcall)).scorer
    rw [hscorer] at hp
    exact ⟨(hafter.shows hx).leastAtZero, x.stored, p, hafter.stored_of_resident hx, hp, hqueued⟩

/-- A hit, evictions for room and from outside, and an object that is too large, in a cache of two
bytes; and the scene of its first admission. -/
theorem lru_at_zero_percentiles_for_small_objects :
    ∃ calls answers tally answer c,
      calls = [.request ⟨0, 1, 1⟩, .request ⟨0, 2, 1⟩, .request ⟨0, 1, 1⟩, .request ⟨0, 3, 1⟩,
        .request ⟨0, 4, 5⟩, .evict 0, .request ⟨0, 2, 1⟩, .request ⟨0, 5, 1⟩] ∧
      outcome 2 3 false calls .lru = .ok (answers, tally) ∧
      answers.map Answer.victims = [[], [], [], [⟨1, 2⟩], [], [⟨0, 1⟩], [], [⟨2, 3⟩]] ∧
      outcome 2 3 false calls (.percentileLfu 0.0) = .ok (answers, tally) ∧
      outcome 2 3 false calls (.ageGated 0.0) = .ok (answers, tally) ∧
      (new 2 (.empty .lru 3) false).perform (.request ⟨0, 1, 1⟩) = .ok (answer, c) ∧
      (c.roster.scene c.clock 1 (.start 1 1)).LeastAtZero := by
  have hends : (fun done : List Answer × Tally => done.1.map Answer.victims) <$>
      outcome 2 3 false [.request ⟨0, 1, 1⟩, .request ⟨0, 2, 1⟩, .request ⟨0, 1, 1⟩,
        .request ⟨0, 3, 1⟩, .request ⟨0, 4, 5⟩, .evict 0, .request ⟨0, 2, 1⟩,
        .request ⟨0, 5, 1⟩] .lru =
      .ok [[], [], [], [⟨1, 2⟩], [], [⟨0, 1⟩], [], [⟨2, 3⟩]] := by
    cbv
  have hstart : (fun done : Answer × Cache => done.2.roster.profile? 1) <$>
      (new 2 (.empty .lru 3) false).perform (.request ⟨0, 1, 1⟩) = .ok (some (.start 1 1)) := by
    cbv
  obtain ⟨⟨answers, tally⟩, hrun, hvictims⟩ := map_eq_ok.mp hends
  obtain ⟨⟨answer, c⟩, hcall, hprofile⟩ := map_eq_ok.mp hstart
  obtain ⟨hcounts, hages, hscenes⟩ := lru_at_zero_percentiles 2 3 false
    [.request ⟨0, 1, 1⟩, .request ⟨0, 2, 1⟩, .request ⟨0, 1, 1⟩, .request ⟨0, 3, 1⟩,
      .request ⟨0, 4, 5⟩, .evict 0, .request ⟨0, 2, 1⟩, .request ⟨0, 5, 1⟩]
  obtain ⟨hleast, -⟩ := hscenes .lru [⟨_, _, answer, c⟩] c (.snoc .nil hcall) _
    (List.mem_singleton.mpr rfl) 1 (c.roster.scene c.clock 1 (.start 1 1)) rfl
    (by rw [Event.scene?, hprofile, Option.map_some])
  exact ⟨_, answers, tally, answer, c, rfl, hrun, hvictims, hcounts.trans hrun,
    (hages (Or.inr (fewObjects_of_few_requests (by decide)))).trans hrun, hcall, hleast⟩

end Cache
end CacheSim
