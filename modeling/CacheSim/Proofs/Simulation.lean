import CacheSim.Proofs.Cache.Coverage
import CacheSim.Simulation

/-!
# Whole simulations

A simulation is a run of requests on the cache that the settings describe.  The nominal size of
that cache is a name for the counters and nothing else, so all that holds of runs on fresh caches
holds of simulations.

* `Simulation.run_eq_ok`: a simulation is a run of requests;
* `Simulation.cacheSize_of_run`: its counters are those of the nominal size;
* `Simulation.exists_run`: it has a result if the requests and their bytes can be counted.
-/

namespace CacheSim

namespace Cache

variable {c c' : Cache} {requests : List Request} {call : Call} {answer : Answer}

/-- A trace that is replayed is a run of requests. -/
lemma replay_eq : c.replay requests =
    (fun done : List Answer × Cache => done.2) <$> runCalls perform c (requests.map .request) := by
  induction requests generalizing c with
  | nil => rfl
  | cons r requests ih =>
    have hcons : c.replay (r :: requests) =
        ((·.2) <$> c.request r) >>= fun c => c.replay requests := List.foldlM_cons
    rw [hcons, List.map_cons, runCalls, perform]
    cases c.request r with
    | error e => rfl
    | ok done =>
      change done.2.replay requests = _ <$> (runCalls perform done.2 _ >>= _)
      rw [ih]
      cases runCalls perform done.2 (requests.map .request) <;> rfl

lemma replay_eq_ok : c.replay requests = .ok c' ↔
    ∃ answers, runCalls perform c (requests.map .request) = .ok (answers, c') := by
  rw [replay_eq, map_eq_ok]
  simp only [Prod.exists, exists_eq_right]

/-- No call changes the cache size that is reported on. -/
lemma cacheSize_of_perform (h : c.Lockstep) (hcall : c.perform call = .ok (answer, c')) :
    c'.tally.cacheSize = c.tally.cacheSize := by
  have hcounts := congrArg Counts.cacheSize (books_of_perform h hcall).counts
  exact UInt64.toNat_inj.mp hcounts

/-- A fresh cache under a nominal size. -/
def nominal (capacity budget : UInt64) (scorer : Scorer) (unitSizes : Bool) (size : UInt64) :
    Cache :=
  (new capacity (.empty scorer budget) unitSizes).withNominalSize size

lemma lockstep_nominal (capacity budget : UInt64) (scorer : Scorer) (unitSizes : Bool)
    (size : UInt64) : (nominal capacity budget scorer unitSizes size).Lockstep :=
  (lockstep_new capacity budget scorer unitSizes).count _ _

/-- The nominal size covers nothing, and needs no cover. -/
lemma covers_nominal (capacity budget : UInt64) (scorer : Scorer) (unitSizes : Bool)
    (size : UInt64) : (nominal capacity budget scorer unitSizes size).Covers 0 0 := by
  obtain ⟨h₁, h₂, h₃, h₄, h₅, h₆, h₇, h₈, h₉, h₁₀, h₁₁⟩ :=
    covers_new capacity budget scorer unitSizes
  exact ⟨h₁, h₂, h₃, h₄, h₅, h₆, h₇, h₈, h₉, h₁₀, h₁₁⟩

end Cache

namespace Simulation

variable {settings : SimulationSettings} {policy : PolicySettings} {sample : Option Sample}
variable {requests : List Request} {size : UInt64} {cache : Cache} {tally : Tally}

/-- The bytes that ghosts may take. -/
def ghostBudget (settings : SimulationSettings) (sample : Option Sample) (size : UInt64) : UInt64 :=
  (settings.ghostBudget.map (scaled sample)).getD (scaled sample size)

/-- The cache that is built, if there is one. -/
lemma build_eq_ok : build settings policy sample size = .ok cache ↔
    ∃ scorer, policy.scorer = .ok scorer ∧ ghostBudget settings sample size ≠ 0 ∧
      cache = .nominal (scaled sample size) (ghostBudget settings sample size) scorer
        settings.unitSizes size := by
  simp only [build, bind_eq_ok, Roster.new, Except.ok.injEq, Cache.nominal, ghostBudget]
  constructor
  · rintro ⟨scorer, hscorer, roster, hroster, rfl⟩
    split at hroster
    · cases hroster
    · next hbudget =>
      obtain rfl := Except.ok.inj hroster
      exact ⟨scorer, hscorer, hbudget, rfl⟩
  · rintro ⟨scorer, hscorer, hbudget, rfl⟩
    exact ⟨scorer, hscorer, _, if_neg hbudget, rfl⟩

/-- A simulation with a result is a run of requests on the cache that is built. -/
lemma run_eq_ok : run settings policy sample requests size = .ok tally ↔
    ∃ cache answers cache', build settings policy sample size = .ok cache ∧
      runCalls Cache.perform cache (requests.map .request) = .ok (answers, cache') ∧
      cache'.tally = tally := by
  simp only [run, bind_eq_ok, mapError_eq_ok, Cache.replay_eq_ok, Except.ok.injEq]
  constructor
  · rintro ⟨cache, hbuild, cache', ⟨answers, hrun⟩, rfl⟩
    exact ⟨cache, answers, cache', hbuild, hrun, rfl⟩
  · rintro ⟨cache, answers, cache', hbuild, hrun, rfl⟩
    exact ⟨cache, hbuild, cache', ⟨answers, hrun⟩, rfl⟩

/-- The counters of a simulation are reported under its nominal size. -/
lemma cacheSize_of_run (h : run settings policy sample requests size = .ok tally) :
    tally.cacheSize = size := by
  obtain ⟨cache, answers, cache', hbuild, hrun, rfl⟩ := run_eq_ok.mp h
  obtain ⟨scorer, -, -, rfl⟩ := build_eq_ok.mp hbuild
  have hstart := Cache.lockstep_nominal (scaled sample size) (ghostBudget settings sample size)
    scorer settings.unitSizes size
  refine (runCalls_invariant (P := fun c => c.Lockstep ∧ c.tally.cacheSize = size)
    ⟨hstart, rfl⟩ ?_ hrun).2
  rintro c call answer c' ⟨hlock, hsize⟩ hcall
  exact ⟨hlock.perform hcall, (Cache.cacheSize_of_perform hlock hcall).trans hsize⟩

/-- The bytes that requests count for. -/
def countedBytes (settings : SimulationSettings) (requests : List Request) : Nat :=
  (requests.map fun r => if settings.unitSizes then 1 else r.size.toNat).sum

/-- A simulation that can be set up has a result if its requests and their bytes can be counted. -/
lemma exists_run (hbuild : build settings policy sample size = .ok cache)
    (hrequests : requests.length < 2 ^ 64) (hbytes : countedBytes settings requests < 2 ^ 64) :
    ∃ tally, run settings policy sample requests size = .ok tally := by
  obtain ⟨scorer, hscorer, -, rfl⟩ := build_eq_ok.mp hbuild
  have hsafe : scorer.Safe := PolicySettings.safe_of_scorer hscorer
  have hsum : ((requests.map Cache.Call.request).map (Cache.Call.bytes settings.unitSizes)).sum =
      countedBytes settings requests := by
    rw [List.map_map]
    rfl
  -- nothing has been counted in the cache at the start
  have hroom : 0 + (requests.map Cache.Call.request).countP Cache.Call.isRequest < 2 ^ 64 ∧
      0 + ((requests.map Cache.Call.request).map (Cache.Call.bytes settings.unitSizes)).sum <
        2 ^ 64 := by
    rw [Cache.countP_isRequest_requests]
    omega
  have hstart := Cache.covers_nominal (scaled sample size) (ghostBudget settings sample size)
    scorer settings.unitSizes size
  obtain ⟨answers, cache', hrun⟩ :=
    hstart.exists_run (Cache.lockstep_nominal _ _ _ _ _) hsafe hroom.1 hroom.2
  exact ⟨_, run_eq_ok.mpr ⟨_, answers, cache', hbuild, hrun, rfl⟩⟩

end Simulation

end CacheSim
