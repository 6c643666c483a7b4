import CacheSim.Program
import CacheSim.Proofs.Sweep.Report

/-!
# Configurations that have been checked

A configuration is checked once, before anything is simulated.  What is checked there implies what
the sample, the policies, the ghosts and the caches check again by themselves, also after sizes have
been scaled down; and once a cache is set up, only the counters of requests limit what it can do.

* `Config.check_eq_ok`: what a checked configuration satisfies;
* `Config.exists_build`: every cache of a checked configuration can be set up, under any policy;
* `Config.checked_config_runs`: its simulations have results.
-/

namespace CacheSim

namespace Config

variable {c : Config} {sample : Option Sample} {size : UInt64}

/-! ## What is checked -/

/-- What is checked of a configuration. -/
structure Sound (c : Config) : Prop where
  cacheSizes : c.simulation.cacheSizes ≠ []
  positive : 0 ∉ c.simulation.cacheSizes
  workers : c.simulation.workers ≠ some 0
  ghostBudget : c.simulation.ghostBudget ≠ some 0
  samplingRatio : ∀ ratio ∈ c.trace.samplingRatio, Sample.isRatio ratio
  countPercentile : isFraction c.policy.countPercentile
  agePercentile : isFraction c.policy.agePercentile
  path : c.trace.path.isSome

lemma require_eq_ok {holds : Bool} {e : ConfigError} {u : Unit} :
    require holds e = .ok u ↔ holds = true := by
  cases holds <;> simp [require]

/-- Nothing else is checked. -/
lemma check_eq_ok : c.check = .ok () ↔ c.Sound := by
  have hempty : (!c.simulation.cacheSizes.isEmpty) = true ↔ c.simulation.cacheSizes ≠ [] := by
    simp
  have hzero : (!c.simulation.cacheSizes.contains 0) = true ↔ 0 ∉ c.simulation.cacheSizes := by
    simp
  rw [check]
  simp only [bind_eq_ok, require_eq_ok, hempty, hzero, bne_iff_ne, exists_const]
  constructor
  · rintro ⟨hsizes, hpositive, hworkers, hghosts, hrest⟩
    cases hratio : c.trace.samplingRatio with
    | none =>
      simp only [hratio, bind_eq_ok, require_eq_ok, exists_const, true_and] at hrest
      obtain ⟨hcount, hage, hpath⟩ := hrest
      exact ⟨hsizes, hpositive, hworkers, hghosts, by simp [hratio], hcount, hage, hpath⟩
    | some ratio =>
      simp only [hratio, bind_eq_ok, require_eq_ok, exists_const] at hrest
      obtain ⟨hinside, hcount, hage, hpath⟩ := hrest
      exact ⟨hsizes, hpositive, hworkers, hghosts, by simpa [hratio] using hinside, hcount, hage,
        hpath⟩
  · rintro ⟨hsizes, hpositive, hworkers, hghosts, hinside, hcount, hage, hpath⟩
    refine ⟨hsizes, hpositive, hworkers, hghosts, ?_⟩
    cases hratio : c.trace.samplingRatio with
    | none =>
      simp only [bind_eq_ok, require_eq_ok, exists_const, true_and]
      exact ⟨hcount, hage, hpath⟩
    | some ratio =>
      simp only [bind_eq_ok, require_eq_ok, exists_const]
      exact ⟨hinside ratio hratio, hcount, hage, hpath⟩

/-! ## What follows -/

/-- The sampling ratio of a sound configuration gives a sample. -/
lemma Sound.exists_sample (h : c.Sound) : ∃ sample, Program.sampleOf c = .ok sample ∧
    ∀ ratio ∈ c.trace.samplingRatio, ∃ s, Sample.new ratio = .ok s ∧ sample = some s := by
  cases hratio : c.trace.samplingRatio with
  | none => exact ⟨none, by rw [Program.sampleOf, hratio], by simp⟩
  | some ratio =>
    have hnew : Sample.new ratio =
        .ok ⟨ratio, (ratio * Sample.modulus.toFloat + 0.5).toUInt64⟩ := by
      rw [Sample.new, if_pos (h.samplingRatio ratio hratio)]
    refine ⟨_, by rw [Program.sampleOf, hratio]; dsimp only; rw [hnew], ?_⟩
    intro ratio' hratio'
    obtain rfl := Option.some.inj hratio'
    exact ⟨_, hnew, rfl⟩

lemma one_le_of_ne_zero {n : UInt64} (h : n ≠ 0) : 1 ≤ n := by
  have hpositive : n.toNat ≠ 0 := fun hzero => h (UInt64.toNat_inj.mp hzero)
  exact UInt64.le_iff_toNat_le.mpr (Nat.one_le_iff_ne_zero.mpr hpositive)

/-- A positive number of bytes stays positive when it is scaled. -/
lemma scaled_ne_zero (sample : Option Sample) (h : size ≠ 0) :
    Simulation.scaled sample size ≠ 0 := by
  cases sample with
  | none => exact h
  | some s =>
    change (if (size.toFloat * s.ratio).toUInt64 ≤ 1 then 1 else _) ≠ 0
    split
    · decide
    · next hlarge =>
      intro hzero
      rw [hzero] at hlarge
      exact hlarge (by decide)

lemma Sound.ghostBudget_ne_zero (h : c.Sound) (sample : Option Sample) (hsize : size ≠ 0) :
    Simulation.ghostBudget c.simulation sample size ≠ 0 := by
  rw [Simulation.ghostBudget]
  cases hbudget : c.simulation.ghostBudget with
  | none => exact scaled_ne_zero sample hsize
  | some budget =>
    have hne : budget ≠ 0 := by
      rintro rfl
      exact h.ghostBudget hbudget
    exact scaled_ne_zero sample hne

/-- Any policy can be given the parameters of a sound configuration. -/
lemma Sound.exists_scorer (h : c.Sound) (policy : Policy) :
    ∃ scorer, PolicySettings.scorer { c.policy with policy := policy } = .ok scorer := by
  have hcount := h.countPercentile
  have hage := h.agePercentile
  cases policy with
  | percentileLfu => exact ⟨.percentileLfu c.policy.countPercentile, by
      simp [PolicySettings.scorer, PolicySettings.checkFraction, hcount]⟩
  | ageGated => exact ⟨.ageGated c.policy.agePercentile, by
      simp [PolicySettings.scorer, PolicySettings.checkFraction, hage]⟩
  | _ => exact ⟨_, rfl⟩

/-- Every cache of a sound configuration can be set up, under any policy. -/
lemma Sound.exists_build (h : c.Sound) (sample : Option Sample) (policy : Policy)
    (hsize : size ∈ c.simulation.cacheSizes) :
    ∃ cache, Simulation.build c.simulation { c.policy with policy := policy } sample size =
        .ok cache ∧ 1 ≤ cache.capacity ∧ 1 ≤ cache.roster.ghosts.budget := by
  have hne : size ≠ 0 := by
    rintro rfl
    exact h.positive hsize
  obtain ⟨scorer, hscorer⟩ := h.exists_scorer policy
  have hbudget := h.ghostBudget_ne_zero sample hne
  refine ⟨_, Simulation.build_eq_ok.mpr ⟨scorer, hscorer, hbudget, rfl⟩, ?_, ?_⟩
  · exact one_le_of_ne_zero (scaled_ne_zero sample hne)
  · exact one_le_of_ne_zero hbudget

/-- Every simulation of a sound configuration has a result, under any policy. -/
lemma Sound.exists_run (h : c.Sound) (sample : Option Sample) (policy : Policy)
    {requests : List Request} (hrequests : requests.length < 2 ^ 32)
    (hbytes : Simulation.countedBytes c.simulation requests < 2 ^ 64)
    (hsize : size ∈ c.simulation.cacheSizes) :
    ∃ tally, Simulation.run c.simulation { c.policy with policy := policy } sample requests size =
      .ok tally := by
  obtain ⟨cache, hbuild, -⟩ := h.exists_build sample policy hsize
  exact Simulation.exists_run hbuild (by omega) hbytes

/-- Whatever has been collected of a sweep so far, every run has its counters and no error. -/
lemma Sound.tally_of_mem_runs (h : c.Sound) {requests : List Request}
    (hrequests : requests.length < 2 ^ 32)
    (hbytes : Simulation.countedBytes c.simulation requests < 2 ^ 64)
    {permits n : Nat} {p : Sweep.Progress} {samplingRatio : Option Float}
    (hreaches : Sweep.Reaches permits (Simulation.run c.simulation c.policy sample requests)
      c.simulation.cacheSizes n p)
    {run : RunReport}
    (hrun : run ∈ (Sweep.collect c.policy.policy samplingRatio p.collected).runs) :
    run.error = none ∧ ∃ tally, run.tally = some tally := by
  have haccounts := Sweep.Progress.accounts hreaches
  have hcollected : run.cacheSize ∈ p.collected.map Finished.cacheSize :=
    Sweep.runs_perm.mem_iff.mp (List.mem_map_of_mem hrun)
  have hsize : run.cacheSize ∈ c.simulation.cacheSizes :=
    haccounts.tasks.mem_iff.mp (List.mem_append_right _ hcollected)
  obtain ⟨tally, htally⟩ := h.exists_run sample c.policy.policy hrequests hbytes hsize
  have hcarries : run.Carries (.ok tally) :=
    htally ▸ Sweep.carries_of_mem_runs haccounts.collected hrun
  exact ⟨hcarries.2, tally, hcarries.1⟩

/-- **A checked configuration can be simulated.**  Its sampling ratio, if it has one, gives a
sample.  At each of its cache sizes and under each policy the cache can be set up, with at least one
byte for objects and one for ghosts, also when it is scaled down.  Requests of fewer than `2 ^ 32`
that count for fewer than `2 ^ 64` bytes are simulated to the end.  There is a report exactly if
the workers can be counted, which is not checked; then, on every schedule, the sweep can go on until
it is complete, and each of its runs is reported with its counters and without an error. -/
theorem checked_config_runs (hcheck : c.check = .ok ()) :
    ∃ sample, Program.sampleOf c = .ok sample ∧
      (∀ ratio ∈ c.trace.samplingRatio, ∃ s, Sample.new ratio = .ok s ∧ sample = some s) ∧
      (∀ size ∈ c.simulation.cacheSizes, ∀ policy : Policy,
        ∃ cache, Simulation.build c.simulation { c.policy with policy := policy } sample size =
          .ok cache ∧ 1 ≤ cache.capacity ∧ 1 ≤ cache.roster.ghosts.budget) ∧
      ∀ requests : List Request, requests.length < 2 ^ 32 →
        Simulation.countedBytes c.simulation requests < 2 ^ 64 →
        (∀ size ∈ c.simulation.cacheSizes, ∀ policy : Policy, ∃ tally,
          Simulation.run c.simulation { c.policy with policy := policy } sample requests size =
            .ok tally) ∧
        ((∃ report, Sweep.run c.simulation c.policy sample requests = .ok report) ↔
          ∀ workers ∈ c.simulation.workers, workers.toNat < 2 ^ 61) ∧
        ((∀ workers ∈ c.simulation.workers, workers.toNat < 2 ^ 61) →
          ∀ processors n p, Sweep.Reaches (Sweep.permits c.simulation processors)
              (Simulation.run c.simulation c.policy sample requests) c.simulation.cacheSizes n p →
            (p.IsComplete ∨ ∃ p', Sweep.Advances (Sweep.permits c.simulation processors)
              (Simulation.run c.simulation c.policy sample requests) p p') ∧
            ∀ run ∈ (Sweep.collect c.policy.policy (sample.map Sample.ratio) p.collected).runs,
              run.error = none ∧ ∃ tally, run.tally = some tally) := by
  have h := check_eq_ok.mp hcheck
  obtain ⟨sample, hsample, hnew⟩ := h.exists_sample
  refine ⟨sample, hsample, hnew, fun size hsize policy => h.exists_build sample policy hsize,
    fun requests hrequests hbytes => ⟨fun size hsize policy =>
      h.exists_run sample policy hrequests hbytes hsize, ?_, fun _ processors n p hreaches => ?_⟩⟩
  · constructor
    · rintro ⟨report, hrun⟩
      obtain ⟨⟨⟩, hworkers, -⟩ := bind_eq_ok.mp hrun
      exact Sweep.checkWorkers_eq_ok.mp hworkers
    · intro hworkers
      exact ⟨_, bind_eq_ok.mpr ⟨(), Sweep.checkWorkers_eq_ok.mpr hworkers, rfl⟩⟩
  · exact ⟨Sweep.isComplete_or_advances (Nat.le_max_right _ _) p,
      fun run hrun => h.tally_of_mem_runs hrequests hbytes hreaches hrun⟩

/-- Two small caches for one half of the objects. -/
def halved : Config where
  simulation := { cacheSizes := [100, 1], workers := some 2, ghostBudget := some 1 }
  policy := { policy := .ageGated }
  trace := { path := some "trace.csv", samplingRatio := some 0.5 }

/-- The smaller cache and its ghosts are scaled down to nothing, and get one byte each. -/
theorem halved_config_runs :
    ∃ sample, Program.sampleOf halved = .ok sample ∧
      (∃ cache, Simulation.build halved.simulation { halved.policy with policy := .percentileLfu }
        sample 1 = .ok cache ∧ 1 ≤ cache.capacity ∧ 1 ≤ cache.roster.ghosts.budget) ∧
      (∃ tally, Simulation.run halved.simulation { halved.policy with policy := .lru } sample
        [⟨0, 7, 30⟩, ⟨1, 7, 30⟩] 100 = .ok tally) ∧
      ∃ report, Sweep.run halved.simulation halved.policy sample [⟨0, 7, 30⟩, ⟨1, 7, 30⟩] =
        .ok report := by
  have hsound : halved.Sound := by
    refine ⟨by decide, by decide, by decide, by decide, ?_, by decide, by decide, rfl⟩
    intro ratio hratio
    rw [← Option.some.inj hratio]
    decide
  have hworkers : ∀ workers ∈ halved.simulation.workers, workers.toNat < 2 ^ 61 := by
    intro workers hmem
    have htwo : (2 : UInt64).toNat = 2 := rfl
    rw [← Option.some.inj hmem]
    omega
  obtain ⟨sample, hsample, -, hbuild, hruns⟩ := checked_config_runs (check_eq_ok.mpr hsound)
  have hrequests : [(⟨0, 7, 30⟩ : Request), ⟨1, 7, 30⟩].length < 2 ^ 32 := by simp
  have hbytes : Simulation.countedBytes halved.simulation [⟨0, 7, 30⟩, ⟨1, 7, 30⟩] < 2 ^ 64 := by
    simp [Simulation.countedBytes, halved]
  obtain ⟨hrun, hsweep, -⟩ := hruns _ hrequests hbytes
  exact ⟨sample, hsample, hbuild 1 (by decide) .percentileLfu, hrun 100 (by decide) .lru,
    hsweep.mpr hworkers⟩

end Config

end CacheSim
