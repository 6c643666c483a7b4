import CacheSim.Proofs.Metrics
import CacheSim.Proofs.Simulation
import CacheSim.Proofs.Sweep.Schedule

/-!
# The report does not depend on the schedule

The simulations of a sweep are reported in the order of their cache sizes, and their counters are
added up by cache size.  All simulations at one cache size have the same outcome.  So the order in
which they are collected leaves no trace in the runs.  Nor does it in the metrics of a cache size,
as long as no other one shares its series.

* `Sweep.anonymous_runs`: the runs are those of each cache size alone;
* `Sweep.getElem?_metrics`: the series of a cache size;
* `Sweep.report_on_every_schedule`: what is reported of a sweep, whatever its schedule.
-/

namespace CacheSim

/-- A run is reported with its counters, or else with the text of its error. -/
def RunReport.Carries (r : RunReport) : Except RunError Tally → Prop
  | .ok tally => r.tally = some tally ∧ r.error = none
  | .error e => r.tally = none ∧ r.error = some e.message

/-- A report without the id and the time. -/
def RunReport.anonymous (r : RunReport) : RunReport :=
  { r with runId := "-", elapsedMs := 0 }

namespace Sweep

variable {policy : Policy} {samplingRatio : Option Float} {name : String}
variable {simulate : UInt64 → Except RunError Tally} {finished finished' : List Finished}
variable {cacheSizes cacheSizes' : List UInt64} {size key : UInt64}

/-! ## Runs -/

/-- Every simulation has the outcome that it has alone. -/
def Faithful (simulate : UInt64 → Except RunError Tally) (finished : List Finished) : Prop :=
  ∀ f ∈ finished, f.outcome = simulate f.cacheSize

/-- What is reported of a cache size alone. -/
def entry (policy : Policy) (samplingRatio : Option Float)
    (simulate : UInt64 → Except RunError Tally) (size : UInt64) : RunReport :=
  report policy samplingRatio { cacheSize := size, outcome := simulate size }

lemma carries_report (f : Finished) : (report policy samplingRatio f).Carries f.outcome := by
  obtain ⟨runId, cacheSize, outcome, elapsedMs⟩ := f
  cases outcome <;> exact ⟨rfl, rfl⟩

lemma mem_runs {r : RunReport} : r ∈ (collect policy samplingRatio finished).runs ↔
    ∃ f ∈ finished, report policy samplingRatio f = r := by
  rw [collect, List.mem_mergeSort, List.mem_map]

/-- A run is reported with the outcome of the simulation alone. -/
lemma carries_of_mem_runs (h : Faithful simulate finished) {r : RunReport}
    (hr : r ∈ (collect policy samplingRatio finished).runs) :
    r.Carries (simulate r.cacheSize) := by
  obtain ⟨f, hf, rfl⟩ := mem_runs.mp hr
  have hcarries : (report policy samplingRatio f).Carries f.outcome := carries_report f
  rwa [h f hf] at hcarries

lemma runs_perm : ((collect policy samplingRatio finished).runs.map RunReport.cacheSize).Perm
    (finished.map Finished.cacheSize) := by
  refine ((List.mergeSort_perm _ _).map _).trans ?_
  rw [List.map_map]
  exact List.Perm.refl _

/-- Sorting by a word brings the words into order. -/
lemma pairwise_mergeSort_word {α : Type} (key : α → UInt64) (l : List α) :
    (l.mergeSort fun a b => decide (key a ≤ key b)).Pairwise fun a b => key a ≤ key b := by
  refine (List.pairwise_mergeSort ?_ ?_ l).imp of_decide_eq_true
  · intro a b c hab hbc
    exact decide_eq_true (UInt64.le_trans (of_decide_eq_true hab) (of_decide_eq_true hbc))
  · intro a b
    rw [Bool.or_eq_true, decide_eq_true_eq, decide_eq_true_eq]
    exact UInt64.le_total _ _

lemma runs_sorted : (collect policy samplingRatio finished).runs.Pairwise fun a b =>
    a.cacheSize ≤ b.cacheSize :=
  pairwise_mergeSort_word RunReport.cacheSize _

lemma map_entry_mergeSort (sizes : List UInt64) :
    (sizes.mergeSort fun a b => decide (a ≤ b)).map (entry policy samplingRatio simulate) =
      (sizes.map (entry policy samplingRatio simulate)).mergeSort fun a b =>
        decide (a.cacheSize ≤ b.cacheSize) :=
  List.map_mergeSort fun _ _ _ _ => rfl

/-- The runs are those of each cache size alone, in the order of the cache sizes. -/
lemma anonymous_runs (h : Faithful simulate finished) :
    (collect policy samplingRatio finished).runs.map RunReport.anonymous =
      ((finished.map Finished.cacheSize).mergeSort fun a b => decide (a ≤ b)).map
        (entry policy samplingRatio simulate) := by
  have hentries : (finished.map (report policy samplingRatio)).map RunReport.anonymous =
      (finished.map Finished.cacheSize).map (entry policy samplingRatio simulate) := by
    rw [List.map_map, List.map_map]
    refine List.map_congr_left fun f hf => ?_
    simp only [Function.comp_apply, entry, report, RunReport.anonymous, h f hf]
  have hruns : (collect policy samplingRatio finished).runs.map RunReport.anonymous =
      ((finished.map (report policy samplingRatio)).map RunReport.anonymous).mergeSort fun a b =>
        decide (a.cacheSize ≤ b.cacheSize) := List.map_mergeSort fun _ _ _ _ => rfl
  rw [hruns, hentries, map_entry_mergeSort]

/-- The simulations of some cache sizes, one after the other. -/
def each (simulate : UInt64 → Except RunError Tally) (cacheSizes : List UInt64) : List Finished :=
  cacheSizes.map fun size => { cacheSize := size, outcome := simulate size }

lemma faithful_each (simulate : UInt64 → Except RunError Tally) (cacheSizes : List UInt64) :
    Faithful simulate (each simulate cacheSizes) := by
  intro f hf
  obtain ⟨size, -, rfl⟩ := List.mem_map.mp hf
  rfl

lemma cacheSize_each (simulate : UInt64 → Except RunError Tally) (cacheSizes : List UInt64) :
    (each simulate cacheSizes).map Finished.cacheSize = cacheSizes := by
  rw [each, List.map_map]
  exact List.map_id _

/-- One after the other, the simulations are reported without ids and times. -/
lemma runs_each : (collect policy samplingRatio (each simulate cacheSizes)).runs =
    (cacheSizes.mergeSort fun a b => decide (a ≤ b)).map (entry policy samplingRatio simulate) := by
  rw [map_entry_mergeSort, collect, each, List.map_map]
  rfl

/-- Cache sizes have one order. -/
lemma mergeSort_eq_of_perm (h : cacheSizes.Perm cacheSizes') :
    (cacheSizes.mergeSort fun a b => decide (a ≤ b)) =
      cacheSizes'.mergeSort fun a b => decide (a ≤ b) := by
  have hsorted := pairwise_mergeSort_word (id : UInt64 → UInt64)
  refine List.Perm.eq_of_pairwise (fun _ _ _ _ => UInt64.le_antisymm) (hsorted cacheSizes)
    (hsorted cacheSizes') ?_
  exact (List.mergeSort_perm _ _).trans (h.trans (List.mergeSort_perm _ _).symm)

/-! ## Metrics -/

/-- No other one of the cache sizes shares the series of a cache size. -/
def OwnSeries (name : String) (cacheSizes : List UInt64) (size : UInt64) : Prop :=
  ∀ other ∈ cacheSizes,
    Metrics.seriesHash name (toString other) = Metrics.seriesHash name (toString size) →
      other = size

/-- The counters are reported under the cache size of the simulation. -/
def Named (simulate : UInt64 → Except RunError Tally) : Prop :=
  ∀ size tally, simulate size = .ok tally → tally.cacheSize = size

/-- The results of the simulations at a cache size. -/
def results (simulate : UInt64 → Except RunError Tally) (cacheSizes : List UInt64)
    (size : UInt64) : List Tally :=
  (cacheSizes.filter (· == size)).filterMap fun c => (simulate c).toOption

lemma results_of_perm (h : cacheSizes.Perm cacheSizes') (size : UInt64) :
    results simulate cacheSizes size = results simulate cacheSizes' size := by
  rw [results, results, List.filter_beq, List.filter_beq, h.count_eq]

/-- What is recorded are the results of the simulations that have one. -/
lemma mem_filterMap_toOption {t : Tally} :
    (t ∈ cacheSizes.filterMap fun size => (simulate size).toOption) ↔
      ∃ size ∈ cacheSizes, simulate size = .ok t := by
  rw [List.mem_filterMap]
  refine exists_congr fun size => and_congr_right fun _ => ?_
  cases simulate size <;> simp [Except.toOption]

lemma mem_results {t : Tally} :
    t ∈ results simulate cacheSizes size ↔ size ∈ cacheSizes ∧ simulate size = .ok t := by
  rw [results, mem_filterMap_toOption]
  constructor
  · rintro ⟨c, hc, hrun⟩
    obtain ⟨hmem, hsize⟩ := List.mem_filter.mp hc
    rw [← beq_iff_eq.mp hsize]
    exact ⟨hmem, hrun⟩
  · rintro ⟨hmem, hrun⟩
    exact ⟨size, List.mem_filter.mpr ⟨hmem, beq_self_eq_true size⟩, hrun⟩

/-- All results at one cache size are the same. -/
lemma eq_of_mem_results {t t' : Tally} (h : t ∈ results simulate cacheSizes size)
    (h' : t' ∈ results simulate cacheSizes size) : t = t' :=
  Except.ok.inj ((mem_results.mp h).2.symm.trans (mem_results.mp h').2)

/-- What is recorded are the results, in the order in which they are collected. -/
lemma metrics_eq (h : Faithful simulate finished) :
    (collect policy samplingRatio finished).metrics =
      Metrics.recordAll policy.name ((finished.map Finished.cacheSize).filterMap fun size =>
        (simulate size).toOption) := by
  have hresults : ((finished.map Finished.cacheSize).filterMap fun size =>
      (simulate size).toOption) = finished.filterMap fun f => f.outcome.toOption := by
    rw [List.filterMap_map]
    refine List.filterMap_congr fun f hf => ?_
    rw [Function.comp_apply, h f hf]
  rw [hresults, Metrics.recordAll, List.foldl_filterMap]
  change finished.foldl (recordFinished policy) .empty = _
  congr 1
  funext m f
  rw [recordFinished]
  cases f.outcome <;> rfl

/-- A series that is listed is found under its cache size. -/
lemma getElem?_of_mem_listed (h : Faithful simulate finished) {s : Series}
    (hs : s ∈ (collect policy samplingRatio finished).metrics.listed) :
    (collect policy samplingRatio finished).metrics.series[Metrics.seriesHash policy.name
        s.cacheSize]? = some s := by
  rw [metrics_eq h] at hs ⊢
  exact Metrics.getElem?_of_mem_listed hs

/-- The results that belong to a series of its own. -/
lemma filter_keyOf (hname : Named simulate) (hown : OwnSeries name cacheSizes size) :
    (cacheSizes.filterMap fun size => (simulate size).toOption).filter
        (fun t => Metrics.keyOf name t == Metrics.seriesHash name (toString size)) =
      results simulate cacheSizes size := by
  rw [results, List.filter_filterMap, List.filterMap_filter]
  refine List.filterMap_congr fun c hc => ?_
  cases houtcome : simulate c with
  | error e => simp [Except.toOption]
  | ok tally =>
    have hkey : Metrics.keyOf name tally = Metrics.seriesHash name (toString c) := by
      rw [Metrics.keyOf, hname c tally houtcome]
    by_cases heq : c = size
    · simp [Except.toOption, hkey, heq]
    · have hne : Metrics.seriesHash name (toString c) ≠ Metrics.seriesHash name (toString size) :=
        mt (hown c hc) heq
      simp [Except.toOption, hkey, heq, hne]

lemma filter_keyOf_eq_nil (hname : Named simulate)
    (h : ∀ size ∈ cacheSizes, Metrics.seriesHash name (toString size) ≠ key) :
    (cacheSizes.filterMap fun size => (simulate size).toOption).filter
        (fun t => Metrics.keyOf name t == key) = [] := by
  rw [List.filter_eq_nil_iff]
  intro t ht
  obtain ⟨c, hc, hrun⟩ := mem_filterMap_toOption.mp ht
  rw [Metrics.keyOf, hname c t hrun]
  simpa using h c hc

/-- A series of the results at a cache size sums them up. -/
lemma sumsUp_of_seriesOf {s : Series}
    (h : Metrics.seriesOf name (results simulate cacheSizes size) = some s) :
    s.totals.SumsUp (results simulate cacheSizes size) := by
  have hsums : ((results simulate cacheSizes size).foldl SeriesTotals.add {}).SumsUp
      (results simulate cacheSizes size) :=
    SeriesTotals.sumsUp_foldl fun t ht t' ht' => by rw [eq_of_mem_results ht ht']
  cases hresults : results simulate cacheSizes size with
  | nil =>
    rw [hresults] at h
    cases h
  | cons t tallies =>
    rw [hresults] at h hsums
    obtain rfl := Option.some.inj h
    exact hsums

section Series

variable (h : Faithful simulate finished) (hname : Named simulate)
variable (hperm : (finished.map Finished.cacheSize).Perm cacheSizes)
include h hname hperm

/-- There are no series but those of the cache sizes. -/
lemma getElem?_metrics_eq_none
    (hkey : ∀ size ∈ cacheSizes, Metrics.seriesHash policy.name (toString size) ≠ key) :
    (collect policy samplingRatio finished).metrics.series[key]? = none := by
  have hkey' : ∀ size ∈ finished.map Finished.cacheSize,
      Metrics.seriesHash policy.name (toString size) ≠ key :=
    fun size hsize => hkey size (hperm.mem_iff.mp hsize)
  rw [metrics_eq h, Metrics.getElem?_recordAll, filter_keyOf_eq_nil hname hkey']
  rfl

/-- Every series has the labels of a cache size with results. -/
lemma owner_of_mem_listed {s : Series}
    (hs : s ∈ (collect policy samplingRatio finished).metrics.listed) :
    s.policy = policy.name ∧ ∃ size ∈ cacheSizes, s.cacheSize = toString size ∧
      results simulate cacheSizes size ≠ [] := by
  have hlookup := getElem?_of_mem_listed h hs
  rw [metrics_eq h, Metrics.getElem?_recordAll] at hlookup
  obtain ⟨hpolicy, t, ht, hlabel⟩ := Metrics.label_of_seriesOf hlookup
  obtain ⟨size, hsize, hrun⟩ := mem_filterMap_toOption.mp (List.mem_filter.mp ht).1
  have hmem : size ∈ cacheSizes := hperm.mem_iff.mp hsize
  rw [hname size t hrun] at hlabel
  exact ⟨hpolicy, size, hmem, hlabel, List.ne_nil_of_mem (mem_results.mpr ⟨hmem, hrun⟩)⟩

/-- A series that is shared with no other cache size adds up the results, if there are any. -/
lemma getElem?_metrics (hown : OwnSeries policy.name cacheSizes size) :
    (collect policy samplingRatio finished).metrics.series[Metrics.seriesHash policy.name
        (toString size)]? = Metrics.seriesOf policy.name (results simulate cacheSizes size) := by
  have hown' : OwnSeries policy.name (finished.map Finished.cacheSize) size :=
    fun other hother => hown other (hperm.mem_iff.mp hother)
  rw [metrics_eq h, Metrics.getElem?_recordAll, filter_keyOf hname hown', results_of_perm hperm]

/-- What is listed under a cache size with a series of its own sums up the results there. -/
lemma sumsUp_of_mem_listed (hown : OwnSeries policy.name cacheSizes size) {s : Series}
    (hs : s ∈ (collect policy samplingRatio finished).metrics.listed)
    (hlabel : s.cacheSize = toString size) :
    s.totals.SumsUp (results simulate cacheSizes size) := by
  have hlookup := getElem?_of_mem_listed h hs
  rw [hlabel, getElem?_metrics h hname hperm hown] at hlookup
  exact sumsUp_of_seriesOf hlookup

/-- A cache size with a series of its own is listed if it has results. -/
lemma exists_mem_listed_iff (hown : OwnSeries policy.name cacheSizes size) :
    (∃ s ∈ (collect policy samplingRatio finished).metrics.listed,
        s.cacheSize = toString size) ↔ results simulate cacheSizes size ≠ [] := by
  constructor
  · rintro ⟨s, hs, hlabel⟩
    obtain ⟨-, owner, howner, hlabel', hresults⟩ := owner_of_mem_listed h hname hperm hs
    obtain rfl : owner = size := hown owner howner (by rw [← hlabel', hlabel])
    exact hresults
  · intro hresults
    obtain ⟨t, tallies, htallies⟩ := List.exists_cons_of_ne_nil hresults
    have ht : t ∈ results simulate cacheSizes size := by
      rw [htallies]
      exact List.mem_cons_self
    have hlookup : (collect policy samplingRatio finished).metrics.series[Metrics.seriesHash
        policy.name (toString size)]? = Metrics.seriesOf policy.name (t :: tallies) := by
      rw [getElem?_metrics h hname hperm hown, htallies]
    have hsize : t.cacheSize = size := hname size t (mem_results.mp ht).2
    exact ⟨_, Metrics.mem_listed.mpr ⟨_, hlookup⟩, congrArg toString hsize⟩

/-- The order in which simulations are collected makes no difference to the metrics. -/
lemma alike_of_perm (hown : ∀ size ∈ cacheSizes, OwnSeries policy.name cacheSizes size)
    (h' : Faithful simulate finished')
    (hperm' : (finished'.map Finished.cacheSize).Perm cacheSizes) :
    (collect policy samplingRatio finished).metrics.Alike
      (collect policy samplingRatio finished').metrics := by
  intro key
  by_cases hkey : ∃ size ∈ cacheSizes, Metrics.seriesHash policy.name (toString size) = key
  · obtain ⟨size, hsize, rfl⟩ := hkey
    rw [getElem?_metrics h hname hperm (hown size hsize),
      getElem?_metrics h' hname hperm' (hown size hsize)]
  · have hnone : ∀ size ∈ cacheSizes, Metrics.seriesHash policy.name (toString size) ≠ key :=
      fun size hsize heq => hkey ⟨size, hsize, heq⟩
    rw [getElem?_metrics_eq_none h hname hperm hnone,
      getElem?_metrics_eq_none h' hname hperm' hnone]

end Series

/-! ## Reports -/

/-- What is reported of the simulations at some cache sizes. -/
structure DescribesRuns (runs : List RunReport) (simulate : UInt64 → Except RunError Tally)
    (cacheSizes : List UInt64) : Prop where
  /-- There is one run for every cache size. -/
  sizes : (runs.map RunReport.cacheSize).Perm cacheSizes
  /-- They are in the order of their cache sizes. -/
  sorted : runs.Pairwise fun a b => a.cacheSize ≤ b.cacheSize
  /-- Each has the outcome of the simulation alone. -/
  outcomes : ∀ run ∈ runs, run.Carries (simulate run.cacheSize)

/-- What is recorded of the simulations at some cache sizes.  The sums are told of those cache sizes
only that share their series with no other one. -/
structure DescribesMetrics (m : Metrics) (name : String)
    (simulate : UInt64 → Except RunError Tally) (cacheSizes : List UInt64) : Prop where
  /-- There is one series for every policy and cache size. -/
  labels : (m.listed.map fun s => (s.policy, s.cacheSize)).Nodup
  /-- It is that of a cache size with results. -/
  owner : ∀ s ∈ m.listed, s.policy = name ∧ ∃ size ∈ cacheSizes,
    s.cacheSize = toString size ∧ results simulate cacheSizes size ≠ []
  /-- It sums up the results at this cache size. -/
  sums : ∀ size ∈ cacheSizes, OwnSeries name cacheSizes size →
    ∀ s ∈ m.listed, s.cacheSize = toString size →
      s.totals.SumsUp (results simulate cacheSizes size)
  /-- No results are left out. -/
  recorded : ∀ size ∈ cacheSizes, OwnSeries name cacheSizes size →
    ((∃ s ∈ m.listed, s.cacheSize = toString size) ↔ results simulate cacheSizes size ≠ [])

/-- Simulations at some cache sizes are reported, in whatever order they are collected. -/
lemma describesRuns_collect (h : Faithful simulate finished)
    (hperm : (finished.map Finished.cacheSize).Perm cacheSizes) :
    DescribesRuns (collect policy samplingRatio finished).runs simulate cacheSizes where
  sizes := runs_perm.trans hperm
  sorted := runs_sorted
  outcomes _ hr := carries_of_mem_runs h hr

/-- Simulations at some cache sizes are recorded, in whatever order they are collected. -/
lemma describesMetrics_collect (h : Faithful simulate finished) (hname : Named simulate)
    (hperm : (finished.map Finished.cacheSize).Perm cacheSizes) :
    DescribesMetrics (collect policy samplingRatio finished).metrics policy.name simulate
      cacheSizes where
  labels := by
    rw [metrics_eq h]
    exact Metrics.nodup_labels _ _
  owner _ hs := owner_of_mem_listed h hname hperm hs
  sums _ _ hown _ hs hlabel := sumsUp_of_mem_listed h hname hperm hown hs hlabel
  recorded _ _ hown := exists_mem_listed_iff h hname hperm hown

/-- Workers can be counted if there are fewer than `2 ^ 61`. -/
lemma checkWorkers_eq_ok {settings : SimulationSettings} : checkWorkers settings = .ok () ↔
    ∀ workers ∈ settings.workers, workers.toNat < 2 ^ 61 := by
  rw [checkWorkers]
  cases hworkers : settings.workers with
  | none => simp
  | some workers =>
    have hmax : workers.toNat ≤ maxWorkers ↔ workers.toNat < 2 ^ 61 := Nat.lt_succ_iff.symm
    by_cases hle : workers.toNat ≤ maxWorkers
    · simpa [hle] using hmax.mp hle
    · simpa [hle] using mt hmax.mpr hle

/-- The number of permits. -/
def permits (settings : SimulationSettings) (processors : Nat) : Nat :=
  max ((settings.workers.map UInt64.toNat).getD processors) 1

/-- **The report does not depend on the schedule.**  Let the workers be few enough to be counted.
Then, on any schedule, a sweep can go on until it is complete, which takes no more than three steps
for each simulation, and never runs more simulations at once than there are permits.  When it is
complete, there is one run for every cache size, in order, with the outcome of the simulation alone,
and the runs are those of `Sweep.run`, apart from ids and times.

The metrics sum up the results at each cache size that shares its series with no other one.  If no
two of them share a series, the metrics are also those of `Sweep.run`. -/
theorem report_on_every_schedule (settings : SimulationSettings) (policy : PolicySettings)
    (sample : Option Sample) (requests : List Request) (processors : Nat)
    (hworkers : ∀ workers ∈ settings.workers, workers.toNat < 2 ^ 61) :
    ∃ alone, run settings policy sample requests = .ok alone ∧
      ∀ n p, Reaches (permits settings processors) (Simulation.run settings policy sample requests)
          settings.cacheSizes n p →
        n ≤ 3 * settings.cacheSizes.length ∧ p.running.length ≤ permits settings processors ∧
        (p.IsComplete ∨ ∃ p', Advances (permits settings processors)
          (Simulation.run settings policy sample requests) p p') ∧
        (p.IsComplete →
          ∃ report, collect policy.policy (sample.map Sample.ratio) p.collected = report ∧
            DescribesRuns report.runs (Simulation.run settings policy sample requests)
              settings.cacheSizes ∧
            report.runs.map RunReport.anonymous = alone.runs ∧
            DescribesMetrics report.metrics policy.policy.name
              (Simulation.run settings policy sample requests) settings.cacheSizes ∧
            ((∀ size ∈ settings.cacheSizes,
                OwnSeries policy.policy.name settings.cacheSizes size) →
              report.metrics.Alike alone.metrics ∧ report.metrics.text = alone.metrics.text)) := by
  have hname : Named (Simulation.run settings policy sample requests) :=
    fun _ _ => Simulation.cacheSize_of_run
  refine ⟨_, bind_eq_ok.mpr ⟨(), checkWorkers_eq_ok.mpr hworkers, rfl⟩, fun n p hreaches => ?_⟩
  obtain ⟨htasks, hpermits, -, hfaithful, hsteps⟩ := Progress.accounts hreaches
  refine ⟨by omega, hpermits, isComplete_or_advances (Nat.le_max_right _ _) p, ?_⟩
  rintro ⟨hwaiting, hrunning, hended⟩
  have hperm : (p.collected.map Finished.cacheSize).Perm settings.cacheSizes := by
    simpa [Progress.tasks, hwaiting, hrunning, hended] using htasks
  refine ⟨_, rfl, describesRuns_collect hfaithful hperm, ?_,
    describesMetrics_collect hfaithful hname hperm, fun hown => ?_⟩
  · rw [anonymous_runs hfaithful, mergeSort_eq_of_perm hperm]
    exact runs_each.symm
  · have hsizes := cacheSize_each (Simulation.run settings policy sample requests)
      settings.cacheSizes
    have halike : (collect policy.policy (sample.map Sample.ratio) p.collected).metrics.Alike
        (collect policy.policy (sample.map Sample.ratio) (each _ settings.cacheSizes)).metrics :=
      alike_of_perm hfaithful hname hperm hown (faithful_each _ _) (.of_eq hsizes)
    exact ⟨halike, halike.text⟩

/-- The smaller of two caches is done first, and passes the only object by.  Each has a series of
its own. -/
theorem report_on_reversed_schedule :
    ∃ simulate report alone,
      Simulation.run { cacheSizes := [20, 10], workers := some 2 } {} none [⟨0, 1, 15⟩] =
        simulate ∧
      run { cacheSizes := [20, 10], workers := some 2 } {} none [⟨0, 1, 15⟩] = .ok alone ∧
      collect .lru none [⟨"b", 10, simulate 10, 3⟩, ⟨"a", 20, simulate 20, 5⟩] = report ∧
      DescribesRuns report.runs simulate [20, 10] ∧
      report.runs.map RunReport.anonymous = alone.runs ∧
      DescribesMetrics report.metrics "lru" simulate [20, 10] ∧
      (∀ size ∈ [20, 10], OwnSeries "lru" [20, 10] size) ∧
      report.metrics.Alike alone.metrics ∧ report.metrics.text = alone.metrics.text := by
  have hworkers : ∀ workers ∈ some (2 : UInt64), workers.toNat < 2 ^ 61 := by
    intro workers hmem
    have htwo : (2 : UInt64).toNat = 2 := rfl
    rw [← Option.some.inj hmem]
    omega
  have hown : ∀ size ∈ [20, 10], OwnSeries "lru" [20, 10] size := by
    have hne : Metrics.seriesHash "lru" (toString (20 : UInt64)) ≠
        Metrics.seriesHash "lru" (toString (10 : UInt64)) := by
      decide +kernel
    intro a ha b hb hhash
    rcases List.mem_pair.mp ha with rfl | rfl <;> rcases List.mem_pair.mp hb with rfl | rfl
    · rfl
    · exact absurd hhash.symm hne
    · exact absurd hhash hne
    · rfl
  obtain ⟨alone, halone, hall⟩ := report_on_every_schedule
    { cacheSizes := [20, 10], workers := some 2 } {} none [⟨0, 1, 15⟩] 4 hworkers
  refine ⟨_, _, alone, rfl, halone, rfl, ?_⟩
  generalize Simulation.run { cacheSizes := [20, 10], workers := some 2 } {} none [⟨0, 1, 15⟩] =
    simulate at hall ⊢
  have hperm : ([(⟨"b", 10, simulate 10, 3⟩ : Finished), ⟨"a", 20, simulate 20, 5⟩].map
      Finished.cacheSize).Perm [20, 10] := List.Perm.swap 20 10 []
  have houtcomes : ∀ f ∈ [(⟨"b", 10, simulate 10, 3⟩ : Finished), ⟨"a", 20, simulate 20, 5⟩],
      f.outcome = simulate f.cacheSize := by simp
  obtain ⟨n, hreaches⟩ := exists_reaches (Nat.le_max_right _ 1) hperm houtcomes
  obtain ⟨_, rfl, hruns, hanonymous, hmetrics, halike⟩ :=
    (hall n _ hreaches).2.2.2 ⟨rfl, rfl, rfl⟩
  exact ⟨hruns, hanonymous, hmetrics, hown, halike hown⟩

/-- Two simulations can be collected in both orders. -/
lemma exists_reaches_each (simulate : UInt64 → Except RunError Tally) (a b : UInt64) :
    (∃ n, Reaches 2 simulate [a, b] n ⟨[], [], [], each simulate [a, b]⟩) ∧
      ∃ n, Reaches 2 simulate [a, b] n ⟨[], [], [], each simulate [b, a]⟩ := by
  have hpermits : 0 < 2 := by decide
  constructor
  · exact exists_reaches hpermits (.of_eq (cacheSize_each _ _)) (faithful_each _ _)
  · refine exists_reaches hpermits ?_ (faithful_each _ _)
    rw [cacheSize_each]
    exact List.Perm.swap a b []

/-- With more workers than can be counted there is no report.  And cache sizes that share a series
are added up under the label of the one that is collected first; so the other one is missing in the
metrics, and it is the schedule that tells which. -/
theorem report_of_shared_series :
    run { cacheSizes := [1], workers := some 0x2000000000000000 } {} none [⟨0, 1, 1⟩] =
        .error .tooManyWorkers ∧
      ((∃ n, Reaches 2 (Simulation.run {} {} none [⟨0, 1, 1⟩])
          [8987789191531404507, 14391502130233922701] n
          ⟨[], [], [], each (Simulation.run {} {} none [⟨0, 1, 1⟩])
            [8987789191531404507, 14391502130233922701]⟩) ∧
        ∃ n, Reaches 2 (Simulation.run {} {} none [⟨0, 1, 1⟩])
          [8987789191531404507, 14391502130233922701] n
          ⟨[], [], [], each (Simulation.run {} {} none [⟨0, 1, 1⟩])
            [14391502130233922701, 8987789191531404507]⟩) ∧
      (collect .lru none (each (Simulation.run {} {} none [⟨0, 1, 1⟩])
          [8987789191531404507, 14391502130233922701])).metrics.listed.map
        (fun s => (s.cacheSize, s.totals.requests)) = [("8987789191531404507", 2)] ∧
      (collect .lru none (each (Simulation.run {} {} none [⟨0, 1, 1⟩])
          [14391502130233922701, 8987789191531404507])).metrics.listed.map
        (fun s => (s.cacheSize, s.totals.requests)) = [("14391502130233922701", 2)] := by
  refine ⟨rfl, exists_reaches_each _ _ _, ?_, ?_⟩
  · decide +kernel
  · decide +kernel

end Sweep

end CacheSim
