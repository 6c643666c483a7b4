import CacheSim.Metrics
import CacheSim.Proofs.Tables

/-!
# What the metrics show

Simulations are recorded one after the other, and each is added to the series that is found by the
hash of its label values.  A series therefore depends on the simulations with this hash alone, in
the order in which they were recorded.

* `SeriesTotals.sumsUp_foldl`: a series shows the sums of its simulations modulo `2 ^ 64`;
* `Metrics.getElem?_recordAll`: which simulations belong to a series;
* `Metrics.Alike`: metrics that cannot be told apart.
-/

namespace CacheSim

/-! ## Sums -/

/-- The totals are the sums over some simulations modulo `2 ^ 64`, and the miss ratio is that of
each of them. -/
structure SeriesTotals.SumsUp (s : SeriesTotals) (tallies : List Tally) : Prop where
  requests : s.requests.toNat = (tallies.map fun t => t.requests.toNat).sum % 2 ^ 64
  misses : s.misses.toNat = (tallies.map fun t => t.misses.toNat).sum % 2 ^ 64
  requestBytes : s.requestBytes.toNat = (tallies.map fun t => t.requestBytes.toNat).sum % 2 ^ 64
  missBytes : s.missBytes.toNat = (tallies.map fun t => t.missBytes.toNat).sum % 2 ^ 64
  evictions : s.evictions.toNat = (tallies.map fun t => t.evictions.toNat).sum % 2 ^ 64
  missRatio : ∀ t ∈ tallies, s.missRatio = t.missRatio

namespace SeriesTotals

lemma toNat_add_sum {x y : UInt64} {l : List Nat} (h : x.toNat = l.sum % 2 ^ 64) :
    (x + y).toNat = (l ++ [y.toNat]).sum % 2 ^ 64 := by
  rw [UInt64.toNat_add, h, List.sum_append, List.sum_singleton, Nat.mod_add_mod]

/-- One more simulation with the same miss ratio is added to the sums. -/
lemma SumsUp.add {s : SeriesTotals} {tallies : List Tally} {t : Tally} (h : s.SumsUp tallies)
    (hsame : ∀ t' ∈ tallies, t'.missRatio = t.missRatio) : (s.add t).SumsUp (tallies ++ [t]) where
  requests := by
    rw [List.map_append]
    exact toNat_add_sum h.requests
  misses := by
    rw [List.map_append]
    exact toNat_add_sum h.misses
  requestBytes := by
    rw [List.map_append]
    exact toNat_add_sum h.requestBytes
  missBytes := by
    rw [List.map_append]
    exact toNat_add_sum h.missBytes
  evictions := by
    rw [List.map_append]
    exact toNat_add_sum h.evictions
  missRatio := by
    intro t' ht'
    rcases List.mem_append.mp ht' with hold | hnew
    · exact (hsame t' hold).symm
    · rw [List.mem_singleton.mp hnew]
      rfl

/-- Simulations that agree in their miss ratio are summed up. -/
lemma sumsUp_foldl {tallies : List Tally}
    (hsame : ∀ t ∈ tallies, ∀ t' ∈ tallies, t.missRatio = t'.missRatio) :
    (tallies.foldl add {}).SumsUp tallies := by
  induction tallies using List.reverseRecOn with
  | nil => exact ⟨rfl, rfl, rfl, rfl, rfl, by simp⟩
  | append_singleton tallies t ih =>
    have hinit : ∀ {t'}, t' ∈ tallies → t' ∈ tallies ++ [t] := List.mem_append_left [t]
    rw [List.foldl_append]
    exact (ih fun t₁ h₁ t₂ h₂ => hsame t₁ (hinit h₁) t₂ (hinit h₂)).add fun t' ht' =>
      hsame t' (hinit ht') t (by simp)

end SeriesTotals

namespace Metrics

/-! ## Series -/

/-- The hash of the series in which a simulation is recorded. -/
def keyOf (policy : String) (t : Tally) : UInt64 :=
  seriesHash policy (toString t.cacheSize)

/-- The metrics in which simulations have been recorded in order. -/
def recordAll (policy : String) (tallies : List Tally) : Metrics :=
  tallies.foldl (fun m t => m.record policy t) .empty

/-- The series of some simulations, if there are any.  The first one gives the label values. -/
def seriesOf (policy : String) : List Tally → Option Series
  | [] => none
  | t :: tallies => some ⟨policy, toString t.cacheSize, (t :: tallies).foldl SeriesTotals.add {}⟩

lemma seriesOf_concat (policy : String) (tallies : List Tally) (t : Tally) :
    seriesOf policy (tallies ++ [t]) =
      let series := (seriesOf policy tallies).getD ⟨policy, toString t.cacheSize, {}⟩
      some { series with totals := series.totals.add t } := by
  cases tallies with
  | nil => rfl
  | cons first tallies => simp [seriesOf]

/-- A series depends on the simulations with its hash alone, and on the order of these. -/
lemma getElem?_recordAll (policy : String) (tallies : List Tally) (key : UInt64) :
    (recordAll policy tallies).series[key]? =
      seriesOf policy (tallies.filter fun t => keyOf policy t == key) := by
  induction tallies using List.reverseRecOn with
  | nil => rfl
  | append_singleton tallies t ih =>
    have hrecord : recordAll policy (tallies ++ [t]) =
        (recordAll policy tallies).record policy t := by
      rw [recordAll, List.foldl_append]
      rfl
    rw [hrecord, record, Std.TreeMap.getElem?_insert, List.filter_append]
    by_cases hkey : keyOf policy t = key
    · have hcmp : compare (seriesHash policy (toString t.cacheSize)) key = .eq := by
        rw [← hkey]
        exact Std.ReflCmp.compare_self
      have hone : [t].filter (fun t => keyOf policy t == key) = [t] := by simp [hkey]
      have hlookup : (recordAll policy tallies).series[seriesHash policy
          (toString t.cacheSize)]? = (recordAll policy tallies).series[key]? := by
        rw [← hkey, keyOf]
      rw [if_pos hcmp, hone, seriesOf_concat, ← ih, hlookup]
    · have hcmp : ¬ compare (seriesHash policy (toString t.cacheSize)) key = .eq := fun heq =>
        hkey (Std.LawfulEqCmp.eq_of_compare heq)
      have hnone : [t].filter (fun t => keyOf policy t == key) = [] := by simp [hkey]
      rw [if_neg hcmp, hnone, List.append_nil, ih]

/-- A series has the label values of one of its simulations. -/
lemma label_of_seriesOf {policy : String} {tallies : List Tally} {s : Series}
    (h : seriesOf policy tallies = some s) :
    s.policy = policy ∧ ∃ t ∈ tallies, s.cacheSize = toString t.cacheSize := by
  cases tallies with
  | nil => cases h
  | cons t tallies =>
    obtain rfl := Option.some.inj h
    exact ⟨rfl, t, List.mem_cons_self, rfl⟩

/-- A series is found by the hash of its own label values. -/
lemma key_of_getElem? {policy : String} {tallies : List Tally} {key : UInt64} {s : Series}
    (h : (recordAll policy tallies).series[key]? = some s) :
    seriesHash s.policy s.cacheSize = key ∧ s.policy = policy := by
  rw [getElem?_recordAll] at h
  obtain ⟨hpolicy, t, ht, hlabel⟩ := label_of_seriesOf h
  rw [hpolicy, hlabel]
  exact ⟨beq_iff_eq.mp (List.mem_filter.mp ht).2, rfl⟩

/-! ## Lists of series -/

/-- Metrics that have the same series. -/
def Alike (m m' : Metrics) : Prop :=
  ∀ key : UInt64, m.series[key]? = m'.series[key]?

lemma Alike.equiv {m m' : Metrics} (h : m.Alike m') : m.series.Equiv m'.series :=
  Std.TreeMap.Equiv.of_forall_constGet?_eq h

/-- Metrics with the same series are listed alike. -/
lemma Alike.listed {m m' : Metrics} (h : m.Alike m') : m.listed = m'.listed := by
  rw [Metrics.listed, Metrics.listed, h.equiv.values_eq]

/-- Metrics with the same series have the same text. -/
lemma Alike.text {m m' : Metrics} (h : m.Alike m') : m.text = m'.text := by
  rw [Metrics.text, Metrics.text, h.equiv.isEmpty_eq, h.listed]

lemma mem_listed {m : Metrics} {s : Series} :
    s ∈ m.listed ↔ ∃ key : UInt64, m.series[key]? = some s := by
  rw [Metrics.listed, (List.mergeSort_perm _ _).mem_iff, Table.values_eq, List.mem_map]
  constructor
  · rintro ⟨⟨key, s'⟩, hmem, rfl⟩
    exact ⟨key, Table.mem_toList.mp hmem⟩
  · rintro ⟨key, hkey⟩
    exact ⟨(key, s), Table.mem_toList.mpr hkey, rfl⟩

/-- A series that is listed is the one under the hash of its label values. -/
lemma getElem?_of_mem_listed {policy : String} {tallies : List Tally} {s : Series}
    (h : s ∈ (recordAll policy tallies).listed) :
    (recordAll policy tallies).series[seriesHash policy s.cacheSize]? = some s := by
  obtain ⟨key, hkey⟩ := mem_listed.mp h
  obtain ⟨hhash, hpolicy⟩ := key_of_getElem? hkey
  rw [hpolicy] at hhash
  rwa [hhash]

/-- No two series have the same label values. -/
lemma nodup_labels (policy : String) (tallies : List Tally) :
    ((recordAll policy tallies).listed.map fun s => (s.policy, s.cacheSize)).Nodup := by
  have hperm : ((recordAll policy tallies).listed.map fun s => (s.policy, s.cacheSize)).Perm
      ((recordAll policy tallies).series.toList.map fun e => (e.2.policy, e.2.cacheSize)) := by
    rw [Metrics.listed, Table.values_eq]
    refine ((List.mergeSort_perm _ _).map _).trans ?_
    rw [List.map_map]
    exact List.Perm.refl _
  -- the hashes of the label values are the keys of the table
  have hkeys :
      ((recordAll policy tallies).series.toList.map fun e => seriesHash e.2.policy e.2.cacheSize) =
        (recordAll policy tallies).series.toList.map Prod.fst :=
    List.map_congr_left fun e he => (key_of_getElem? (Table.mem_toList.mp he)).1
  have hnodup := Table.nodup_keys (recordAll policy tallies).series
  rw [← hkeys] at hnodup
  refine hperm.nodup_iff.mpr (List.Nodup.of_map (fun label => seriesHash label.1 label.2) ?_)
  rwa [List.map_map]

end Metrics

end CacheSim
