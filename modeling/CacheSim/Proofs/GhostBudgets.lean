import CacheSim.Proofs.GhostRoom
import CacheSim.Proofs.GhostWindow

/-!
# Logs of ghosts with a smaller and a larger budget

The same calls are made to two logs, of which one has the larger budget.  What the smaller log
remembers is at any time an end of what the larger one remembers: a record takes the older ghost of
its object out of both, wherever it still is, and what the smaller budget leaves of an end the
larger one leaves as well.  So the smaller log never needs more room in its count, and it tells
nothing of recent evictions that the larger one does not tell.

* `GhostLog.Nested.perform`: every call keeps the two logs nested;
* `GhostLog.covered_eq_or`: a window covers the same of both, or the whole smaller one;
* `GhostLog.remembers_more_after_calls`: the two logs after any calls.
-/

namespace CacheSim
namespace GhostLog

/-- One log remembers an end of what the other one does, within a smaller budget. -/
structure Nested (log log' : GhostLog) : Prop where
  valid : log.Valid
  valid' : log'.Valid
  budget_le : log.budget ≤ log'.budget
  suffix : log.toList <:+ log'.toList

variable {log log' : GhostLog} {id window budget budget' : UInt64} {ghost : Ghost} {k : Nat}
variable {ghosts ghosts' : List Ghost} {call : Call} {calls : List Call}

/-! ## Calls -/

lemma nested_empty (hle : budget ≤ budget') : Nested (empty budget) (empty budget') :=
  ⟨valid_empty budget, valid_empty budget', hle, List.suffix_rfl⟩

lemma renewed_suffix (h : ghosts <:+ ghosts') (ghost : Ghost) :
    renewed ghosts ghost <:+ renewed ghosts' ghost :=
  (List.suffix_append_self_iff).mpr (h.filter _)

/-- A record that the larger log can count the smaller one can count, and the logs stay nested. -/
lemma Nested.record (h : Nested log log') {log₁' : GhostLog}
    (hrecord' : log'.record ghost = .ok log₁') :
    ∃ log₁, log.record ghost = .ok log₁ ∧ Nested log₁ log₁' := by
  have hrenewed := renewed_suffix h.suffix ghost
  have hfits : sizes (renewed log.toList ghost) < UInt64.size := by
    rcases h.valid'.fits_or_overflows ghost with ⟨hfits', -⟩ | ⟨-, hover⟩
    · exact Nat.lt_of_le_of_lt (sizes_le_of_sublist hrenewed.sublist) hfits'
    · simp [hrecord'] at hover
  rcases h.valid.fits_or_overflows ghost with ⟨-, log₁, hrecord⟩ | ⟨hover, -⟩
  · obtain ⟨hlist, hbudget⟩ := h.valid.toList_record hrecord
    obtain ⟨hlist', hbudget'⟩ := h.valid'.toList_record hrecord'
    refine ⟨log₁, hrecord, (h.valid.record hrecord).1, (h.valid'.record hrecord').1, ?_, ?_⟩
    · rw [hbudget, hbudget']
      exact h.budget_le
    · rw [hlist, hlist']
      exact fittingEnd_mono hrenewed (UInt64.le_iff_toNat_le.mp h.budget_le)
  · exact absurd hfits hover

lemma Nested.perform (h : Nested log log') {log₁' : GhostLog}
    (hcall' : log'.perform call = .ok log₁') :
    ∃ log₁, log.perform call = .ok log₁ ∧ Nested log₁ log₁' := by
  cases call with
  | record ghost => exact h.record hcall'
  | clear =>
    obtain rfl := Except.ok.inj hcall'
    exact ⟨log.clear, rfl, valid_clear log, valid_clear log', h.budget_le, List.suffix_rfl⟩

/-- A run that succeeds with the larger budget succeeds with the smaller one. -/
lemma nested_of_run (hle : budget ≤ budget')
    (hrun' : calls.foldlM perform (empty budget') = .ok log') :
    ∃ log, calls.foldlM perform (empty budget) = .ok log ∧ Nested log log' := by
  induction calls using List.reverseRecOn generalizing log' with
  | nil =>
    obtain rfl := Except.ok.inj hrun'
    exact ⟨empty budget, rfl, nested_empty hle⟩
  | append_singleton calls call ih =>
    obtain ⟨log₁', hcalls', hcall'⟩ := foldlM_concat_eq_ok.mp hrun'
    obtain ⟨log₁, hcalls, hnested⟩ := ih hcalls'
    obtain ⟨log, hcall, hnested⟩ := hnested.perform hcall'
    exact ⟨log, foldlM_concat_eq_ok.mpr ⟨log₁, hcalls, hcall⟩, hnested⟩

/-! ## Windows -/

/-- An end of what is covered is covered by itself. -/
lemma covered_of_suffix (h : ghosts <:+ covered k ghosts') : covered k ghosts = ghosts := by
  cases ghosts with
  | nil => rfl
  | cons ghost newer => rw [covered_cons, if_pos (sizes_lt_of_suffix h)]

/-- A window covers the same of an end as of the whole list, unless the end is covered entirely. -/
lemma covered_eq_or (h : ghosts <:+ ghosts') :
    ghosts <:+ covered k ghosts' ∨ covered k ghosts = covered k ghosts' := by
  refine (List.suffix_or_suffix_of_suffix h (covered_suffix k ghosts')).imp_right fun hpart => ?_
  have hend := covered_mono hpart (Nat.le_refl k)
  rw [covered_of_suffix List.suffix_rfl] at hend
  exact (covered_mono h (Nat.le_refl k)).eq_of_length_le hend.length_le

lemma Nested.contains (h : Nested log log') (hid : log.contains id = true) :
    log'.contains id = true := by
  obtain ⟨ghost, hmem, hid⟩ := (h.valid.contains_iff id).mp hid
  exact (h.valid'.contains_iff id).mpr ⟨ghost, h.suffix.subset hmem, hid⟩

lemma Nested.withinLast (h : Nested log log') (hfound : log.withinLast id window = .ok true) :
    log'.withinLast id window = .ok true := by
  obtain ⟨ghost, hmem, hid⟩ := h.valid.withinLast_eq_true.mp hfound
  have hcovered := covered_mono h.suffix (Nat.le_refl window.toNat)
  exact h.valid'.withinLast_eq_true.mpr ⟨ghost, hcovered.subset hmem, hid⟩

/-- Both logs tell the same of an object that the smaller one remembers. -/
lemma Nested.withinLast_eq (h : Nested log log') (hid : log.contains id = true) :
    log.withinLast id window = log'.withinLast id window := by
  rcases covered_eq_or (k := window.toNat) h.suffix with hall | heq
  · obtain ⟨ghost, hmem, hid⟩ := (h.valid.contains_iff id).mp hid
    have hfound : log.withinLast id window = .ok true := by
      refine h.valid.withinLast_eq_true.mpr ⟨ghost, ?_, hid⟩
      rwa [covered_of_suffix hall]
    rw [hfound, h.withinLast hfound]
  · rw [h.valid.withinLast_eq_covered, h.valid'.withinLast_eq_covered, heq]

/-- A log remembers what another one does, and possibly older ghosts. -/
structure RemembersMore (log' log : GhostLog) : Prop where
  suffix : log.toList <:+ log'.toList
  contains : ∀ id, log.contains id = true → log'.contains id = true
  withinLast : ∀ id window, log.withinLast id window = .ok true →
    log'.withinLast id window = .ok true
  withinLast_eq : ∀ id window, log.contains id = true →
    log.withinLast id window = log'.withinLast id window

/-- If calls succeed with a budget they succeed with every smaller one, and after each of them the
log with the larger budget remembers what the one with the smaller budget does, and possibly older
ghosts. -/
theorem remembers_more_after_calls (hle : budget ≤ budget')
    (hrun' : calls.foldlM perform (empty budget') = .ok log') (earlier : List Call)
    (hearlier : earlier <+: calls) :
    ∃ log₁ log₁', earlier.foldlM perform (empty budget) = .ok log₁ ∧
      earlier.foldlM perform (empty budget') = .ok log₁' ∧ log₁'.RemembersMore log₁ := by
  obtain ⟨later, rfl⟩ := hearlier
  rw [List.foldlM_append, bind_eq_ok] at hrun'
  obtain ⟨log₁', hearlier', -⟩ := hrun'
  obtain ⟨log₁, hearlier, hnested⟩ := nested_of_run hle hearlier'
  exact ⟨log₁, log₁', hearlier, hearlier', hnested.suffix, fun _ => hnested.contains,
    fun _ _ => hnested.withinLast, fun _ _ => hnested.withinLast_eq⟩

/-- An object that is evicted again when only the larger log still remembers it, and a ghost that is
too large for the smaller budget alone. -/
theorem remembers_more_of_returning_object :
    let calls : List Call := [.record ⟨1, 20, 1, 5⟩, .record ⟨2, 20, 1, 5⟩, .record ⟨3, 10, 1, 5⟩,
      .record ⟨1, 5, 2, 6⟩, .record ⟨4, 40, 1, 5⟩, .record ⟨2, 0, 2, 6⟩]
    (30 : UInt64) ≤ 90 ∧ (∃ log', calls.foldlM perform (empty 90) = .ok log') ∧
      calls.take 4 <+: calls ∧
      ∃ log₁ log₁', (calls.take 4).foldlM perform (empty 30) = .ok log₁ ∧
        (calls.take 4).foldlM perform (empty 90) = .ok log₁' ∧ log₁'.RemembersMore log₁ := by
  intro calls
  have hle : (30 : UInt64) ≤ 90 := by decide
  have hearlier : calls.take 4 <+: calls := List.take_prefix 4 calls
  have hroom : HasRoom 90 calls := hasRoom_of_small (by simp [calls, UInt64.size])
  obtain ⟨log', hrun'⟩ := exists_run hroom
  exact ⟨hle, ⟨log', hrun'⟩, hearlier,
    remembers_more_after_calls hle hrun' (calls.take 4) hearlier⟩

end GhostLog
end CacheSim
