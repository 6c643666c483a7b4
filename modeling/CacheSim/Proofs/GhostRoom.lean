import CacheSim.Proofs.GhostCalls

/-!
# Room for ghosts in the count of bytes

A new ghost is counted before the oldest ones are forgotten.  For that moment the count holds the
bytes of the new ghost beside those of all other objects, and these need not be a word.  If they are
not, the record overflows, even where the budget would have the new ghost forgotten at once.  Calls
fail in no other way, so whether they succeed can be told from the lists of ghosts alone.

* `GhostLog.Call.list`: what a call does to a list of ghosts;
* `GhostLog.Call.bytes`: the bytes that are counted meanwhile;
* `GhostLog.Kept.fits_or_overflows`: one call, `GhostLog.fitsCount_or_overflows`: a run of calls.
-/

namespace CacheSim
namespace GhostLog

/-- Ghosts with a new one at the end, in place of the older ghost of its object. -/
def renewed (ghosts : List Ghost) (ghost : Ghost) : List Ghost :=
  ghosts.filter (fun other => other.id != ghost.id) ++ [ghost]

/-- What a call does to a list of ghosts. -/
def Call.list (budget : UInt64) (ghosts : List Ghost) : Call → List Ghost
  | .record ghost => newest budget.toNat (renewed ghosts ghost)
  | .clear => []

/-- The bytes that are counted before any ghost is forgotten for the budget. -/
def Call.bytes (ghosts : List Ghost) : Call → Nat
  | .record ghost => sizes (renewed ghosts ghost)
  | .clear => 0

/-- The bytes of every call in a run can be counted. -/
def FitsCount (budget : UInt64) (calls : List Call) : Prop :=
  ∀ earlier call, earlier ++ [call] <+: calls →
    call.bytes (earlier.foldl (Call.list budget) []) < UInt64.size

variable {log log' : GhostLog} {budget : UInt64} {ghost : Ghost} {ghosts : List Ghost}
variable {calls : List Call} {call : Call}

/-! ## Lists -/

lemma sizes_renewed (ghosts : List Ghost) (ghost : Ghost) :
    sizes (renewed ghosts ghost) =
      sizes (ghosts.filter fun other => other.id != ghost.id) + ghost.size.toNat := by
  simp [renewed]

/-- A list that calls have led to is within the budget. -/
lemma sizes_foldl_list_le (budget : UInt64) (calls : List Call) :
    sizes (calls.foldl (Call.list budget) []) ≤ budget.toNat := by
  rcases List.eq_nil_or_concat calls with rfl | ⟨earlier, call, rfl⟩
  · exact Nat.zero_le _
  · rw [List.concat_eq_append, List.foldl_concat]
    cases call with
    | record ghost => exact sizes_newest_le _ _
    | clear => exact Nat.zero_le _

lemma fitsCount_concat : FitsCount budget (calls ++ [call]) ↔
    FitsCount budget calls ∧ call.bytes (calls.foldl (Call.list budget) []) < UInt64.size := by
  constructor
  · intro h
    exact ⟨fun earlier other hbefore => h earlier other (hbefore.trans (List.prefix_append _ _)),
      h calls call List.prefix_rfl⟩
  · rintro ⟨hcalls, hcall⟩ earlier other hbefore
    rcases List.prefix_concat_iff.mp hbefore with heq | hbefore
    · obtain ⟨rfl, hlast⟩ := List.append_inj' heq rfl
      obtain rfl := List.singleton_inj.mp hlast
      exact hcall
    · exact hcalls earlier other hbefore

/-- The bytes can be counted if those of each new ghost could be counted beside a full budget. -/
lemma fitsCount_of_small (hsmall : ∀ ghost, .record ghost ∈ calls →
    budget.toNat + ghost.size.toNat < UInt64.size) : FitsCount budget calls := by
  intro earlier call hbefore
  cases call with
  | record ghost =>
    have hmem : Call.record ghost ∈ calls :=
      hbefore.subset (List.mem_append_right earlier List.mem_cons_self)
    have hfits := hsmall ghost hmem
    have hkept := sizes_foldl_list_le budget earlier
    have hothers := sizes_le_of_sublist (List.filter_sublist
      (l := earlier.foldl (Call.list budget) []) (p := fun other => other.id != ghost.id))
    rw [Call.bytes, sizes_renewed]
    omega
  | clear => exact Nat.zero_lt_of_lt budget.toNat_lt

/-! ## Calls -/

/-- A record succeeds if its bytes can be counted, and overflows otherwise. -/
lemma Valid.fits_or_overflows (h : log.Valid) (ghost : Ghost) :
    (sizes (renewed log.toList ghost) < UInt64.size ∧ ∃ log', log.record ghost = .ok log') ∨
      (¬ sizes (renewed log.toList ghost) < UInt64.size ∧
        log.record ghost = .error .addOverflow) := by
  obtain ⟨log₁, hremove, h₁, -⟩ := h.remove ghost.id
  have hcount : log₁.totalSize.toNat + ghost.size.toNat = sizes (renewed log.toList ghost) := by
    rw [sizes_renewed, ← (h.toList_remove hremove).1, ← h₁.agrees.totalSize_eq]
  rw [← hcount]
  exact h.record_ok_or_overflow hremove

/-- A call does to a log what it does to the list of its ghosts, or overflows. -/
lemma Kept.fits_or_overflows (h : log.Kept budget) (call : Call) :
    (call.bytes log.toList < UInt64.size ∧
      ∃ log', log.perform call = .ok log' ∧ log'.toList = call.list budget log.toList) ∨
    (¬ call.bytes log.toList < UInt64.size ∧ log.perform call = .error .addOverflow) := by
  cases call with
  | record ghost =>
    rcases h.valid.fits_or_overflows ghost with ⟨hfits, log', hrecord⟩ | hover
    · refine Or.inl ⟨hfits, log', hrecord, ?_⟩
      rw [(h.valid.toList_record hrecord).1, h.budget_eq]
      rfl
    · exact Or.inr hover
  | clear => exact Or.inl ⟨Nat.zero_lt_of_lt budget.toNat_lt, log.clear, rfl, rfl⟩

/-- After any calls a log is within its budget, remembers what the list of ghosts says and counts its
bytes exactly, unless at some call the bytes of the ghosts before any is forgotten are not a word:
then that call overflows.  This never happens if the new ghosts could be counted beside a full
budget. -/
theorem fitsCount_or_overflows (budget : UInt64) (calls : List Call) :
    ((FitsCount budget calls ∧ ∃ log, calls.foldlM perform (empty budget) = .ok log ∧
        log.toList = calls.foldl (Call.list budget) [] ∧
        log.totalSize.toNat = sizes log.toList ∧ log.totalSize ≤ budget) ∨
      (¬ FitsCount budget calls ∧
        calls.foldlM perform (empty budget) = .error .addOverflow)) ∧
    ((∀ ghost, .record ghost ∈ calls → budget.toNat + ghost.size.toNat < UInt64.size) →
      FitsCount budget calls) := by
  refine ⟨?_, fitsCount_of_small⟩
  induction calls using List.reverseRecOn with
  | nil =>
    refine Or.inl ⟨fun earlier call hbefore => ?_, empty budget, rfl, rfl, rfl, ?_⟩
    · simp at hbefore
    · exact (kept_empty budget).totalSize_le
  | append_singleton calls call ih =>
    rw [fitsCount_concat, List.foldl_concat]
    rcases ih with ⟨hcalls, log, hrun, hlist, -⟩ | ⟨hover, hrun⟩
    · have hkept := kept_of_run hrun
      rw [← hlist]
      rcases hkept.fits_or_overflows call with ⟨hfits, log', hcall, hlist'⟩ | ⟨hover, hcall⟩
      · have hkept' := hkept.perform hcall
        exact Or.inl ⟨⟨hcalls, hfits⟩, log', foldlM_concat_eq_ok.mpr ⟨log, hrun, hcall⟩, hlist',
          hkept'.valid.agrees.totalSize_eq, hkept'.totalSize_le⟩
      · exact Or.inr ⟨fun h => hover h.2, foldlM_concat_eq_error.mpr (Or.inr ⟨log, hrun, hcall⟩)⟩
    · exact Or.inr ⟨fun h => hover h.1, foldlM_concat_eq_error.mpr (Or.inl hrun)⟩

/-- A ghost that is larger than the budget overflows the count beside any other one, where it would
have been forgotten at once. -/
example : ([⟨1, 5, 1, 0⟩, ⟨2, 0xFFFFFFFFFFFFFFFF, 1, 0⟩] : List Ghost).foldlM record (empty 10) =
    .error .addOverflow := by
  cbv

end GhostLog
end CacheSim
