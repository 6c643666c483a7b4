import CacheSim.Proofs.GhostList

/-!
# Calls to a log of ghosts

A log is used by recording evictions and by clearing it.  As long as the bytes of all ghosts can be
counted, every call succeeds, and the log remembers the newest ghosts within its budget: after a
record these are the longest end that fits of the list before it, without the older ghost of the
same object and with the new ghost at the end.  The tables, the links in either direction and the
count of bytes all tell the same.

* `GhostLog.Kept`: what every call keeps;
* `GhostLog.exact_after_calls`: the list, the tables, the links and the count after any calls.
-/

namespace CacheSim
namespace GhostLog

/-- The calls to a log. -/
inductive Call where
  /-- Remembers an eviction. -/
  | record (ghost : Ghost)
  /-- Forgets everything. -/
  | clear

/-- Makes a call. -/
def perform (log : GhostLog) : Call → Except Fault GhostLog
  | .record ghost => log.record ghost
  | .clear => .ok log.clear

/-- Whenever a ghost is recorded there is room in the count for its bytes. -/
def HasRoom (budget : UInt64) (calls : List Call) : Prop :=
  ∀ earlier ghost log, earlier ++ [.record ghost] <+: calls →
    earlier.foldlM perform (empty budget) = .ok log →
    log.totalSize.toNat + ghost.size.toNat < UInt64.size

/-- The longest end of a list of ghosts that is within a budget. -/
structure IsLongestEnd (budget : Nat) (ghosts kept : List Ghost) : Prop where
  suffix : kept <:+ ghosts
  fits : sizes kept ≤ budget
  longest : ∀ other, other <:+ ghosts → sizes other ≤ budget → other.length ≤ kept.length

/-- All views of a log show the ghosts of its list. -/
structure Agrees (log : GhostLog) : Prop where
  nodup : (log.toList.map Ghost.id).Nodup
  /-- However long the links are followed, they lead no further than through the list. -/
  forward : ∀ n, log.size ≤ n → log.walk GhostNode.newer n log.head = log.toList
  backward : ∀ n, log.size ≤ n → log.walk GhostNode.older n log.tail = log.toList.reverse
  contains_iff : ∀ id, log.contains id = true ↔ ∃ ghost ∈ log.toList, ghost.id = id
  get?_iff : ∀ id ghost, log.get? id = some ghost ↔ ghost ∈ log.toList ∧ ghost.id = id
  size_eq : log.size = log.toList.length
  isEmpty_eq : log.isEmpty = log.toList.isEmpty
  totalSize_eq : log.totalSize.toNat = sizes log.toList

variable {log log' : GhostLog} {id budget : UInt64} {ghost : Ghost} {calls : List Call}

/-! ## Lists -/

lemma isLongestEnd_newest (budget : Nat) (ghosts : List Ghost) :
    IsLongestEnd budget ghosts (newest budget ghosts) where
  suffix := fittingEnd_suffix _ budget ghosts
  fits := sizes_newest_le budget ghosts
  longest := fun _ hother hfits => (suffix_fittingEnd hother hfits).length_le

/-- Nothing is left if the last ghost alone is over the budget. -/
lemma IsLongestEnd.eq_nil {budget : Nat} {ghosts kept : List Ghost}
    (h : IsLongestEnd budget (ghosts ++ [ghost]) kept) (hlarge : budget < ghost.size.toNat) :
    kept = [] := by
  rcases List.eq_nil_or_concat kept with hnil | ⟨kept', last, rfl⟩
  · exact hnil
  · obtain ⟨earlier, hearlier⟩ := h.suffix
    rw [List.concat_eq_append, ← List.append_assoc] at hearlier
    obtain ⟨-, hlast⟩ := List.append_inj' hearlier rfl
    obtain rfl := List.singleton_inj.mp hlast
    have hfits := h.fits
    rw [List.concat_eq_append, sizes_append, sizes_cons, sizes_nil] at hfits
    omega

/-! ## One log -/

/-- The ghost of an object is the one in the list. -/
lemma Valid.get?_eq_some (h : log.Valid) :
    log.get? id = some ghost ↔ ghost ∈ log.toList ∧ ghost.id = id := by
  have hget : log.get? id = log.places[id]?.bind (log.ghosts[·]?) := by
    rw [get?, Option.map_bind]
    exact Option.bind_congr fun place _ => (getElem?_ghosts log place).symm
  rw [hget, Option.bind_eq_some_iff, h.linked.mem_toList]
  constructor
  · rintro ⟨place, hplace, hghost⟩
    obtain ⟨ghost', hghost', hid⟩ := (h.places_iff id place).mp hplace
    obtain rfl := Option.some.inj (hghost.symm.trans hghost')
    exact ⟨⟨place, hghost⟩, hid⟩
  · rintro ⟨⟨place, hghost⟩, hid⟩
    exact ⟨place, (h.places_iff id place).mpr ⟨ghost, hghost, hid⟩, hghost⟩

lemma Valid.contains_iff (h : log.Valid) (id : UInt64) :
    log.contains id = true ↔ ∃ ghost ∈ log.toList, ghost.id = id := by
  rw [h.contains_eq, List.any_eq_true]
  simp only [beq_iff_eq]

/-- There are as many objects as ghosts. -/
lemma Valid.size_eq (h : log.Valid) : log.size = log.toList.length := by
  have hperm : log.places.keys.Perm (log.toList.map Ghost.id) := by
    refine (List.perm_ext_iff_of_nodup Std.TreeMap.nodup_keys h.nodup_ids).mpr fun id => ?_
    rw [Std.TreeMap.mem_keys, ← Std.TreeMap.contains_iff_mem, List.mem_map]
    exact h.contains_iff id
  rw [size, ← Std.TreeMap.length_keys, hperm.length_eq, List.length_map]

lemma Valid.agrees (h : log.Valid) : log.Agrees := by
  have hnodes : log.size = log.nodes.size := h.size_eq.trans h.linked.length_toList
  refine ⟨h.nodup_ids, fun n hn => ?_, fun n hn => ?_, h.contains_iff, fun _ _ => h.get?_eq_some,
    h.size_eq, ?_, h.totalSize_eq⟩
  · rw [h.linked.walk_newer (hnodes ▸ hn), h.linked.toList_eq]
  · rw [h.linked.walk_older (hnodes ▸ hn), h.linked.toList_eq]
  · have hsize := h.size_eq
    rw [size] at hsize
    rw [isEmpty, Std.TreeMap.isEmpty_eq_size_eq_zero, hsize, Bool.eq_iff_iff, beq_iff_eq,
      List.isEmpty_iff_length_eq_zero]

/-! ## Calls -/

/-- What every call keeps. -/
structure Kept (budget : UInt64) (log : GhostLog) : Prop where
  valid : log.Valid
  budget_eq : log.budget = budget
  totalSize_le : log.totalSize ≤ budget

lemma kept_empty (budget : UInt64) : (empty budget).Kept budget :=
  ⟨valid_empty budget, rfl, UInt64.le_iff_toNat_le.mpr (Nat.zero_le _)⟩

lemma Kept.perform (h : log.Kept budget) {call : Call} (hcall : log.perform call = .ok log') :
    log'.Kept budget := by
  cases call with
  | record ghost =>
    have hbudget := (h.valid.toList_record hcall).2.trans h.budget_eq
    exact ⟨(h.valid.record hcall).1, hbudget, hbudget ▸ h.valid.totalSize_record_le hcall⟩
  | clear =>
    obtain rfl := Except.ok.inj hcall
    exact ⟨valid_clear log, h.budget_eq, UInt64.le_iff_toNat_le.mpr (Nat.zero_le _)⟩

lemma foldlM_concat_eq_ok {call : Call} :
    (calls ++ [call]).foldlM perform log = .ok log' ↔
      ∃ log₁, calls.foldlM perform log = .ok log₁ ∧ log₁.perform call = .ok log' := by
  rw [List.foldlM_append, bind_eq_ok]
  simp only [List.foldlM_cons, List.foldlM_nil, bind_pure]

lemma foldlM_concat_eq_error {call : Call} {fault : Fault} :
    (calls ++ [call]).foldlM perform log = .error fault ↔ calls.foldlM perform log = .error fault ∨
      ∃ log₁, calls.foldlM perform log = .ok log₁ ∧ log₁.perform call = .error fault := by
  rw [List.foldlM_append, bind_eq_error]
  simp only [List.foldlM_cons, List.foldlM_nil, bind_pure]

/-- All calls of a run keep it. -/
lemma kept_of_run (hrun : calls.foldlM perform (empty budget) = .ok log) : log.Kept budget := by
  induction calls using List.reverseRecOn generalizing log with
  | nil =>
    obtain rfl := Except.ok.inj hrun
    exact kept_empty budget
  | append_singleton calls call ih =>
    obtain ⟨log₁, hcalls, hcall⟩ := foldlM_concat_eq_ok.mp hrun
    exact (ih hcalls).perform hcall

/-- There is room for ghosts that could be counted on top of a full budget. -/
lemma hasRoom_of_small (hsmall : ∀ ghost, .record ghost ∈ calls →
    budget.toNat + ghost.size.toNat < UInt64.size) : HasRoom budget calls := by
  intro earlier ghost log hbefore hrun
  have hle := UInt64.le_iff_toNat_le.mp (kept_of_run hrun).totalSize_le
  have hmem : Call.record ghost ∈ calls :=
    hbefore.subset (List.mem_append_right earlier List.mem_cons_self)
  have hfits := hsmall ghost hmem
  omega

/-- Ghosts that could be counted on top of a full budget can be recorded one after the other. -/
lemma Kept.exists_foldlM_record {ghosts : List Ghost} (h : log.Kept budget)
    (hsmall : ∀ ghost ∈ ghosts, budget.toNat + ghost.size.toNat < UInt64.size) :
    ∃ log', ghosts.foldlM record log = .ok log' := by
  induction ghosts generalizing log with
  | nil => exact ⟨log, rfl⟩
  | cons ghost ghosts ih =>
    obtain ⟨hghost, hrest⟩ := List.forall_mem_cons.mp hsmall
    have hle := UInt64.le_iff_toNat_le.mp h.totalSize_le
    have hroom : log.totalSize.toNat + ghost.size.toNat < UInt64.size := by omega
    obtain ⟨log₁, hrecord⟩ := h.valid.exists_record hroom
    have hcall : log.perform (.record ghost) = .ok log₁ := hrecord
    obtain ⟨log', hrun⟩ := ih (h.perform hcall) hrest
    exact ⟨log', by rw [List.foldlM_cons, hrecord]; exact hrun⟩

/-- A run fails only where a count has no room. -/
lemma exists_run (hroom : HasRoom budget calls) :
    ∃ log, calls.foldlM perform (empty budget) = .ok log := by
  induction calls using List.reverseRecOn with
  | nil => exact ⟨empty budget, rfl⟩
  | append_singleton calls call ih =>
    obtain ⟨log, hrun⟩ := ih fun earlier ghost log hbefore =>
      hroom earlier ghost log (hbefore.trans (List.prefix_append calls [call]))
    cases call with
    | record ghost =>
      obtain ⟨log', hrecord⟩ := (kept_of_run hrun).valid.exists_record
        (hroom calls ghost log List.prefix_rfl hrun)
      exact ⟨log', foldlM_concat_eq_ok.mpr ⟨log, hrun, hrecord⟩⟩
    | clear => exact ⟨log.clear, foldlM_concat_eq_ok.mpr ⟨log, hrun, rfl⟩⟩

/-- After any calls that leave room in the count, a log is within its budget and all its views show
the ghosts of its list; clearing it leaves no ghost, and a further record leaves the longest end
within the budget of its list without the older ghost of the object and with the new one. -/
theorem exact_after_calls (budget : UInt64) (calls : List Call) (hroom : HasRoom budget calls) :
    ∃ log, calls.foldlM perform (empty budget) = .ok log ∧ log.Agrees ∧
      log.budget = budget ∧ sizes log.toList ≤ budget.toNat ∧ log.clear.toList = [] ∧
      ∀ ghost, log.totalSize.toNat + ghost.size.toNat < UInt64.size →
        ∃ log', log.record ghost = .ok log' ∧
          IsLongestEnd budget.toNat
            (log.toList.filter (fun other => other.id != ghost.id) ++ [ghost]) log'.toList ∧
          (budget < ghost.size → log'.toList = []) := by
  obtain ⟨log, hrun⟩ := exists_run hroom
  obtain ⟨hvalid, hbudget, hle⟩ := kept_of_run hrun
  have hbytes : sizes log.toList ≤ budget.toNat := by
    rw [← hvalid.agrees.totalSize_eq]
    exact UInt64.le_iff_toNat_le.mp hle
  refine ⟨log, hrun, hvalid.agrees, hbudget, hbytes, rfl, fun ghost hfits => ?_⟩
  obtain ⟨log', hrecord⟩ := hvalid.exists_record hfits
  have hlongest : IsLongestEnd budget.toNat
      (log.toList.filter (fun other => other.id != ghost.id) ++ [ghost]) log'.toList := by
    rw [(hvalid.toList_record hrecord).1, hbudget]
    exact isLongestEnd_newest _ _
  exact ⟨log', hrecord, hlongest, fun hlarge => hlongest.eq_nil (UInt64.lt_iff_toNat_lt.mp hlarge)⟩

/-- Ghosts of no bytes, a ghost that is replaced in the middle, one that pushes out older ones and
one that is larger than the budget. -/
theorem exact_after_mixed_calls :
    let calls : List Call := [.record ⟨1, 20, 1, 0⟩, .record ⟨2, 0, 1, 0⟩, .record ⟨3, 20, 1, 0⟩,
      .record ⟨2, 5, 4, 9⟩, .clear, .record ⟨4, 30, 1, 0⟩, .record ⟨5, 20, 2, 7⟩]
    HasRoom 50 calls ∧
      ∃ log, calls.foldlM perform (empty 50) = .ok log ∧ log.Agrees ∧
        log.budget = 50 ∧ sizes log.toList ≤ 50 ∧ log.clear.toList = [] ∧
        ∀ ghost, log.totalSize.toNat + ghost.size.toNat < UInt64.size →
          ∃ log', log.record ghost = .ok log' ∧
            IsLongestEnd 50
              (log.toList.filter (fun other => other.id != ghost.id) ++ [ghost]) log'.toList ∧
            (50 < ghost.size → log'.toList = []) := by
  intro calls
  have hroom : HasRoom 50 calls := hasRoom_of_small (by simp [calls, UInt64.size])
  exact ⟨hroom, exact_after_calls 50 calls hroom⟩

/-- A ghost of no bytes stays when older ones are dropped, until its object is evicted again. -/
example : (([.record ⟨1, 20, 1, 0⟩, .record ⟨2, 0, 1, 0⟩, .record ⟨3, 20, 1, 0⟩] :
    List Call).foldlM perform (empty 25)).map toList = .ok [⟨2, 0, 1, 0⟩, ⟨3, 20, 1, 0⟩] := by
  cbv

end GhostLog
end CacheSim
