import CacheSim.Proofs.GhostCalls

/-!
# Windows of recent evictions

A search goes back from the newest ghost and gives up once it has passed over as many bytes as the
window has.  So a window covers the ghosts whose newer ones are together smaller than it.  These are
an end of the list, which grows with the window, and their objects are the ones that are found.

* `GhostLog.covered`, `GhostLog.mem_covered`: the ghosts that a window covers;
* `GhostLog.covered_mono`: more of a longer list and of a wider window;
* `GhostLog.Valid.withinLast_eq_covered`: an object is found if its ghost is covered;
* `GhostLog.Valid.withinLast_of_lt`: a window that is larger than the log covers every ghost;
* `GhostLog.windowed_after_calls`: what searches find after any calls.
-/

namespace CacheSim
namespace GhostLog

/-- The ghosts, listed oldest first, whose newer ones are together smaller than a window. -/
def covered (window : Nat) : List Ghost → List Ghost :=
  longestEnd fun ghosts => sizes ghosts.tail < window

variable {log : GhostLog} {id budget passed window : UInt64} {ghost : Ghost}
variable {ghosts ghosts' newer : List Ghost} {calls : List Call} {k k' : Nat}

/-! ## Covered ghosts -/

lemma covered_cons (k : Nat) (ghost : Ghost) (newer : List Ghost) :
    covered k (ghost :: newer) =
      if sizes newer < k then ghost :: newer else covered k newer :=
  rfl

lemma covered_suffix (k : Nat) (ghosts : List Ghost) : covered k ghosts <:+ ghosts :=
  longestEnd_suffix _ ghosts

/-- The oldest ghost that is covered has newer ones that are together smaller than the window. -/
lemma sizes_lt_of_covered (h : covered k ghosts = ghost :: newer) : sizes newer < k := by
  rcases longestEnd_eq_nil_or (fun ghosts => sizes ghosts.tail < k) ghosts with hnil | hlt
  · exact absurd (h.symm.trans hnil) (List.cons_ne_nil ghost newer)
  · exact (congrArg (fun ghosts => sizes ghosts.tail < k) h).mp hlt

/-- A ghost is covered with all newer ones if these are together smaller than the window. -/
lemma suffix_covered (h : ghost :: newer <:+ ghosts) (hlt : sizes newer < k) :
    ghost :: newer <:+ covered k ghosts :=
  suffix_longestEnd h hlt

/-- Of every covered ghost the newer ones are together smaller than the window. -/
lemma sizes_lt_of_suffix (h : ghost :: newer <:+ covered k ghosts) : sizes newer < k := by
  obtain ⟨older, hsplit⟩ := h
  cases older with
  | nil => exact sizes_lt_of_covered hsplit.symm
  | cons first rest =>
    have hlt := sizes_lt_of_covered (hsplit.symm.trans List.cons_append)
    rw [sizes_append, sizes_cons] at hlt
    omega

/-- The covered ghosts are those whose newer ones are together smaller than the window. -/
lemma mem_covered : ghost ∈ covered k ghosts ↔
    ∃ older newer, ghosts = older ++ ghost :: newer ∧ sizes newer < k := by
  constructor
  · intro hmem
    obtain ⟨older, newer, hsplit⟩ := List.append_of_mem hmem
    have hsuffix : ghost :: newer <:+ covered k ghosts := hsplit ▸ List.suffix_append older _
    obtain ⟨before, hbefore⟩ := hsuffix.trans (covered_suffix k ghosts)
    exact ⟨before, newer, hbefore.symm, sizes_lt_of_suffix hsuffix⟩
  · rintro ⟨older, newer, rfl, hlt⟩
    exact (suffix_covered (List.suffix_append older _) hlt).subset List.mem_cons_self

/-- More is covered of a longer list and by a wider window. -/
lemma covered_mono (h : ghosts <:+ ghosts') (hle : k ≤ k') :
    covered k ghosts <:+ covered k' ghosts' :=
  longestEnd_mono h fun _ hlt => Nat.lt_of_lt_of_le hlt hle

/-- A window that is larger than all ghosts covers them. -/
lemma covered_of_lt (h : sizes ghosts < k) : covered k ghosts = ghosts := by
  cases ghosts with
  | nil => rfl
  | cons ghost newer =>
    rw [sizes_cons] at h
    rw [covered_cons, if_pos (by omega)]

/-- The newest ghost is covered by any window, and takes its bytes off the window. -/
lemma covered_concat (k : Nat) (ghosts : List Ghost) (ghost : Ghost) :
    covered k (ghosts ++ [ghost]) =
      if 0 < k then covered (k - ghost.size.toNat) ghosts ++ [ghost] else [] := by
  induction ghosts with
  | nil => rfl
  | cons first rest ih =>
    rw [List.cons_append, covered_cons, covered_cons, ih, sizes_append, sizes_cons, sizes_nil]
    by_cases hall : sizes rest + (ghost.size.toNat + 0) < k
    · have hpos : 0 < k := by omega
      have hrest : sizes rest < k - ghost.size.toNat := by omega
      rw [if_pos hall, if_pos hpos, if_pos hrest, List.cons_append]
    · have hrest : ¬ sizes rest < k - ghost.size.toNat := by omega
      rw [if_neg hall, if_neg hrest]

/-! ## Searching -/

/-- A search finds an object if its ghost is covered by what is left of the window. -/
lemma scan_reverse (id : UInt64) (hcount : passed.toNat + sizes ghosts < UInt64.size) :
    scan id window passed ghosts.reverse =
      .ok ((covered (window.toNat - passed.toNat) ghosts).any fun ghost => ghost.id == id) := by
  induction ghosts using List.reverseRecOn generalizing passed with
  | nil => rfl
  | append_singleton ghosts ghost ih =>
    rw [sizes_append, sizes_cons, sizes_nil] at hcount
    rw [List.reverse_concat, scan, covered_concat]
    by_cases hwindow : window ≤ passed
    · have hleft : ¬ 0 < window.toNat - passed.toNat := by
        have hle := UInt64.le_iff_toNat_le.mp hwindow
        omega
      rw [if_pos hwindow, if_neg hleft]
      rfl
    · have hleft : 0 < window.toNat - passed.toNat := by
        have hlt := mt UInt64.le_iff_toNat_le.mpr hwindow
        omega
      rw [if_neg hwindow, if_pos hleft, List.any_append]
      split
      · next hid => simp [hid]
      · next hid =>
        obtain ⟨next, hnext⟩ := Word.exists_add
          (show passed.toNat + ghost.size.toNat < UInt64.size by omega)
        have hsum := Word.add_eq_ok.mp hnext
        have hrest : next.toNat + sizes ghosts < UInt64.size := by omega
        rw [hnext, Nat.sub_sub, hsum, List.any_cons, List.any_nil, beq_eq_false_iff_ne.mpr hid,
          Bool.or_false, Bool.or_false]
        exact ih hrest

/-- An object is found if its ghost is covered by the window. -/
lemma Valid.withinLast_eq_covered (h : log.Valid) (id window : UInt64) :
    log.withinLast id window =
      .ok ((covered window.toNat log.toList).any fun ghost => ghost.id == id) := by
  have hcount : (0 : UInt64).toNat + sizes log.toList < UInt64.size := by
    rw [← h.agrees.totalSize_eq]
    simpa using log.totalSize.toNat_lt
  rw [h.withinLast_eq, scan_reverse id hcount]
  rfl

lemma Valid.withinLast_eq_true (h : log.Valid) :
    log.withinLast id window = .ok true ↔
      ∃ ghost ∈ covered window.toNat log.toList, ghost.id = id := by
  rw [h.withinLast_eq_covered, Except.ok.injEq, List.any_eq_true]
  simp only [beq_iff_eq]

/-- Nothing is found within a window of no bytes. -/
lemma withinLast_zero (log : GhostLog) (id : UInt64) : log.withinLast id 0 = .ok false := by
  rw [withinLast]
  cases log.newestFirst with
  | nil => rfl
  | cons ghost older => rfl

/-- A window that is larger than the log covers every ghost. -/
lemma Valid.withinLast_of_lt (h : log.Valid) (hwindow : log.totalSize < window) :
    log.withinLast id window = .ok (log.contains id) := by
  have hlt := UInt64.lt_iff_toNat_lt.mp hwindow
  rw [h.agrees.totalSize_eq] at hlt
  rw [h.withinLast_eq_covered, covered_of_lt hlt, h.contains_eq]

/-- What is found in a log. -/
structure Windowed (log : GhostLog) : Prop where
  /-- Every search has an answer: an object is found if it has a ghost, and the ghosts that are newer
  than this one are together smaller than the window. -/
  found_iff : ∀ id window, ∃ found, log.withinLast id window = .ok found ∧
    (found = true ↔ ∃ older ghost newer, log.toList = older ++ ghost :: newer ∧ ghost.id = id ∧
      sizes newer < window.toNat)
  contains : ∀ id window, log.withinLast id window = .ok true → log.contains id = true
  zero : ∀ id, log.withinLast id 0 = .ok false
  mono : ∀ id window window', window ≤ window' → log.withinLast id window = .ok true →
    log.withinLast id window' = .ok true
  wide : ∀ id window, log.totalSize < window → log.withinLast id window = .ok (log.contains id)
  /-- The objects that are found within a window are those of the newest ghosts. -/
  newest : ∀ window, ∃ ghosts, ghosts <:+ log.toList ∧
    ∀ id, log.withinLast id window = .ok true ↔ ∃ ghost ∈ ghosts, ghost.id = id

/-- Whatever calls have led to a log, every search in it has an answer: it finds the objects whose
ghosts are covered by the window. -/
theorem windowed_after_calls (hrun : calls.foldlM perform (empty budget) = .ok log) :
    log.Windowed := by
  have hvalid := (kept_of_run hrun).valid
  refine ⟨fun id window => ⟨_, hvalid.withinLast_eq_covered id window, ?_⟩,
    fun id window hfound => ?_, log.withinLast_zero, fun id window window' hle hfound => ?_,
    fun id window => hvalid.withinLast_of_lt, fun window => ?_⟩
  · simp only [List.any_eq_true, beq_iff_eq, mem_covered]
    constructor
    · rintro ⟨ghost, ⟨older, newer, hsplit, hlt⟩, hid⟩
      exact ⟨older, ghost, newer, hsplit, hid, hlt⟩
    · rintro ⟨older, ghost, newer, hsplit, hid, hlt⟩
      exact ⟨ghost, ⟨older, newer, hsplit, hlt⟩, hid⟩
  · obtain ⟨ghost, hmem, hid⟩ := hvalid.withinLast_eq_true.mp hfound
    exact (hvalid.contains_iff id).mpr ⟨ghost, (covered_suffix _ _).subset hmem, hid⟩
  · obtain ⟨ghost, hmem, hid⟩ := hvalid.withinLast_eq_true.mp hfound
    have hmono := covered_mono (List.suffix_refl log.toList) (UInt64.le_iff_toNat_le.mp hle)
    exact hvalid.withinLast_eq_true.mpr ⟨ghost, hmono.subset hmem, hid⟩
  · exact ⟨_, covered_suffix _ _, fun id => hvalid.withinLast_eq_true⟩

/-- Ghosts of no bytes, a ghost that was replaced and one that was forgotten. -/
theorem windowed_after_mixed_calls :
    let calls : List Call := [.record ⟨1, 30, 1, 5⟩, .clear, .record ⟨1, 40, 1, 5⟩,
      .record ⟨2, 0, 1, 5⟩, .record ⟨3, 30, 1, 5⟩, .record ⟨2, 10, 2, 6⟩, .record ⟨4, 30, 1, 5⟩]
    ∃ log, calls.foldlM perform (empty 80) = .ok log ∧ log.Windowed := by
  intro calls
  have hroom : HasRoom 80 calls := hasRoom_of_small (by simp [calls, UInt64.size])
  obtain ⟨log, hrun⟩ := exists_run hroom
  exact ⟨log, hrun, windowed_after_calls hrun⟩

/-- A window of 40 bytes reaches the ghost before those of 30 and of 10 bytes no more. -/
example : ((([.record ⟨1, 20, 1, 5⟩, .record ⟨2, 10, 1, 5⟩, .record ⟨3, 30, 1, 5⟩] :
    List Call).foldlM perform (empty 80)).bind fun log => do
      return (← log.withinLast 2 40, ← log.withinLast 1 40, ← log.withinLast 1 41)) =
    .ok (true, false, true) := by
  cbv

end GhostLog
end CacheSim
