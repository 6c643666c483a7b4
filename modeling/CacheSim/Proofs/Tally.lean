import CacheSim.Proofs.Runs

/-!
# Counting

The counters of a cache are words, and a step that would take one of them out of its range fails.
`Tally.counts` reads them as natural numbers.  For each step it is said what the step adds when it
succeeds, and that it succeeds when there is room for what it adds.
-/

namespace CacheSim

/-- The counters in natural numbers. -/
structure Counts where
  cacheSize : Nat
  simulatedSize : Nat
  requests : Nat
  misses : Nat
  requestBytes : Nat
  missBytes : Nat
  evictions : Nat
  bypasses : Nat
  deriving DecidableEq

/-- A sum has no answer only if it is too large. -/
lemma Word.fault_of_add {a b : UInt64} {f : Fault} (h : Word.add a b = .error f) :
    f = .addOverflow := by
  rw [Word.add] at h
  split at h
  · cases h
  · exact (Except.error.inj h).symm

namespace Tally

/-- The counters of a simulated cache as natural numbers. -/
def counts (t : Tally) : Counts where
  cacheSize := t.cacheSize.toNat
  simulatedSize := t.simulatedSize.toNat
  requests := t.requests.toNat
  misses := t.misses.toNat
  requestBytes := t.requestBytes.toNat
  missBytes := t.missBytes.toNat
  evictions := t.evictions.toNat
  bypasses := t.bypasses.toNat

variable {t t' : Tally} {size : UInt64}

/-! ## Steps that succeed -/

lemma counts_countRequest (h : t.countRequest size = .ok t') : t'.counts = { t.counts with
    requests := t.counts.requests + 1
    requestBytes := t.counts.requestBytes + size.toNat } := by
  simp only [countRequest, bind_eq_ok, Except.ok.injEq] at h
  obtain ⟨requests, hrequests, bytes, hbytes, rfl⟩ := h
  rw [Word.add_eq_ok] at hrequests hbytes
  simp only [counts, ← hrequests, ← hbytes]
  rfl

lemma counts_countMiss (h : t.countMiss size = .ok t') : t'.counts = { t.counts with
    misses := t.counts.misses + 1
    missBytes := t.counts.missBytes + size.toNat } := by
  simp only [countMiss, bind_eq_ok, Except.ok.injEq] at h
  obtain ⟨misses, hmisses, bytes, hbytes, rfl⟩ := h
  rw [Word.add_eq_ok] at hmisses hbytes
  simp only [counts, ← hmisses, ← hbytes]
  rfl

lemma counts_countBypass (h : t.countBypass = .ok t') : t'.counts = { t.counts with
    bypasses := t.counts.bypasses + 1 } := by
  simp only [countBypass, bind_eq_ok, Except.ok.injEq] at h
  obtain ⟨bypasses, hbypasses, rfl⟩ := h
  rw [Word.add_eq_ok] at hbypasses
  simp only [counts, ← hbypasses]
  rfl

lemma counts_countEviction (h : t.countEviction = .ok t') : t'.counts = { t.counts with
    evictions := t.counts.evictions + 1 } := by
  simp only [countEviction, bind_eq_ok, Except.ok.injEq] at h
  obtain ⟨evictions, hevictions, rfl⟩ := h
  rw [Word.add_eq_ok] at hevictions
  simp only [counts, ← hevictions]
  rfl

/-! ## Room for a step -/

lemma exists_countRequest (hrequests : t.counts.requests + 1 < 2 ^ 64)
    (hbytes : t.counts.requestBytes + size.toNat < 2 ^ 64) :
    ∃ t', t.countRequest size = .ok t' := by
  obtain ⟨requests, hrequests⟩ := Word.exists_add (a := t.requests) (b := 1) hrequests
  obtain ⟨bytes, hbytes⟩ := Word.exists_add (a := t.requestBytes) (b := size) hbytes
  rw [countRequest, hrequests, hbytes]
  exact ⟨_, rfl⟩

/-- A request is not counted only if a sum is too large. -/
lemma fault_of_countRequest {f : Fault} (h : t.countRequest size = .error f) :
    f = .addOverflow := by
  rw [countRequest, bind_eq_error] at h
  rcases h with h | ⟨requests, -, h⟩
  · exact Word.fault_of_add h
  · rcases bind_eq_error.mp h with h | ⟨bytes, -, h⟩
    · exact Word.fault_of_add h
    · cases h

lemma exists_countMiss (hmisses : t.counts.misses + 1 < 2 ^ 64)
    (hbytes : t.counts.missBytes + size.toNat < 2 ^ 64) : ∃ t', t.countMiss size = .ok t' := by
  obtain ⟨misses, hmisses⟩ := Word.exists_add (a := t.misses) (b := 1) hmisses
  obtain ⟨bytes, hbytes⟩ := Word.exists_add (a := t.missBytes) (b := size) hbytes
  rw [countMiss, hmisses, hbytes]
  exact ⟨_, rfl⟩

lemma exists_countBypass (hbypasses : t.counts.bypasses + 1 < 2 ^ 64) :
    ∃ t', t.countBypass = .ok t' := by
  obtain ⟨bypasses, hbypasses⟩ := Word.exists_add (a := t.bypasses) (b := 1) hbypasses
  rw [countBypass, hbypasses]
  exact ⟨_, rfl⟩

lemma exists_countEviction (hevictions : t.counts.evictions + 1 < 2 ^ 64) :
    ∃ t', t.countEviction = .ok t' := by
  obtain ⟨evictions, hevictions⟩ := Word.exists_add (a := t.evictions) (b := 1) hevictions
  rw [countEviction, hevictions]
  exact ⟨_, rfl⟩

end Tally
end CacheSim
