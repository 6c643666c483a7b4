import CacheSim.Proofs.Cache.Events

/-!
# What a run adds to the counters

By how much a call moves the counters on can be told from the call and its answer, given how large
the cache is and whether sizes count.  So runs with the same calls and answers move the counters on
by the same, wherever they begin.

* `Cache.gain`: what a call adds to the counters;
* `Cache.counts_of_run`: what a run adds.
-/

namespace CacheSim

/-! ## Sums of counters -/

namespace Counts

instance : Zero Counts := ⟨⟨0, 0, 0, 0, 0, 0, 0, 0⟩⟩

/-- Counters are added one by one. -/
instance : Add Counts where
  add a b :=
    { cacheSize := a.cacheSize + b.cacheSize
      simulatedSize := a.simulatedSize + b.simulatedSize
      requests := a.requests + b.requests
      misses := a.misses + b.misses
      requestBytes := a.requestBytes + b.requestBytes
      missBytes := a.missBytes + b.missBytes
      evictions := a.evictions + b.evictions
      bypasses := a.bypasses + b.bypasses }

lemma add_def (a b : Counts) : a + b =
    ⟨a.cacheSize + b.cacheSize, a.simulatedSize + b.simulatedSize, a.requests + b.requests,
      a.misses + b.misses, a.requestBytes + b.requestBytes, a.missBytes + b.missBytes,
      a.evictions + b.evictions, a.bypasses + b.bypasses⟩ := rfl

lemma zero_def : (0 : Counts) = ⟨0, 0, 0, 0, 0, 0, 0, 0⟩ := rfl

instance : AddCommMonoid Counts where
  add_assoc a b c := by simp only [add_def, Nat.add_assoc]
  zero_add a := by simp only [add_def, zero_def, Nat.zero_add]
  add_zero a := rfl
  add_comm a b := by simp only [add_def, Nat.add_comm]
  nsmul := nsmulRec

end Counts

/-- The counters of a cache can be told from their numbers. -/
lemma Tally.counts_inj {t t' : Tally} (h : t.counts = t'.counts) : t = t' := by
  cases t
  cases t'
  simpa only [counts, Counts.mk.injEq, UInt64.toNat_inj, Tally.mk.injEq] using h

namespace Cache

/-! ## Calls -/

/-- Whether an object was requested that was missed and is larger than the cache. -/
def passesBy (capacity : UInt64) (unitSizes : Bool) (call : Call) (answer : Answer) : Bool :=
  answer.isMiss && decide (capacity.toNat < call.bytes unitSizes)

/-- What a call adds to the counters. -/
def gain (capacity : UInt64) (unitSizes : Bool) (call : Call) (answer : Answer) : Counts where
  cacheSize := 0
  simulatedSize := 0
  requests := call.isRequest.toNat
  misses := answer.isMiss.toNat
  requestBytes := call.bytes unitSizes
  missBytes := if answer.isMiss then call.bytes unitSizes else 0
  evictions := answer.victims.length
  bypasses := (passesBy capacity unitSizes call answer).toNat

variable {c c' : Cache} {call : Call} {answer : Answer} {calls : List Call}
variable {answers : List Answer}

lemma counts_of_perform (h : c.Lockstep) (hcall : c.perform call = .ok (answer, c')) :
    c'.tally.counts = c.tally.counts + gain c.capacity c.unitSizes call answer :=
  (books_of_perform h hcall).counts

/-! ## Runs -/

/-- What calls with these answers add to the counters. -/
def gains (capacity : UInt64) (unitSizes : Bool) (log : List (Call × Answer)) : Counts :=
  (log.map fun e => gain capacity unitSizes e.1 e.2).sum

lemma gains_cons (capacity : UInt64) (unitSizes : Bool) (e : Call × Answer)
    (log : List (Call × Answer)) :
    gains capacity unitSizes (e :: log) =
      gain capacity unitSizes e.1 e.2 + gains capacity unitSizes log := by
  rw [gains, List.map_cons, List.sum_cons, gains]

/-- No call counts for the cache sizes. -/
lemma cacheSizes_gains (capacity : UInt64) (unitSizes : Bool) (log : List (Call × Answer)) :
    (gains capacity unitSizes log).cacheSize = 0 ∧
      (gains capacity unitSizes log).simulatedSize = 0 := by
  induction log with
  | nil => exact ⟨rfl, rfl⟩
  | cons e log ih =>
    rw [gains_cons, Counts.add_def, ih.1, ih.2]
    exact ⟨rfl, rfl⟩

/-- A run adds to the counters what its calls add. -/
lemma counts_of_run (h : c.Lockstep) (hrun : runCalls perform c calls = .ok (answers, c')) :
    c'.tally.counts = c.tally.counts + gains c.capacity c.unitSizes (calls.zip answers) := by
  induction calls generalizing c answers with
  | nil =>
    obtain ⟨rfl, rfl⟩ := runCalls_nil_eq_ok.mp hrun
    rfl
  | cons call calls ih =>
    obtain ⟨answer, c₁, rest, hcall, hrest, rfl⟩ := runCalls_cons_eq_ok.mp hrun
    have hsame := sameSetup_of_perform h hcall
    rw [ih (h.perform hcall) hrest, counts_of_perform h hcall, hsame.capacity, hsame.unitSizes,
      List.zip_cons_cons, gains_cons, add_assoc]

end Cache
end CacheSim
