import CacheSim.Proofs.Cache.Alike
import CacheSim.Proofs.Cache.Coverage

/-!
# Objects that are passed by

An object that is larger than the whole cache is passed by.  The request for it moves the clock on
and is counted, and that is all: the same requests without it are answered the same, and leave the
same objects and the same ghosts.  Only the ages of the ghosts can tell that the clock was ahead.

* `Cache.run_kept`: a run compared with the run that leaves such requests out;
* `Cache.transparent_bypasses`: what is the same after both runs, and how the counters differ.
-/

namespace CacheSim

/-! ## The same tickets -/

namespace Translation

/-- Answers under the same tickets are the same. -/
lemma eq_of_answers {lead : Option Nat} {answer answer' : Cache.Answer}
    (h : (sameNames 0 lead).Answers answer answer') : answer' = answer := by
  rw [h.eq_rename rfl]
  cases answer with
  | served reply =>
    have hvictims : reply.victims.map (Ticket.rename fun id => id) = reply.victims := List.map_id' _
    exact congrArg (fun victims => Cache.Answer.served ⟨reply.hit, victims⟩) hvictims
  | evicted | refused | cleared => rfl

/-- A call stands for itself where the clocks do not matter. -/
lemma sameNames_call (call : Cache.Call) : (sameNames 0 none).Calls call call := by
  cases call with
  | request r => exact .request rfl rfl
  | evict now => exact .evict fun k hk => absurd hk (Option.not_mem_none k)
  | clear => exact .clear

end Translation

namespace Cache

/-- The part of a log in which no object was passed by. -/
def kept (capacity : UInt64) (unitSizes : Bool) (log : List (Call × Answer)) :
    List (Call × Answer) :=
  log.filter fun e => !passesBy capacity unitSizes e.1 e.2

/-- The part of a log in which objects were passed by. -/
def passed (capacity : UInt64) (unitSizes : Bool) (log : List (Call × Answer)) :
    List (Call × Answer) :=
  log.filter fun e => passesBy capacity unitSizes e.1 e.2

variable {c c' d d' : Cache} {call : Call} {answer : Answer} {calls : List Call}
variable {answers answers' : List Answer} {capacity budget : UInt64} {unitSizes : Bool}
variable {scorer : Scorer} {log : List (Call × Answer)}
variable {band : Scene → Except Fault Int} {place : Int → Profile → Int}
variable {τ : UInt64 → UInt64 → Prop}

/-! ## What is passed by -/

/-- Objects are passed by when they are requested, and nothing is evicted for them. -/
lemma Lockstep.passed_of_perform (h : c.Lockstep) (hcall : c.perform call = .ok (answer, c'))
    (hpassed : passesBy c.capacity c.unitSizes call answer = true) :
    (∃ r, call = .request r) ∧ answer = .served ⟨false, []⟩ := by
  obtain ⟨hmiss, hlarge⟩ := Bool.and_eq_true_iff.mp hpassed
  cases h.performs hcall with
  | hit | evicted | refused | cleared => simp [Answer.isMiss] at hmiss
  | bypass => exact ⟨⟨_, rfl⟩, rfl⟩
  | admission hclock htally hnew hfits =>
    rw [decide_eq_true_eq, ← toNat_effectiveSize, ← UInt64.lt_iff_toNat_lt] at hlarge
    exact absurd hlarge hfits

/-- So it is throughout a run. -/
lemma passed_of_run (h : c.Lockstep) (hrun : runCalls perform c calls = .ok (answers, c')) :
    ∀ e ∈ passed c.capacity c.unitSizes (calls.zip answers),
      passesBy c.capacity c.unitSizes e.1 e.2 = true ∧
        (∃ r, e.1 = .request r) ∧ e.2 = .served ⟨false, []⟩ := by
  refine (runCalls_induction (P := fun log c' => (c'.Lockstep ∧ SameSetup c c') ∧
    ∀ e ∈ passed c.capacity c.unitSizes log, passesBy c.capacity c.unitSizes e.1 e.2 = true ∧
      (∃ r, e.1 = .request r) ∧ e.2 = .served ⟨false, []⟩) ?_ ?_ hrun).2
  · exact ⟨⟨h, rfl, rfl, rfl⟩, fun e he => absurd he List.not_mem_nil⟩
  · rintro log c₁ call answer c₂ ⟨⟨hlock, hsame⟩, hlog⟩ hcall
    refine ⟨⟨hlock.perform hcall, hsame.trans (sameSetup_of_perform hlock hcall)⟩, fun e he => ?_⟩
    rw [passed, List.mem_filter, List.mem_append, List.mem_singleton] at he
    obtain ⟨hmem | rfl, hpassed⟩ := he
    · exact hlog e (List.mem_filter.mpr ⟨hmem, hpassed⟩)
    · refine ⟨hpassed, hlock.passed_of_perform hcall ?_⟩
      rwa [hsame.capacity, hsame.unitSizes]

/-! ## What they count for -/

lemma kept_cons (capacity : UInt64) (unitSizes : Bool) (e : Call × Answer)
    (log : List (Call × Answer)) : kept capacity unitSizes (e :: log) =
      if passesBy capacity unitSizes e.1 e.2 = true then kept capacity unitSizes log
      else e :: kept capacity unitSizes log := by
  rw [kept, List.filter_cons]
  cases passesBy capacity unitSizes e.1 e.2 <;> rfl

lemma passed_cons (capacity : UInt64) (unitSizes : Bool) (e : Call × Answer)
    (log : List (Call × Answer)) : passed capacity unitSizes (e :: log) =
      if passesBy capacity unitSizes e.1 e.2 = true then e :: passed capacity unitSizes log
      else passed capacity unitSizes log :=
  List.filter_cons

/-- The gains of a run are those of its two parts. -/
lemma gains_eq_add (capacity : UInt64) (unitSizes : Bool) (log : List (Call × Answer)) :
    gains capacity unitSizes log = gains capacity unitSizes (kept capacity unitSizes log) +
      gains capacity unitSizes (passed capacity unitSizes log) := by
  induction log with
  | nil => rfl
  | cons e log ih =>
    rw [gains_cons, ih, kept_cons, passed_cons]
    split
    · rw [gains_cons, add_left_comm]
    · rw [gains_cons, add_assoc]

/-- What is kept counts no object as passed by. -/
lemma bypasses_gains_kept (capacity : UInt64) (unitSizes : Bool) (log : List (Call × Answer)) :
    (gains capacity unitSizes (kept capacity unitSizes log)).bypasses = 0 := by
  induction log with
  | nil => rfl
  | cons e log ih =>
    rw [kept_cons]
    split
    · exact ih
    · next hkept =>
      rw [gains_cons, Counts.add_def, gain, Bool.eq_false_of_not_eq_true hkept]
      exact (Nat.zero_add _).trans ih

/-- The bytes that the calls of a log ask for. -/
def logBytes (unitSizes : Bool) (log : List (Call × Answer)) : Nat :=
  (log.map fun e => e.1.bytes unitSizes).sum

/-- Requests for objects that are passed by count as requests, as misses and as passed by. -/
lemma gains_of_passed (hlog : ∀ e ∈ log, passesBy capacity unitSizes e.1 e.2 = true ∧
      (∃ r, e.1 = .request r) ∧ e.2 = .served ⟨false, []⟩) :
    gains capacity unitSizes log = ⟨0, 0, log.length, log.length, logBytes unitSizes log,
      logBytes unitSizes log, 0, log.length⟩ := by
  induction log with
  | nil => rfl
  | cons e log ih =>
    obtain ⟨⟨hpassed, ⟨r, hr⟩, hanswer⟩, hlog⟩ := List.forall_mem_cons.mp hlog
    rw [gains_cons, ih hlog, gain, hpassed, hanswer, Counts.add_def, logBytes, logBytes,
      List.map_cons, List.sum_cons, List.length_cons, Nat.add_comm log.length, hr]
    rfl

/-! ## The run without them -/

/-- The run without the requests for objects that are passed by answers the others the same. -/
lemma run_kept (h : Alike (.sameNames 0 none) place τ c c')
    (hpolicy : c.roster.scorer.Timeless band place)
    (hrun : runCalls perform c calls = .ok (answers, d))
    (hrun' : runCalls perform c' ((kept c.capacity c.unitSizes (calls.zip answers)).map Prod.fst) =
      .ok (answers', d')) :
    answers' = (kept c.capacity c.unitSizes (calls.zip answers)).map Prod.snd ∧
      ∃ τ', Alike (.sameNames 0 none) place τ' d d' := by
  induction calls generalizing τ c c' answers answers' with
  | nil =>
    obtain ⟨rfl, rfl⟩ := runCalls_nil_eq_ok.mp hrun
    obtain ⟨rfl, rfl⟩ := runCalls_nil_eq_ok.mp hrun'
    exact ⟨rfl, τ, h⟩
  | cons call calls ih =>
    obtain ⟨answer, c₁, rest, hcall, hrest, rfl⟩ := runCalls_cons_eq_ok.mp hrun
    have hsame := sameSetup_of_perform h.lockstep hcall
    have hpolicy₁ : c₁.roster.scorer.Timeless band place := hsame.scorer ▸ hpolicy
    rw [List.zip_cons_cons, kept_cons] at hrun' ⊢
    by_cases hpassed : passesBy c.capacity c.unitSizes call answer = true
    · -- the second cache waits while the first one serves a request that is left out
      rw [if_pos hpassed] at hrun' ⊢
      obtain ⟨⟨r, rfl⟩, -⟩ := h.lockstep.passed_of_perform hcall hpassed
      have h₁ := h.bypass rfl hcall hpassed
      rw [← hsame.capacity, ← hsame.unitSizes] at hrun' ⊢
      exact ih h₁ hpolicy₁ hrest hrun'
    · rw [if_neg hpassed, List.map_cons] at hrun' ⊢
      obtain ⟨answer', c₁', rest', hcall', hrest', rfl⟩ := runCalls_cons_eq_ok.mp hrun'
      obtain ⟨τ₁, hanswer, h₁⟩ :=
        h.perform hpolicy (Translation.sameNames_call call) hcall hcall'
      obtain rfl := Translation.eq_of_answers hanswer
      rw [← hsame.capacity, ← hsame.unitSizes] at hrest' ⊢
      obtain ⟨rfl, hend⟩ := ih h₁ hpolicy₁ hrest hrest'
      exact ⟨rfl, hend⟩

/-- The same objects are stored, under the same tickets. -/
lemma Alike.stored_eq {lead : Option Nat} (h : Alike (.sameNames 0 lead) place τ c d)
    (id : ObjectId) : d.stored[id]? = c.stored[id]? :=
  (h.stored_rename rfl id).trans (congrFun Option.map_id_fun' _)

/-- The requests that are kept can be counted if all of them can. -/
lemma counted_kept (hlength : answers.length = calls.length) (capacity : UInt64)
    (unitSizes : Bool) :
    ((kept capacity unitSizes (calls.zip answers)).map Prod.fst).countP Call.isRequest ≤
        calls.countP Call.isRequest ∧
      (((kept capacity unitSizes (calls.zip answers)).map Prod.fst).map
          (Call.bytes unitSizes)).sum ≤ (calls.map (Call.bytes unitSizes)).sum := by
  have hsublist : ((kept capacity unitSizes (calls.zip answers)).map Prod.fst).Sublist calls := by
    have hall := (List.filter_sublist (p := fun e : Call × Answer =>
      !passesBy capacity unitSizes e.1 e.2) (l := calls.zip answers)).map Prod.fst
    rwa [List.map_fst_zip (Nat.le_of_eq hlength.symm)] at hall
  exact ⟨hsublist.countP_le, (hsublist.map _).sum_le_sum fun _ _ => Nat.zero_le _⟩

/-- Nothing is evicted for objects that are passed by. -/
lemma victims_kept (hlog : ∀ e ∈ passed capacity unitSizes log, e.2 = .served ⟨false, []⟩) :
    ((kept capacity unitSizes log).map Prod.snd).flatMap Answer.victims =
      (log.map Prod.snd).flatMap Answer.victims := by
  induction log with
  | nil => rfl
  | cons e log ih =>
    rw [kept_cons, List.map_cons, List.flatMap_cons]
    rw [passed_cons] at hlog
    split at hlog
    · next hpassed =>
      obtain ⟨hanswer, hlog⟩ := List.forall_mem_cons.mp hlog
      rw [if_pos hpassed, hanswer, ih hlog]
      rfl
    · next hkept => rw [if_neg hkept, List.map_cons, List.flatMap_cons, ih hlog]

/-- The counters of a run, told from those of the run without the objects that are passed by. -/
lemma counts_of_kept (h : c.Lockstep) (hnone : c.tally.counts.bypasses = 0)
    (hrun : runCalls perform c calls = .ok (answers, d))
    (hrun' : runCalls perform c ((kept c.capacity c.unitSizes (calls.zip answers)).map Prod.fst) =
      .ok ((kept c.capacity c.unitSizes (calls.zip answers)).map Prod.snd, d')) :
    d.tally.counts.bypasses = (passed c.capacity c.unitSizes (calls.zip answers)).length ∧
      d.tally.counts = { d'.tally.counts with
        requests := d'.tally.counts.requests + d.tally.counts.bypasses
        misses := d'.tally.counts.misses + d.tally.counts.bypasses
        requestBytes := d'.tally.counts.requestBytes +
          logBytes c.unitSizes (passed c.capacity c.unitSizes (calls.zip answers))
        missBytes := d'.tally.counts.missBytes +
          logBytes c.unitSizes (passed c.capacity c.unitSizes (calls.zip answers))
        bypasses := d.tally.counts.bypasses } ∧
      d'.tally.counts.bypasses = 0 := by
  have hcounts := counts_of_run h hrun
  have hcounts' := counts_of_run h hrun'
  rw [List.zip_map', List.map_id'] at hcounts'
  rw [gains_eq_add, ← add_assoc, ← hcounts', gains_of_passed (passed_of_run h hrun),
    Counts.add_def] at hcounts
  have hnone' : d'.tally.counts.bypasses = 0 := by
    rw [hcounts', Counts.add_def, bypasses_gains_kept, hnone]
  have hbypasses := congrArg Counts.bypasses hcounts
  rw [hnone', Nat.zero_add] at hbypasses
  refine ⟨hbypasses, ?_, hnone'⟩
  rw [hbypasses]
  simpa only [hnone', Nat.zero_add, Nat.add_zero] using hcounts

/-- **Objects that are passed by leave no trace.**  Let any calls be made to a fresh cache under a
policy of the catalogue.  Leave out the requests for objects that were missed and are larger than
the cache.  The calls that are left are all answered as before, and:

* the objects that are evicted are the same, in the same order;
* the same objects are stored in the end, with the same tickets and sizes, and the ghosts are those
  of the same objects, in the same order, with the same sizes and numbers of accesses;
* nothing is passed by any more; there are fewer requests and misses by the number of objects that
  were passed by, and fewer bytes of requests and of misses by their bytes; the other counters are
  the same. -/
theorem transparent_bypasses {settings : PolicySettings} (hscorer : settings.scorer = .ok scorer)
    (capacity budget : UInt64) (unitSizes : Bool)
    (hrun : runCalls perform (new capacity (.empty scorer budget) unitSizes) calls =
      .ok (answers, c)) :
    ∃ c', runCalls perform (new capacity (.empty scorer budget) unitSizes)
        ((kept capacity unitSizes (calls.zip answers)).map Prod.fst) =
          .ok ((kept capacity unitSizes (calls.zip answers)).map Prod.snd, c') ∧
      ((kept capacity unitSizes (calls.zip answers)).map Prod.snd).flatMap Answer.victims =
        answers.flatMap Answer.victims ∧
      ((∀ id : ObjectId, c'.stored[id]? = c.stored[id]?) ∧ c'.occupied = c.occupied ∧
        (c'.roster.ghosts.toList.map fun ghost => (ghost.id, ghost.size, ghost.accesses)) =
          c.roster.ghosts.toList.map fun ghost => (ghost.id, ghost.size, ghost.accesses)) ∧
      (c.tally.counts.bypasses = (passed capacity unitSizes (calls.zip answers)).length ∧
        c.tally.counts = { c'.tally.counts with
          requests := c'.tally.counts.requests + c.tally.counts.bypasses
          misses := c'.tally.counts.misses + c.tally.counts.bypasses
          requestBytes := c'.tally.counts.requestBytes +
            logBytes unitSizes (passed capacity unitSizes (calls.zip answers))
          missBytes := c'.tally.counts.missBytes +
            logBytes unitSizes (passed capacity unitSizes (calls.zip answers))
          bypasses := c.tally.counts.bypasses } ∧
        c'.tally.counts.bypasses = 0) := by
  have hstart := lockstep_new capacity budget scorer unitSizes
  have hsafe := PolicySettings.safe_of_scorer hscorer
  obtain ⟨band, place, hpolicy⟩ := PolicySettings.exists_timeless hscorer
  have hlength := length_answers hrun
  have hcounted := (run_iff_counted hsafe capacity budget unitSizes calls).mp ⟨answers, c, hrun⟩
  have hfewer := counted_kept hlength capacity unitSizes
  obtain ⟨answers', c', hrun'⟩ := (run_iff_counted hsafe capacity budget unitSizes
    ((kept capacity unitSizes (calls.zip answers)).map Prod.fst)).mpr ⟨by omega, by omega⟩
  have halike : Alike (.sameNames 0 none) place (fun _ _ => False)
      (new capacity (.empty scorer budget) unitSizes)
      (new capacity (.empty scorer budget) unitSizes) :=
    alike_new (.sameNames 0 none) place rfl (fun k hk => absurd hk (Option.not_mem_none k))
      capacity budget scorer unitSizes _ _
  obtain ⟨rfl, τ, hend⟩ := run_kept halike hpolicy hrun hrun'
  have hpassed := passed_of_run hstart hrun
  have hvictims := victims_kept fun e he => (hpassed e he).2.2
  rw [List.map_snd_zip (Nat.le_of_eq hlength)] at hvictims
  refine ⟨c', hrun', hvictims, ⟨hend.stored_eq, hend.occupied,
    map_eq_of_forall₂ _ hend.roster.ghosts.ghosts fun ghost ghost' hghost => ?_⟩,
    counts_of_kept hstart rfl hrun hrun'⟩
  exact Prod.ext hghost.id (Prod.ext hghost.size hghost.accesses)

/-- Object 9 is too large for the cache.  Without it object 2 is still the one to go for object 3,
though all that comes after object 9 happens at other times. -/
theorem transparent_bypass_of_large_object :
    ∃ c c', runCalls perform (new 2 (.empty .lru 100) false)
        [.request ⟨0, 1, 1⟩, .request ⟨0, 9, 5⟩, .request ⟨0, 2, 1⟩, .request ⟨0, 1, 1⟩,
          .request ⟨0, 3, 1⟩] = .ok ([.served ⟨false, []⟩, .served ⟨false, []⟩,
          .served ⟨false, []⟩, .served ⟨true, []⟩, .served ⟨false, [⟨1, 2⟩]⟩], c) ∧
      runCalls perform (new 2 (.empty .lru 100) false)
        [.request ⟨0, 1, 1⟩, .request ⟨0, 2, 1⟩, .request ⟨0, 1, 1⟩, .request ⟨0, 3, 1⟩] =
          .ok ([.served ⟨false, []⟩, .served ⟨false, []⟩, .served ⟨true, []⟩,
            .served ⟨false, [⟨1, 2⟩]⟩], c') ∧
      c.tally.counts.bypasses = 1 ∧
      c.tally.counts.requests = c'.tally.counts.requests + c.tally.counts.bypasses ∧
      c.tally.counts.requestBytes = c'.tally.counts.requestBytes + 5 := by
  have hends : (fun done : List Answer × Cache => done.1) <$>
      runCalls perform (new 2 (.empty .lru 100) false)
        [.request ⟨0, 1, 1⟩, .request ⟨0, 9, 5⟩, .request ⟨0, 2, 1⟩, .request ⟨0, 1, 1⟩,
          .request ⟨0, 3, 1⟩] =
      .ok [.served ⟨false, []⟩, .served ⟨false, []⟩, .served ⟨false, []⟩, .served ⟨true, []⟩,
        .served ⟨false, [⟨1, 2⟩]⟩] := by
    cbv
  obtain ⟨⟨answers, c⟩, hrun, rfl⟩ := map_eq_ok.mp hends
  have hscorer : ({ policy := .lru } : PolicySettings).scorer = .ok .lru := rfl
  obtain ⟨c', hrun', -, -, hbypasses, hcounts, -⟩ := transparent_bypasses hscorer 2 100 false hrun
  exact ⟨c, c', hrun, hrun', hbypasses, congrArg Counts.requests hcounts,
    congrArg Counts.requestBytes hcounts⟩

end Cache
end CacheSim
