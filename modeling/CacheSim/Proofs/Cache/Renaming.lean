import CacheSim.Proofs.Cache.Alike
import CacheSim.Proofs.Simulation

/-!
# The names of objects do not matter

An object is told from others by its name, and that is all a name is good for.  If every object gets
another name, no two of them the same, requests are served as before under the new names, whatever
becomes of the order of the names and of the times at which the requests stand in the trace.  Ties
between candidates are broken by their serial numbers before names are compared.

* `Cache.run_renamed`: a run compared with the run under other names;
* `Cache.indifferent_to_names`: what is the same in the end, and that simulations count the same.
-/

namespace CacheSim

/-! ## Other names -/

namespace Translation

variable {f : ObjectId → ObjectId} {hf : Function.Injective f}

/-- The objects have other names in the second cache, and nothing else differs. -/
def otherNames (hf : Function.Injective f) : Translation where
  name := f
  injective := hf
  serials := 0
  lead := some 0

end Translation

namespace Cache

variable {c c' : Cache} {calls calls' : List Call} {answers : List Answer}
variable {scorer : Scorer}
variable {f : ObjectId → ObjectId} {hf : Function.Injective f} {place : Int → Profile → Int}
variable {band : Scene → Except Fault Int} {τ : UInt64 → UInt64 → Prop}

/-! ## What is seen under other names -/

/-- Nothing else is stored. -/
lemma Alike.mem_stored_rename (h : Alike (.otherNames hf) place τ c c') :
    ∀ id' ∈ c'.stored, ∃ id ∈ c.stored, f id = id' := by
  intro id' hid'
  obtain ⟨object', hobject'⟩ := Table.mem_iff_exists.mp hid'
  obtain ⟨id, object, hid, hobject⟩ := h.stored.back id' object' hobject'
  exact ⟨id, Table.mem_iff_exists.mpr ⟨object, hobject⟩, hid⟩

/-! ## Runs under other names -/

/-- Calls that can be counted under one name can be counted under another. -/
lemma counted_alike {π : Translation} (h : List.Forall₂ π.Calls calls calls')
    (unitSizes : Bool) :
    calls'.countP Call.isRequest = calls.countP Call.isRequest ∧
      (calls'.map (Call.bytes unitSizes)).sum = (calls.map (Call.bytes unitSizes)).sum := by
  have hrequests := map_eq_of_forall₂ Call.isRequest h fun _ _ => isRequest_alike
  have hcount := congrArg (List.countP fun isRequest => isRequest) hrequests
  rw [List.countP_map, List.countP_map] at hcount
  refine ⟨hcount, congrArg List.sum ?_⟩
  exact map_eq_of_forall₂ _ h fun _ _ hcall => bytes_alike hcall unitSizes

/-- A run that is not answered to its end overflows a counter, and so does every run that counts for
the same. -/
lemma error_of_counted (h : Covers 0 0 c) (hlock : c.Lockstep) (hsafe : c.roster.scorer.Safe)
    (hrequests : calls'.countP Call.isRequest = calls.countP Call.isRequest)
    (hbytes : (calls'.map (Call.bytes c.unitSizes)).sum = (calls.map (Call.bytes c.unitSizes)).sum)
    {e : Refusal} (hrun : runCalls perform c calls = .error e) :
    runCalls perform c calls' = .error e := by
  cases hrun' : runCalls perform c calls' with
  | error e' => rw [h.overflow_of_run hlock hsafe hrun, h.overflow_of_run hlock hsafe hrun']
  | ok done =>
    have hcounted := (h.run_iff hlock hsafe calls').mp ⟨done.1, done.2, hrun'⟩
    rw [hrequests, hbytes] at hcounted
    obtain ⟨answers, c', hok⟩ := (h.run_iff hlock hsafe calls).mpr hcounted
    simp [hrun] at hok

/-- A run under other names is answered to its end if the run is, and the answers are the same but
for the names. -/
lemma run_renamed (hsafe : scorer.Safe) (hpolicy : scorer.Timeless band place)
    (capacity budget : UInt64) (unitSizes : Bool) (size : UInt64)
    (hcalls : List.Forall₂ (Translation.otherNames hf).Calls calls calls') :
    (∀ e, runCalls perform (nominal capacity budget scorer unitSizes size) calls = .error e ↔
      runCalls perform (nominal capacity budget scorer unitSizes size) calls' = .error e) ∧
    ∀ answers c, runCalls perform (nominal capacity budget scorer unitSizes size) calls =
        .ok (answers, c) →
      ∃ c', runCalls perform (nominal capacity budget scorer unitSizes size) calls' =
          .ok (answers.map (Answer.rename f), c') ∧ c'.tally = c.tally ∧
        ∃ τ, Alike (.otherNames hf) place τ c c' := by
  have hlock := lockstep_nominal capacity budget scorer unitSizes size
  have hcovers := covers_nominal capacity budget scorer unitSizes size
  obtain ⟨hrequests, hbytes⟩ := counted_alike hcalls unitSizes
  have herror : ∀ e,
      runCalls perform (nominal capacity budget scorer unitSizes size) calls = .error e ↔
        runCalls perform (nominal capacity budget scorer unitSizes size) calls' = .error e :=
    fun e => ⟨error_of_counted hcovers hlock hsafe hrequests hbytes,
      error_of_counted hcovers hlock hsafe hrequests.symm hbytes.symm⟩
  refine ⟨herror, fun answers c hrun => ?_⟩
  cases hrun' : runCalls perform (nominal capacity budget scorer unitSizes size) calls' with
  | error e => simp [(herror e).mpr hrun'] at hrun
  | ok done =>
    obtain ⟨answers', c'⟩ := done
    have halike : Alike (.otherNames hf) place (fun _ _ => False)
        (nominal capacity budget scorer unitSizes size)
        (nominal capacity budget scorer unitSizes size) :=
      alike_new (.otherNames hf) place rfl (fun k hk => (Option.some.inj hk).symm) capacity budget
        scorer unitSizes _ _
    obtain ⟨τ, hanswers, hend⟩ := halike.run hpolicy hcalls hrun hrun'
    have hrename := eq_map_of_forall₂ (Answer.rename f) hanswers fun _ _ ha => ha.eq_rename rfl
    refine ⟨c', by rw [hrename], Tally.counts_inj ?_, τ, hend⟩
    rw [counts_of_run hlock hrun, counts_of_run hlock hrun', gains_alike hcalls hanswers]

end Cache

/-- A simulation counts the same for requests under other names. -/
lemma Simulation.run_renamed {f : ObjectId → ObjectId} (hf : Function.Injective f)
    (settings : SimulationSettings) (policy : PolicySettings) (sample : Option Sample)
    (size : UInt64) {requests requests' : List Request}
    (hrequests : List.Forall₂ (fun r r' => r'.id = f r.id ∧ r'.size = r.size) requests requests') :
    run settings policy sample requests' size = run settings policy sample requests size := by
  have hcalls : List.Forall₂ (Translation.otherNames hf).Calls (requests.map .request)
      (requests'.map .request) := by
    rw [List.forall₂_map_left_iff, List.forall₂_map_right_iff]
    exact hrequests.imp fun _ _ hr => .request hr.1 hr.2
  rw [run, run]
  cases hbuild : build settings policy sample size with
  | error e => rfl
  | ok cache =>
    obtain ⟨scorer, hscorer, -, rfl⟩ := build_eq_ok.mp hbuild
    obtain ⟨band, place, hpolicy⟩ := PolicySettings.exists_timeless hscorer
    obtain ⟨herror, hok⟩ := Cache.run_renamed (PolicySettings.safe_of_scorer hscorer) hpolicy
      (scaled sample size) (ghostBudget settings sample size) settings.unitSizes size hcalls
    change (Cache.replay _ requests').mapError RunError.refused >>= _ =
      (Cache.replay _ requests).mapError RunError.refused >>= _
    rw [Cache.replay_eq, Cache.replay_eq]
    cases hrun : runCalls Cache.perform _ (requests.map .request) with
    | error e => rw [(herror e).mp hrun]
    | ok done =>
      obtain ⟨c', hrun', htally, -⟩ := hok done.1 done.2 hrun
      rw [hrun']
      exact congrArg Except.ok htally

namespace Cache

/-- **The names of objects do not matter.**  Let calls be made to a fresh cache under a policy of
the catalogue, and let the same calls be made under other names, which `f` gives to the objects; the
times at which requests stand in the trace may be others too.  Then both runs are answered to their
ends, or both stop with the same error.  If they are answered:

* the answers are the same but for the names of the victims, and so are all counters, the occupied
  bytes, and the numbers of requests and of admissions;
* the same objects are stored under their other names, with the same serial numbers and sizes, and
  nothing else is, and the ghosts are the same under their other names, in the same order;
* the objects that a call evicts next go before all others by their priorities and serial numbers
  alone.

And a simulation with any settings has the same counters, or the same error, under both names. -/
theorem indifferent_to_names {settings : PolicySettings} (hscorer : settings.scorer = .ok scorer)
    (capacity budget : UInt64) (unitSizes : Bool) (hf : Function.Injective f)
    (hcalls : List.Forall₂ (Translation.otherNames hf).Calls calls calls') :
    (∀ e, runCalls perform (new capacity (.empty scorer budget) unitSizes) calls = .error e ↔
      runCalls perform (new capacity (.empty scorer budget) unitSizes) calls' = .error e) ∧
    (∀ answers c, runCalls perform (new capacity (.empty scorer budget) unitSizes) calls =
        .ok (answers, c) →
      ∃ c', runCalls perform (new capacity (.empty scorer budget) unitSizes) calls' =
          .ok (answers.map (Answer.rename f), c') ∧
        (c'.tally = c.tally ∧ c'.occupied = c.occupied ∧ c'.clock = c.clock ∧
          c'.nextSerial = c.nextSerial) ∧
        ((∀ id : ObjectId, c'.stored[f id]? = c.stored[id]?.map (Stored.rename f)) ∧
          (∀ id' ∈ c'.stored, ∃ id ∈ c.stored, f id = id') ∧
          c'.roster.ghosts.toList = c.roster.ghosts.toList.map (Ghost.rename f)) ∧
        ∀ call answer d, c.perform call = .ok (answer, d) →
          answer.victims.Pairwise c.roster.queue.Ahead ∧
          ∀ v ∈ answer.victims, ∀ (id : ObjectId) object, c.stored[id]? = some object →
            id ∉ answer.victims.map Ticket.id → c.roster.queue.Ahead v object.ticket) ∧
    ∀ (simulation : SimulationSettings) (policy : PolicySettings) (sample : Option Sample)
      (size : UInt64) (requests requests' : List Request),
      List.Forall₂ (fun r r' => r'.id = f r.id ∧ r'.size = r.size) requests requests' →
        Simulation.run simulation policy sample requests' size =
          Simulation.run simulation policy sample requests size := by
  have hsafe := PolicySettings.safe_of_scorer hscorer
  obtain ⟨band, place, hpolicy⟩ := PolicySettings.exists_timeless hscorer
  obtain ⟨herror, hok⟩ := run_renamed hsafe hpolicy capacity budget unitSizes capacity hcalls
  refine ⟨herror, fun answers c hrun => ?_, fun simulation policy sample size requests requests' =>
    Simulation.run_renamed hf simulation policy sample size⟩
  obtain ⟨c', hrun', htally, τ, hend⟩ := hok answers c hrun
  refine ⟨c', hrun', ⟨htally, hend.occupied, ?_, ?_⟩,
    ⟨hend.stored_rename rfl, hend.mem_stored_rename, hend.ghosts_rename rfl⟩,
    fun call answer d hcall => ?_⟩
  · exact (UInt64.toNat_inj.mp (hend.time.lead_eq 0 rfl).1).symm
  · exact (UInt64.toNat_inj.mp hend.nextSerial).symm
  · obtain ⟨hpairs, hfirst⟩ := ahead_of_perform hend.lockstep hcall
    exact ⟨hpairs, fun v hv => (hfirst v hv).2⟩

/-- Under their complements the names are in the opposite order, and the times run backwards.  Both
candidates have been requested once, and it is still the older one that goes. -/
theorem indifferent_to_complemented_names :
    ∃ c c', runCalls perform (new 2 (.empty .lfu 100) false)
        [.request ⟨0, 1, 1⟩, .request ⟨1, 2, 1⟩, .request ⟨2, 3, 1⟩] =
          .ok ([.served ⟨false, []⟩, .served ⟨false, []⟩, .served ⟨false, [⟨0, 1⟩]⟩], c) ∧
      runCalls perform (new 2 (.empty .lfu 100) false)
        [.request ⟨9, ~~~1, 1⟩, .request ⟨8, ~~~2, 1⟩, .request ⟨7, ~~~3, 1⟩] =
          .ok ([.served ⟨false, []⟩, .served ⟨false, []⟩, .served ⟨false, [⟨0, ~~~1⟩]⟩], c') ∧
      c'.tally = c.tally ∧ c'.contains (~~~2) = true ∧
      Simulation.run {} { policy := .lfu } none
          [⟨9, ~~~1, 1⟩, ⟨8, ~~~2, 1⟩, ⟨7, ~~~3, 1⟩] 2 =
        Simulation.run {} { policy := .lfu } none [⟨0, 1, 1⟩, ⟨1, 2, 1⟩, ⟨2, 3, 1⟩] 2 := by
  have hends : (fun done : List Answer × Cache => (done.1, done.2.contains 2)) <$>
      runCalls perform (new 2 (.empty .lfu 100) false)
        [.request ⟨0, 1, 1⟩, .request ⟨1, 2, 1⟩, .request ⟨2, 3, 1⟩] =
      .ok ([.served ⟨false, []⟩, .served ⟨false, []⟩, .served ⟨false, [⟨0, 1⟩]⟩], true) := by
    cbv
  obtain ⟨⟨answers, c⟩, hrun, heq⟩ := map_eq_ok.mp hends
  obtain ⟨rfl, hstored⟩ := Prod.mk.inj heq
  have hf : Function.Injective fun id : ObjectId => ~~~id := fun _ _ h => UInt64.not_inj.mp h
  have hscorer : ({ policy := .lfu } : PolicySettings).scorer = .ok .lfu := rfl
  have hcalls : List.Forall₂ (Translation.otherNames hf).Calls
      [.request ⟨0, 1, 1⟩, .request ⟨1, 2, 1⟩, .request ⟨2, 3, 1⟩]
      [.request ⟨9, ~~~1, 1⟩, .request ⟨8, ~~~2, 1⟩, .request ⟨7, ~~~3, 1⟩] :=
    .cons (.request rfl rfl) (.cons (.request rfl rfl) (.cons (.request rfl rfl) .nil))
  obtain ⟨-, hok, hsimulation⟩ := indifferent_to_names hscorer 2 100 false hf hcalls
  obtain ⟨c', hrun', ⟨htally, -⟩, ⟨hobjects, -⟩, -⟩ := hok _ c hrun
  refine ⟨c, c', hrun, hrun', htally, ?_, hsimulation {} { policy := .lfu } none 2 _ _
    (.cons ⟨rfl, rfl⟩ (.cons ⟨rfl, rfl⟩ (.cons ⟨rfl, rfl⟩ .nil)))⟩
  obtain ⟨object, hobject⟩ := Table.mem_iff_exists.mp (Std.TreeMap.contains_iff_mem.mp hstored)
  have hfound := hobjects 2
  rw [hobject] at hfound
  exact Std.TreeMap.contains_iff_mem.mpr (Table.mem_iff_exists.mpr ⟨_, hfound⟩)

end Cache
end CacheSim
