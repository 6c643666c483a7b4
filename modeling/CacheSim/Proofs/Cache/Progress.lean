import CacheSim.Proofs.Cache.Lockstep

/-!
# A cache never gets stuck

An eviction fails when the queue is empty, and a request fails when it needs room that evictions
cannot make.  In a cache in lockstep neither happens while anything is stored: whenever bytes are
missing something is stored, what is stored is queued, and every eviction takes one object away,
whatever its size.

* `Cache.makeRoom_congr`: the eviction loop ends by itself after at most as many evictions as
  there are objects;
* `Cache.live_after_calls`: after any calls, and in the middle of a request, a cache goes on.
-/

namespace CacheSim

/-! ## Refusals -/

section Refuses

variable {α β : Type} {x : Except Refusal α} {f : α → Except Refusal β}

/-- A computation ends in want of something to evict. -/
def Refuses (x : Except Refusal α) : Prop :=
  ∃ occupied capacity, x = .error (.nothingToEvict occupied capacity)

lemma not_refuses_ok (a : α) : ¬ Refuses (.ok a : Except Refusal α) := by
  rintro ⟨occupied, capacity, h⟩
  simp at h

lemma not_refuses_lift (x : Except Fault α) : ¬ Refuses (liftM x : Except Refusal α) := by
  rintro ⟨occupied, capacity, h⟩
  obtain ⟨f, -, hf⟩ := lift_eq_error.mp h
  simp at hf

lemma not_refuses_bind (hx : ¬ Refuses x) (hf : ∀ a, x = .ok a → ¬ Refuses (f a)) :
    ¬ Refuses (x >>= f) := by
  rintro ⟨occupied, capacity, h⟩
  rcases bind_eq_error.mp h with h | ⟨a, ha, h⟩
  · exact hx ⟨occupied, capacity, h⟩
  · exact hf a ha ⟨occupied, capacity, h⟩

/-- What does not end in want of something to evict succeeds, or a counter overflows. -/
lemma ok_or_fault (h : ¬ Refuses x) : (∃ a, x = .ok a) ∨ ∃ f, x = .error (.fault f) := by
  cases x with
  | ok a => exact Or.inl ⟨a, rfl⟩
  | error e =>
    cases e with
    | nothingToEvict occupied capacity => exact absurd ⟨occupied, capacity, rfl⟩ h
    | fault f => exact Or.inr ⟨f, rfl⟩

end Refuses

namespace Cache

variable {c c' : Cache} {size now : UInt64} {t : Ticket} {r : Request} {reply : Reply}
variable {victims : List Ticket} {n m : Nat} {call : Call}

/-! ## Evictions -/

lemma isEmpty_iff_size : c.isEmpty = true ↔ c.size = 0 := by
  rw [isEmpty, Std.TreeMap.isEmpty_eq_size_eq_zero, beq_iff_eq]
  rfl

/-- The queue runs empty only with the store. -/
lemma Lockstep.popVictim?_eq_none (h : c.Lockstep) :
    c.roster.popVictim? = none ↔ c.isEmpty = true := by
  rw [Roster.popVictim?_eq_none h.roster, isEmpty, Std.TreeMap.isEmpty_iff_forall_not_mem]
  constructor
  · intro hnone id hmem
    obtain ⟨object, hstored⟩ := Table.mem_iff_exists.mp hmem
    obtain ⟨p, hp⟩ := h.queued id object hstored
    simp [hnone] at hp
  · intro hnone t
    rw [Option.eq_none_iff_forall_ne_some]
    intro p hp
    obtain ⟨profile, -, hstored⟩ := h.stored_of_queued hp
    exact hnone t.id (Table.mem_iff_exists.mpr ⟨_, hstored⟩)

/-- A popped victim is stored, and leaves a queue that is shorter by one. -/
lemma Lockstep.popVictim?_eq_some (h : c.Lockstep) {roster : Roster}
    (hpop : c.roster.popVictim? = some (t, roster)) :
    roster.queue.size + 1 = c.roster.queue.size ∧ t.id ∈ c.stored := by
  obtain ⟨p, hfirst, rfl⟩ := Roster.popVictim?_eq_some h.roster hpop
  obtain ⟨profile, -, hstored⟩ := h.stored_of_queued hfirst.queued
  exact ⟨h.roster.coherent.size_erase hfirst.queued, Table.mem_iff_exists.mpr ⟨_, hstored⟩⟩

lemma Lockstep.evict_of_isEmpty (h : c.Lockstep) (hempty : c.isEmpty = true) :
    c.evict now = .error (.nothingToEvict c.occupied c.capacity) := by
  rw [Cache.evict, h.popVictim?_eq_none.mpr hempty]

lemma Lockstep.refuses_evict (h : c.Lockstep) : Refuses (c.evict now) ↔ c.isEmpty = true := by
  constructor
  · intro href
    by_contra hstored
    cases hpop : c.roster.popVictim? with
    | none => exact hstored (h.popVictim?_eq_none.mp hpop)
    | some popped =>
      rw [Cache.evict, hpop] at href
      refine not_refuses_bind (not_refuses_lift _) (fun _ _ => ?_) href
      exact not_refuses_bind (not_refuses_lift _) fun _ _ => not_refuses_ok _
  · exact fun hempty => ⟨_, _, h.evict_of_isEmpty hempty⟩

/-- An eviction leaves one object less. -/
lemma Lockstep.size_evict (h : c.Lockstep) (hev : c.evict now = .ok (t, c')) :
    c'.size + 1 = c.size := by
  cases evicts_of_evict h hev with
  | victim hres hstored hfirst hocc htally hghosts =>
    exact Table.size_erase_of_getElem? hstored

/-! ## The eviction loop -/

/-- When bytes are missing for an object that the cache can hold, something is stored. -/
lemma Lockstep.isEmpty_of_over (h : c.Lockstep) (hsize : size ≤ c.capacity)
    (hover : c.capacity.toNat < c.occupied.toNat + size.toNat) : c.isEmpty = false := by
  rw [Bool.eq_false_iff]
  intro hempty
  have hnil : c.stored.toList = [] := by
    rw [← List.length_eq_zero_iff, Std.TreeMap.length_toList]
    exact isEmpty_iff_size.mp hempty
  have hbytes := h.occupied_eq
  rw [storedBytes, hnil] at hbytes
  have hle := UInt64.le_iff_toNat_le.mp hsize
  simp at hbytes
  simp [hbytes] at hover
  omega

lemma makeRoom_of_fault {f : Fault} (hadd : Word.add c.occupied size = .error f) :
    makeRoom now size n c = .error (.fault f) := by
  cases n <;> rw [makeRoom, hadd] <;> rfl

lemma makeRoom_of_fits {needed : UInt64} (hadd : Word.add c.occupied size = .ok needed)
    (hfits : needed ≤ c.capacity) : makeRoom now size n c = .ok ([], c) := by
  cases n <;> rw [makeRoom, hadd] <;> exact if_pos hfits

lemma makeRoom_of_over {needed : UInt64} (hadd : Word.add c.occupied size = .ok needed)
    (hover : ¬ needed ≤ c.capacity) :
    makeRoom now size (n + 1) c = (c.evict now >>= fun done =>
      makeRoom now size n done.2 >>= fun more => .ok (done.1 :: more.1, more.2)) := by
  rw [makeRoom, hadd]
  exact if_neg hover

/-- **The eviction loop ends by itself.**  It never wants for a victim, and any allowance of
evictions that is at least the number of objects gives the same result. -/
lemma makeRoom_congr (h : c.Lockstep) (hsize : size ≤ c.capacity) (hn : c.size ≤ n)
    (hm : c.size ≤ m) :
    makeRoom now size n c = makeRoom now size m c ∧ ¬ Refuses (makeRoom now size n c) := by
  -- the bytes need not change in a round, but the number of objects does
  induction hk : c.size using Nat.strongRecOn generalizing c n m with
  | ind k ih =>
    cases hadd : Word.add c.occupied size with
    | error f =>
      rw [makeRoom_of_fault hadd, makeRoom_of_fault hadd]
      exact ⟨rfl, not_refuses_lift (.error f)⟩
    | ok needed =>
      by_cases hfits : needed ≤ c.capacity
      · rw [makeRoom_of_fits hadd hfits, makeRoom_of_fits hadd hfits]
        exact ⟨rfl, not_refuses_ok _⟩
      · have hover : c.capacity.toNat < c.occupied.toNat + size.toNat := by
          rw [Word.add_eq_ok.mp hadd]
          exact Nat.lt_of_not_le (mt UInt64.le_iff_toNat_le.mpr hfits)
        have hstored := h.isEmpty_of_over hsize hover
        have hpos : c.size ≠ 0 := mt isEmpty_iff_size.mpr (by simp [hstored])
        obtain ⟨n, rfl⟩ := Nat.exists_eq_succ_of_ne_zero (show n ≠ 0 by omega)
        obtain ⟨m, rfl⟩ := Nat.exists_eq_succ_of_ne_zero (show m ≠ 0 by omega)
        have hnext : ∀ t c₁, c.evict now = .ok (t, c₁) →
            makeRoom now size n c₁ = makeRoom now size m c₁ ∧
              ¬ Refuses (makeRoom now size n c₁) := by
          intro t c₁ hev
          have hless := h.size_evict hev
          have hcapacity := (sameSetup_of_evicts (evicts_of_evict h hev)).capacity
          exact ih c₁.size (by omega) (h.evict hev) (hcapacity ▸ hsize) (by omega) (by omega) rfl
        rw [makeRoom_of_over hadd hfits, makeRoom_of_over hadd hfits]
        constructor
        · cases hev : c.evict now with
          | error e => rfl
          | ok done =>
            simp only [bind, Except.bind]
            rw [(hnext done.1 done.2 hev).1]
        · refine not_refuses_bind (mt h.refuses_evict.mp (by simp [hstored])) fun done hev => ?_
          exact not_refuses_bind (hnext done.1 done.2 hev).2 fun _ _ => not_refuses_ok _

/-- Every victim that room is made with was stored. -/
lemma Lockstep.length_victims (h : c.Lockstep) (hroom : MakesRoom now size c victims c') :
    victims.length + c'.size = c.size := by
  induction hroom with
  | fits => exact Nat.zero_add _
  | evicts hover hev hmore ih =>
    have hless := h.size_evict hev
    have hmore := ih (h.evict hev)
    rw [List.length_cons]
    omega

/-! ## Requests and runs -/

lemma Lockstep.not_refuses_request (h : c.Lockstep) : ¬ Refuses (c.request r) := by
  rw [Cache.request]
  refine not_refuses_bind (not_refuses_lift _) fun c₁ htick => ?_
  obtain ⟨clock, tally, -, -, rfl⟩ := tick_eq_ok.mp (lift_eq_ok.mp htick)
  split
  · exact not_refuses_bind (not_refuses_lift _) fun _ _ => not_refuses_ok _
  · rw [admitMissing]
    refine not_refuses_bind (not_refuses_lift _) fun tally₁ _ => ?_
    dsimp only
    split
    · exact not_refuses_bind (not_refuses_lift _) fun _ _ => not_refuses_ok _
    · next hlarge =>
      have hlock := h.count clock tally₁
      have hsize : c.effectiveSize r ≤ c.capacity :=
        UInt64.le_iff_toNat_le.mpr (Nat.le_of_not_lt (mt UInt64.lt_iff_toNat_lt.mpr hlarge))
      -- the allowance is the number of candidates, which is the number of objects
      have hqueue := Nat.le_of_eq hlock.size_eq.2
      refine not_refuses_bind (makeRoom_congr hlock hsize hqueue hqueue).2 fun _ _ => ?_
      exact not_refuses_bind (not_refuses_lift _) fun _ _ => not_refuses_ok _

/-- No call evicts more objects than there are. -/
lemma Lockstep.length_victims_perform {answer : Answer} (h : c.Lockstep)
    (hcall : c.perform call = .ok (answer, c')) : answer.victims.length ≤ c.size := by
  cases h.performs hcall with
  | hit | bypass | refused | cleared => exact Nat.zero_le _
  | admission hclock htally hnew hlarge hmiss hcounted hroom =>
    exact Nat.le.intro (hcounted.length_victims hroom)
  | evicted hev =>
    have hless := h.size_evict hev
    change 1 ≤ c.size
    omega

lemma Lockstep.not_refuses_perform (h : c.Lockstep) : ¬ Refuses (c.perform call) := by
  rintro ⟨occupied, capacity, hcall⟩
  cases call with
  | request r => exact h.not_refuses_request ⟨occupied, capacity, map_eq_error.mp hcall⟩
  | evict now =>
    rw [Cache.perform] at hcall
    split at hcall <;> simp at hcall
  | clear => simp [Cache.perform] at hcall

/-- Whatever can be asked of a cache next, it goes on. -/
structure Live (c : Cache) : Prop where
  /-- A request is served, with no more evictions than there are objects, unless a counter
  overflows. -/
  request : ∀ r, (∃ reply c', c.request r = .ok (reply, c') ∧ reply.victims.length ≤ c.size) ∨
    ∃ f, c.request r = .error (.fault f)
  /-- When bytes are missing for an object that the cache can hold, there is a candidate. -/
  candidate : ∀ size, size ≤ c.capacity →
    c.capacity.toNat < c.occupied.toNat + size.toNat → c.roster.queue.size ≠ 0
  /-- The eviction loop ends by itself, within as many evictions as there are objects. -/
  makeRoom : ∀ now size n, size ≤ c.capacity → c.size ≤ n →
    Cache.makeRoom now size n c = Cache.makeRoom now size c.size c ∧
      ((∃ victims c', Cache.makeRoom now size n c = .ok (victims, c') ∧ victims.length ≤ c.size) ∨
        ∃ f, Cache.makeRoom now size n c = .error (.fault f))
  /-- An eviction is refused exactly when nothing is stored, and then nothing changes. -/
  refusal : ∀ now,
    ((∃ occupied capacity, c.evict now = .error (.nothingToEvict occupied capacity)) ↔
      c.isEmpty = true) ∧
    (c.isEmpty = true → c.perform (.evict now) = .ok (.refused, c))
  /-- Otherwise a victim is popped that is stored, and the queue is shorter by one. -/
  pop : c.isEmpty = false → ∃ t roster, c.roster.popVictim? = some (t, roster) ∧
    roster.queue.size + 1 = c.roster.queue.size ∧
    ∃ object, c.stored[t.id]? = some object ∧ object.size ≤ c.occupied
  /-- And it is evicted, unless a counter overflows. -/
  eviction : ∀ now, c.isEmpty = false →
    (∃ t c', c.evict now = .ok (t, c') ∧ c'.roster.queue.size + 1 = c.roster.queue.size ∧
      c'.size + 1 = c.size) ∨ ∃ f, c.evict now = .error (.fault f)

lemma Lockstep.live (h : c.Lockstep) : c.Live where
  request := fun r => by
    rcases ok_or_fault (h.not_refuses_request (r := r)) with ⟨⟨reply, c'⟩, hreq⟩ | hfault
    · have hcall := perform_request_eq_ok.mpr ⟨reply, hreq, rfl⟩
      exact Or.inl ⟨reply, c', hreq, h.length_victims_perform hcall⟩
    · exact Or.inr hfault
  candidate := fun size hsize hover => by
    rw [← h.size_eq.2]
    exact mt isEmpty_iff_size.mpr (by simp [h.isEmpty_of_over hsize hover])
  makeRoom := fun now size n hsize hn => by
    have hends : ¬ Refuses (Cache.makeRoom now size n c) := (makeRoom_congr h hsize hn hn).2
    refine ⟨(makeRoom_congr h hsize hn (Nat.le_refl _)).1, ?_⟩
    rcases ok_or_fault hends with ⟨⟨victims, c'⟩, hok⟩ | hfault
    · exact Or.inl ⟨victims, c', hok,
        Nat.le.intro (h.length_victims (makesRoom_of_makeRoom hok))⟩
    · exact Or.inr hfault
  refusal := fun now => by
    refine ⟨h.refuses_evict, fun hempty => ?_⟩
    rw [Cache.perform, h.evict_of_isEmpty hempty]
  pop := fun hstored => by
    cases hpop : c.roster.popVictim? with
    | none => simp [h.popVictim?_eq_none.mp hpop] at hstored
    | some popped =>
      obtain ⟨t, roster⟩ := popped
      obtain ⟨hsize, hmem⟩ := h.popVictim?_eq_some hpop
      obtain ⟨object, hobject⟩ := Table.mem_iff_exists.mp hmem
      exact ⟨t, roster, rfl, hsize, object, hobject, h.size_le_occupied hobject⟩
  eviction := fun now hstored => by
    have hnot : ¬ Refuses (c.evict now) := mt h.refuses_evict.mp (by simp [hstored])
    rcases ok_or_fault hnot with ⟨⟨t, c'⟩, hev⟩ | hfault
    · have hless := h.size_evict hev
      refine Or.inl ⟨t, c', hev, ?_, hless⟩
      rw [← h.size_eq.2, ← (h.evict hev).size_eq.2, hless]
    · exact Or.inr hfault

/-- **A cache never gets stuck.**  A run of calls to a fresh cache ends early only when a counter
overflows.  After a run that does not, and also in the middle of a request that follows it, when
the request has been counted and some evictions have been made for it, the cache is live:

* a request is served and never wants for a victim, since the queue is not empty when bytes are
  missing, and the eviction loop ends after at most as many evictions as there are objects;
* an eviction is refused exactly when nothing is stored, and then changes nothing; otherwise the
  queue gets shorter by one and the victim is in the store. -/
theorem live_after_calls (capacity budget : UInt64) (scorer : Scorer) (unitSizes : Bool)
    (calls : List Call) :
    (∃ f, runCalls perform (new capacity (.empty scorer budget) unitSizes) calls =
      .error (.fault f)) ∨
    ∃ answers c, runCalls perform (new capacity (.empty scorer budget) unitSizes) calls =
        .ok (answers, c) ∧
      ∀ (clock : UInt64) (tally : Tally) (nows : List UInt64) (evicted : List Answer) (c' : Cache),
        runCalls perform { c with clock := clock, tally := tally } (nows.map .evict) =
          .ok (evicted, c') → c'.Live := by
  have hstart := lockstep_new capacity budget scorer unitSizes
  cases hrun : runCalls perform (new capacity (.empty scorer budget) unitSizes) calls with
  | error e =>
    obtain ⟨c, call, hlock, hcall⟩ :=
      runCalls_error hstart (fun _ _ _ _ hlock => hlock.perform) hrun
    have hnot : ¬ Refuses (c.perform call) := hlock.not_refuses_perform
    rcases ok_or_fault hnot with ⟨_, hok⟩ | ⟨f, hfault⟩
    · simp [hcall] at hok
    · exact Or.inl ⟨f, congrArg _ (Except.error.inj (hcall.symm.trans hfault))⟩
  | ok done =>
    obtain ⟨answers, c⟩ := done
    refine Or.inr ⟨answers, c, rfl, fun clock tally nows evicted c' hmore => ?_⟩
    have hlock := (lockstep_of_run hstart hrun).1.count clock tally
    exact (lockstep_of_run hlock hmore).1.live

/-- Two objects of no bytes stand before the one whose bytes are needed: room for a fourth object
takes three evictions, and there are three objects. -/
theorem live_with_empty_objects :
    ∃ answers c, runCalls perform (new 2 (.empty .lru 100) false)
        [.evict 0, .request ⟨0, 1, 0⟩, .request ⟨0, 2, 0⟩, .request ⟨0, 3, 2⟩] =
          .ok (answers, c) ∧
      c.size = 3 ∧ c.Live ∧
      (fun done => done.1.victims) <$> c.request ⟨0, 4, 1⟩ = .ok [⟨0, 1⟩, ⟨1, 2⟩, ⟨2, 3⟩] := by
  have hends : (fun done : List Answer × Cache =>
        (done.2.size, (fun done => done.1.victims) <$> done.2.request ⟨0, 4, 1⟩)) <$>
      runCalls perform (new 2 (.empty .lru 100) false)
        [.evict 0, .request ⟨0, 1, 0⟩, .request ⟨0, 2, 0⟩, .request ⟨0, 3, 2⟩] =
      .ok (3, .ok [⟨0, 1⟩, ⟨1, 2⟩, ⟨2, 3⟩]) := by
    cbv
  obtain ⟨⟨answers, c⟩, hrun, heq⟩ := map_eq_ok.mp hends
  obtain ⟨hsize, hvictims⟩ := Prod.mk.inj heq
  rcases live_after_calls 2 100 .lru false [.evict 0, .request ⟨0, 1, 0⟩, .request ⟨0, 2, 0⟩,
    .request ⟨0, 3, 2⟩] with ⟨f, hfault⟩ | ⟨answers', c', hrun', hlive⟩
  · simp [hrun] at hfault
  · obtain ⟨rfl, rfl⟩ := Prod.mk.inj (Except.ok.inj (hrun.symm.trans hrun'))
    exact ⟨answers, c, hrun, hsize, hlive c.clock c.tally [] [] c rfl, hvictims⟩

end Cache
end CacheSim
