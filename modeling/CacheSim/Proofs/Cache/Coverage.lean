import CacheSim.Proofs.Cache.Events
import CacheSim.Proofs.Scoring

/-!
# The counters cover the cache

No sum that a cache computes is guarded where it is computed: capacity and budget may be as large
as a word can be.  What keeps the sums in range is that the requests are counted first.  Whatever
is stored or remembered as a ghost has been missed, and what has been missed has been requested;
so has every serial number and every number of a ranked multiset.  `Cache.Covers` says so, with
some objects and bytes that are counted as missed already and have not been placed yet.

* `Cache.Covers.hit`, `Cache.Covers.miss`, `Cache.Covers.evict`, `Cache.Covers.store`: what the
  parts of a call do to the cover;
* `Cache.Covers.exists_request`: when there is room for a request in the counters, it is served;
* `Cache.run_iff_counted`: a run succeeds exactly when its requests and their bytes can be
  counted.
-/

namespace CacheSim
namespace Cache

/-- The counters cover what is in the cache, and `n` objects and `b` bytes more. -/
structure Covers (n b : Nat) (c : Cache) : Prop where
  ghosts : c.roster.ghosts.Valid
  clock : c.clock.toNat = c.tally.counts.requests
  misses : c.tally.counts.misses ≤ c.tally.counts.requests
  missBytes : c.tally.counts.missBytes ≤ c.tally.counts.requestBytes
  bypasses : c.tally.counts.bypasses + n ≤ c.tally.counts.misses
  objects : c.tally.counts.evictions + c.stored.size + n ≤ c.tally.counts.misses
  serials : c.nextSerial.toNat + n ≤ c.tally.counts.misses
  bytes : c.roster.ghosts.totalSize.toNat + c.occupied.toNat + b ≤ c.tally.counts.missBytes
  counts : c.roster.counts.nextUid + n ≤ c.tally.counts.requests
  entered : c.roster.entered.nextUid + n ≤ c.tally.counts.misses
  sizes : c.roster.sizes.nextUid + n ≤ c.tally.counts.misses

variable {c c' : Cache} {id : ObjectId} {size now clock : UInt64} {t : Ticket} {object : Stored}
variable {tally tally₁ : Tally} {roster : Roster} {r : Request} {victims : List Ticket}
variable {n b m : Nat} {call : Call} {answer : Answer}

lemma covers_new (capacity budget : UInt64) (scorer : Scorer) (unitSizes : Bool) :
    Covers 0 0 (new capacity (.empty scorer budget) unitSizes) where
  ghosts := GhostLog.valid_empty budget
  clock := rfl
  misses := Nat.le_refl _
  missBytes := Nat.le_refl _
  bypasses := Nat.le_refl _
  objects := Nat.le_refl _
  serials := Nat.le_refl _
  bytes := Nat.le_refl _
  counts := Nat.le_refl _
  entered := Nat.le_refl _
  sizes := Nat.le_refl _

/-! ## What the parts of a call do to the cover -/

/-- A request is counted before anything else is done. -/
lemma Covers.count (h : Covers 0 0 c) (hclock : Word.add c.clock 1 = .ok clock)
    (htally : c.tally.countRequest size = .ok tally) :
    Covers 0 0 { c with clock := clock, tally := tally } := by
  have hnow := Word.add_eq_ok.mp hclock
  have hone : (1 : UInt64).toNat = 1 := rfl
  obtain ⟨h₁, h₂, h₃, h₄, h₅, h₆, h₇, h₈, h₉, h₁₀, h₁₁⟩ := h
  refine ⟨h₁, ?_, ?_, ?_, ?_, ?_, ?_, ?_, ?_, ?_, ?_⟩ <;>
    rw [Tally.counts_countRequest htally] <;> dsimp only at * <;> omega

/-- A hit gives out one number, for the new count of accesses. -/
lemma Covers.hit (h : Covers 0 0 c) (hclock : Word.add c.clock 1 = .ok clock)
    (htally : c.tally.countRequest size = .ok tally) (htouch : Touches c now id roster) :
    Covers 0 0 { c with clock := clock, tally := tally, roster := roster } := by
  have hcounts := h.counts
  have hrequests := congrArg Counts.requests (Tally.counts_countRequest htally)
  obtain ⟨h₁, h₂, h₃, h₄, h₅, h₆, h₇, h₈, h₉, h₁₀, h₁₁⟩ := h.count hclock htally
  cases htouch with
  | @resident t profile p hres hid hp =>
    refine ⟨h₁, h₂, h₃, h₄, h₅, h₆, h₇, h₈, ?_, h₁₀, h₁₁⟩
    have huid := RankTree.nextUid_erase c.roster.counts profile.accesses
    change (c.roster.counts.erase profile.accesses).nextUid + 1 + 0 ≤ tally.counts.requests
    dsimp only at hrequests
    omega

/-- A miss is counted before its object has a place. -/
lemma Covers.miss (h : Covers 0 0 c) (hclock : Word.add c.clock 1 = .ok clock)
    (htally : c.tally.countRequest size = .ok tally) (hmiss : tally.countMiss size = .ok tally₁) :
    Covers 1 size.toNat { c with clock := clock, tally := tally₁ } := by
  have hnow := Word.add_eq_ok.mp hclock
  have hone : (1 : UInt64).toNat = 1 := rfl
  obtain ⟨h₁, h₂, h₃, h₄, h₅, h₆, h₇, h₈, h₉, h₁₀, h₁₁⟩ := h
  refine ⟨h₁, ?_, ?_, ?_, ?_, ?_, ?_, ?_, ?_, ?_, ?_⟩ <;>
    rw [Tally.counts_countMiss hmiss, Tally.counts_countRequest htally] <;>
    dsimp only at * <;> omega

lemma Covers.bypass (h : Covers 1 b c) (hbypass : c.tally.countBypass = .ok tally) :
    Covers 0 0 { c with tally := tally } := by
  obtain ⟨h₁, h₂, h₃, h₄, h₅, h₆, h₇, h₈, h₉, h₁₀, h₁₁⟩ := h
  refine ⟨h₁, ?_, ?_, ?_, ?_, ?_, ?_, ?_, ?_, ?_, ?_⟩ <;>
    rw [Tally.counts_countBypass hbypass] <;> dsimp only at * <;> omega

/-- A victim that is dropped may leave its bytes to the ghosts. -/
lemma Covers.drop (h : Covers n b c) {occupied : UInt64} {roster : Roster}
    (hstored : c.stored[t.id]? = some object) (hocc : Word.sub c.occupied object.size = .ok occupied)
    (htally : c.tally.countEviction = .ok tally) (hvalid : roster.ghosts.Valid)
    (htotal : roster.ghosts.totalSize.toNat ≤
      c.roster.ghosts.totalSize.toNat + object.size.toNat)
    (hcounts : roster.counts.nextUid = c.roster.counts.nextUid)
    (hentered : roster.entered.nextUid = c.roster.entered.nextUid)
    (hsizes : roster.sizes.nextUid = c.roster.sizes.nextUid) :
    Covers n b { c with
      occupied := occupied, stored := c.stored.erase t.id, tally := tally, roster := roster } := by
  have hbytes := Word.sub_eq_ok.mp hocc
  have hsize := Table.size_erase_of_getElem? hstored
  obtain ⟨h₁, h₂, h₃, h₄, h₅, h₆, h₇, h₈, h₉, h₁₀, h₁₁⟩ := h
  refine ⟨hvalid, ?_, ?_, ?_, ?_, ?_, ?_, ?_, ?_, ?_, ?_⟩ <;>
    rw [Tally.counts_countEviction htally] <;> dsimp only at * <;> omega

lemma Covers.evict (h : Covers n b c) (hev : Evicts c now t c') : Covers n b c' := by
  cases hev with
  | victim hres hstored hfirst hocc htally hghosts =>
    obtain ⟨hvalid, htotal⟩ := h.ghosts.record hghosts
    exact h.drop hstored hocc htally hvalid htotal (RankTree.nextUid_erase _ _)
      (RankTree.nextUid_erase _ _) (RankTree.nextUid_erase _ _)

/-- An object that is stored takes the bytes that it was counted with. -/
lemma Covers.store (h : Covers 1 size.toNat c) (hlock : c.Lockstep)
    (hstore : Stores c id size c') : Covers 0 0 c' := by
  obtain ⟨-, hobjects, -⟩ := hstore.books hlock
  cases hstore with
  | @fresh nextSerial occupied p hnew hserial hocc hp =>
    have hserials := Word.add_eq_ok.mp hserial
    have hbytes := Word.add_eq_ok.mp hocc
    have hone : (1 : UInt64).toNat = 1 := rfl
    obtain ⟨h₁, h₂, h₃, h₄, h₅, h₆, h₇, h₈, h₉, h₁₀, h₁₁⟩ := h
    refine ⟨h₁, h₂, h₃, h₄, ?_, ?_, ?_, ?_, h₉, h₁₀, h₁₁⟩
    · exact Nat.le_of_succ_le h₅
    · change (c.stored.insert id _).size = c.stored.size + 1 at hobjects
      dsimp only
      omega
    · dsimp only
      omega
    · change c.roster.ghosts.totalSize.toNat + occupied.toNat + 0 ≤ c.tally.counts.missBytes
      omega

lemma Covers.clear (h : Covers 0 0 c) : Covers 0 0 c.clear := by
  obtain ⟨h₁, h₂, h₃, h₄, h₅, h₆, h₇, h₈, h₉, h₁₀, h₁₁⟩ := h
  refine ⟨GhostLog.valid_clear _, h₂, h₃, h₄, h₅, ?_, h₇, ?_, h₉, h₁₀, h₁₁⟩
  · change c.tally.counts.evictions + 0 + 0 ≤ c.tally.counts.misses
    omega
  · exact Nat.zero_le _

lemma Covers.makesRoom (h : Covers n b c) (hlock : c.Lockstep)
    (hroom : MakesRoom now size c victims c') : Covers n b c' := by
  induction hroom with
  | fits => exact h
  | evicts hover hev hmore ih =>
    exact ih (h.evict (evicts_of_evict hlock hev)) (hlock.evict hev)

lemma Covers.perform (h : Covers 0 0 c) (hlock : c.Lockstep)
    (hcall : c.perform call = .ok (answer, c')) : Covers 0 0 c' := by
  cases hlock.performs hcall with
  | hit hclock htally hstored htouch => exact h.hit hclock htally htouch
  | bypass hclock htally hnew hlarge hmiss hbypass =>
    exact (h.miss hclock htally hmiss).bypass hbypass
  | admission hclock htally hnew hlarge hmiss hcounted hroom hlock₁ hstore =>
    exact ((h.miss hclock htally hmiss).makesRoom hcounted hroom).store hlock₁ hstore
  | evicted hev hevicts => exact h.evict hevicts
  | refused => exact h
  | cleared => exact h.clear

/-! ## No check fails -/

/-- What is stored can be evicted. -/
lemma Covers.exists_evict (h : Covers n b c) (hlock : c.Lockstep) (hstored : c.isEmpty = false)
    (now : UInt64) : ∃ t c', c.evict now = .ok (t, c') := by
  cases hpop : c.roster.popVictim? with
  | none => simp [hlock.popVictim?_eq_none.mp hpop] at hstored
  | some popped =>
    obtain ⟨t, roster⟩ := popped
    obtain ⟨p, hfirst, rfl⟩ := Roster.popVictim?_eq_some hlock.roster hpop
    obtain ⟨profile, hres, hvictim⟩ := hlock.stored_of_queued hfirst.queued
    have hle := UInt64.le_iff_toNat_le.mp (hlock.size_le_occupied hvictim)
    have hmisses : c.tally.counts.misses < 2 ^ 64 := c.tally.misses.toNat_lt
    have hmissBytes : c.tally.counts.missBytes < 2 ^ 64 := c.tally.missBytes.toNat_lt
    have hobjects := h.objects
    have hbytes := h.bytes
    have hsize := Table.size_erase_of_getElem? hvictim
    dsimp only at hle
    -- the victim is counted among the misses, and so are its bytes
    obtain ⟨occupied, hocc⟩ := Word.exists_sub hle
    obtain ⟨tally, htally⟩ := Tally.exists_countEviction (t := c.tally) (by omega)
    have hroom : c.roster.ghosts.totalSize.toNat +
        (Roster.ghostOf now t.id profile).size.toNat < 2 ^ 64 := by
      dsimp only [Roster.ghostOf]
      omega
    obtain ⟨ghosts, hghosts⟩ := h.ghosts.exists_record hroom
    have hleave := (Roster.evict_popped hres).trans (map_eq_ok.mpr ⟨ghosts, hghosts, rfl⟩)
    exact ⟨t, _, evict_eq_ok.mpr ⟨_, _, _, hpop,
      (drop_eq_ok (by exact hvictim)).mpr ⟨occupied, tally, hocc, htally, rfl⟩, hleave, rfl⟩⟩

/-- Room can be made for an object that is counted already. -/
lemma Covers.exists_makeRoom (h : Covers n size.toNat c) (hlock : c.Lockstep)
    (hsize : size ≤ c.capacity) (now : UInt64) (hm : c.size ≤ m) :
    ∃ victims c', makeRoom now size m c = .ok (victims, c') := by
  have hmissBytes : c.tally.counts.missBytes < 2 ^ 64 := c.tally.missBytes.toNat_lt
  have hbytes := h.bytes
  induction hk : c.size using Nat.strongRecOn generalizing c m with
  | ind k ih =>
    obtain ⟨needed, hadd⟩ :=
      Word.exists_add (show c.occupied.toNat + size.toNat < 2 ^ 64 by omega)
    by_cases hfits : needed ≤ c.capacity
    · exact ⟨[], c, makeRoom_of_fits hadd hfits⟩
    · have hover : c.capacity.toNat < c.occupied.toNat + size.toNat := by
        rw [Word.add_eq_ok.mp hadd]
        exact Nat.lt_of_not_le (mt UInt64.le_iff_toNat_le.mpr hfits)
      have hstored := hlock.isEmpty_of_over hsize hover
      obtain ⟨t, c₁, hev⟩ := h.exists_evict hlock hstored now
      have hless := hlock.size_evict hev
      have hevicts := evicts_of_evict hlock hev
      have h₁ := h.evict hevicts
      have hcapacity := (sameSetup_of_evicts hevicts).capacity
      obtain ⟨m, rfl⟩ := Nat.exists_eq_succ_of_ne_zero (show m ≠ 0 by omega)
      have hless₁ : c₁.size ≤ m := by omega
      obtain ⟨victims, c', hmore⟩ := ih c₁.size (by omega) h₁ (hlock.evict hev)
        (hcapacity ▸ hsize) hless₁ c₁.tally.missBytes.toNat_lt h₁.bytes rfl
      refine ⟨t :: victims, c', ?_⟩
      rw [makeRoom_of_over hadd hfits]
      exact bind_eq_ok.mpr ⟨_, hev, bind_eq_ok.mpr ⟨_, hmore, rfl⟩⟩

/-- An object that is counted already can be stored. -/
lemma Covers.exists_store (h : Covers 1 size.toNat c) (hlock : c.Lockstep)
    (hsafe : c.roster.scorer.Safe) (hnew : c.stored[id]? = none) :
    ∃ c', c.store id size = .ok c' := by
  have hmisses : c.tally.counts.misses < 2 ^ 64 := c.tally.misses.toNat_lt
  have hmissBytes : c.tally.counts.missBytes < 2 ^ 64 := c.tally.missBytes.toNat_lt
  have hone : (1 : UInt64).toNat = 1 := rfl
  have hserials := h.serials
  have hbytes := h.bytes
  have hnot : id ∉ c.roster.residents := by
    rw [← hlock.mem_stored, Table.mem_iff_exists, hnew]
    simp
  obtain ⟨nextSerial, hserial⟩ :=
    Word.exists_add (show c.nextSerial.toNat + (1 : UInt64).toNat < 2 ^ 64 by omega)
  obtain ⟨occupied, hocc⟩ :=
    Word.exists_add (show c.occupied.toNat + size.toNat < 2 ^ 64 by omega)
  obtain ⟨p, hp, -⟩ := hsafe ((c.roster.seat c.clock ⟨c.nextSerial, id⟩ size).scene c.clock id
    (.start c.clock size)) h.ghosts
  have hinsert : ∃ roster, c.roster.insert c.clock ⟨c.nextSerial, id⟩ size = .ok roster :=
    ⟨_, (Roster.insert_of_not_mem hnot).trans (Roster.enqueue_eq_ok.mpr ⟨p, hp, rfl⟩)⟩
  obtain ⟨roster, hins⟩ := hinsert
  exact ⟨_, store_eq_ok.mpr ⟨nextSerial, occupied, roster, hserial, hocc, hins, rfl⟩⟩

/-- A stored object can be touched. -/
lemma Covers.exists_touch (h : Covers n b c) (hlock : c.Lockstep)
    (hsafe : c.roster.scorer.Safe) (hstored : c.stored[id]? = some object) (now : UInt64) :
    ∃ roster, c.roster.touch now object.ticket = .ok roster := by
  obtain ⟨profile, hres, -⟩ := hlock.stored_eq_some.mp hstored
  obtain rfl := hlock.ticket_id hstored
  obtain ⟨p, hp, -⟩ := hsafe ((c.roster.reseat now object.ticket profile).scene now
    object.ticket.id (profile.touch now)) h.ghosts
  exact ⟨_, (Roster.touch_of_holder hres).trans (Roster.enqueue_eq_ok.mpr ⟨p, hp, rfl⟩)⟩

/-- A request that can be counted is served. -/
lemma Covers.exists_request (h : Covers 0 0 c) (hlock : c.Lockstep)
    (hsafe : c.roster.scorer.Safe) (hrequests : c.tally.counts.requests + 1 < 2 ^ 64)
    (hbytes : c.tally.counts.requestBytes + (c.effectiveSize r).toNat < 2 ^ 64) :
    ∃ reply c', c.request r = .ok (reply, c') := by
  have hmisses := h.misses
  have hmissBytes := h.missBytes
  have hone : (1 : UInt64).toNat = 1 := rfl
  obtain ⟨clock, hclock⟩ := Word.exists_add (show c.clock.toNat + (1 : UInt64).toNat < 2 ^ 64 by
    rw [h.clock]
    exact hrequests)
  obtain ⟨tally, htally⟩ := Tally.exists_countRequest hrequests hbytes
  cases hstored : c.stored[r.id]? with
  | some object =>
    obtain ⟨roster, htouch⟩ := h.exists_touch hlock hsafe hstored clock
    exact ⟨_, _, request_of_hit hclock htally hstored htouch⟩
  | none =>
    have hcounted := Tally.counts_countRequest htally
    have hroom : tally.counts.misses + 1 < 2 ^ 64 ∧
        tally.counts.missBytes + (c.effectiveSize r).toNat < 2 ^ 64 := by
      simp only [hcounted]
      omega
    obtain ⟨tally₁, hmiss⟩ := Tally.exists_countMiss hroom.1 hroom.2
    have hmissed := h.miss hclock htally hmiss
    by_cases hlarge : c.capacity < c.effectiveSize r
    · have hlt : tally₁.counts.misses < 2 ^ 64 := tally₁.misses.toNat_lt
      obtain ⟨tally₂, hbypass⟩ :=
        Tally.exists_countBypass (Nat.lt_of_le_of_lt hmissed.bypasses hlt)
      exact ⟨_, _, request_of_bypass hclock htally hstored hlarge hmiss hbypass⟩
    · have hlock₁ := hlock.count clock tally₁
      have hsize : c.effectiveSize r ≤ c.capacity :=
        UInt64.le_iff_toNat_le.mpr (Nat.le_of_not_lt (mt UInt64.lt_iff_toNat_lt.mpr hlarge))
      obtain ⟨victims, c₁, hmade⟩ :=
        hmissed.exists_makeRoom hlock₁ hsize clock (Nat.le_of_eq hlock₁.size_eq.2)
      have hmakes := makesRoom_of_makeRoom hmade
      obtain ⟨hlock₂, hnew₂, -⟩ := hlock₁.makesRoom hmakes hstored
      have hsafe₂ : c₁.roster.scorer.Safe := by
        rw [(sameSetup_of_makesRoom hlock₁ hmakes).scorer]
        exact hsafe
      obtain ⟨c', hstore⟩ := (hmissed.makesRoom hlock₁ hmakes).exists_store hlock₂ hsafe₂ hnew₂
      exact ⟨_, _, request_of_admission hclock htally hstored hlarge hmiss hmade hstore⟩

/-! ## Runs -/

lemma Covers.exists_perform (h : Covers 0 0 c) (hlock : c.Lockstep)
    (hsafe : c.roster.scorer.Safe)
    (hrequests : c.tally.counts.requests + call.isRequest.toNat < 2 ^ 64)
    (hbytes : c.tally.counts.requestBytes + call.bytes c.unitSizes < 2 ^ 64) :
    ∃ answer c', c.perform call = .ok (answer, c') := by
  cases call with
  | request r =>
    rw [← toNat_effectiveSize] at hbytes
    obtain ⟨reply, c', hreq⟩ := h.exists_request hlock hsafe hrequests hbytes
    exact ⟨_, c', perform_request_eq_ok.mpr ⟨reply, hreq, rfl⟩⟩
  | evict now =>
    cases hempty : c.isEmpty with
    | true =>
      have hrefused : c.evict now = _ := hlock.evict_of_isEmpty hempty
      exact ⟨_, c, perform_evict_eq_ok.mpr (Or.inr ⟨⟨_, _, hrefused⟩, rfl, rfl⟩)⟩
    | false =>
      obtain ⟨t, c', hev⟩ := h.exists_evict hlock hempty now
      exact ⟨_, c', perform_evict_eq_ok.mpr (Or.inl ⟨t, hev, rfl⟩)⟩
  | clear => exact ⟨_, _, rfl⟩

lemma fault_of_tick {f : Fault} (h : c.tick size = .error f) : f = .addOverflow := by
  rw [tick, bind_eq_error] at h
  rcases h with h | ⟨clock, -, h⟩
  · exact Word.fault_of_add h
  · rcases bind_eq_error.mp h with h | ⟨tally, -, h⟩
    · exact Tally.fault_of_countRequest h
    · cases h

/-- A call that is not answered is a request that overflows a counter. -/
lemma Covers.overflow_of_perform {e : Refusal} (h : Covers 0 0 c) (hlock : c.Lockstep)
    (hsafe : c.roster.scorer.Safe) (hcall : c.perform call = .error e) :
    e = .fault .addOverflow := by
  by_cases hroom : c.tally.counts.requests + call.isRequest.toNat < 2 ^ 64 ∧
      c.tally.counts.requestBytes + call.bytes c.unitSizes < 2 ^ 64
  · obtain ⟨answer, c', hok⟩ := h.exists_perform hlock hsafe hroom.1 hroom.2
    simp [hcall] at hok
  · cases call with
    | request r =>
      rw [Cache.perform, map_eq_error, Cache.request, bind_eq_error] at hcall
      rcases hcall with htick | ⟨c₁, htick, -⟩
      · obtain ⟨f, hfault, rfl⟩ := lift_eq_error.mp htick
        rw [fault_of_tick hfault]
      · -- a request that is counted had room in the counters
        obtain ⟨clock, tally, -, htally, -⟩ := tick_eq_ok.mp (lift_eq_ok.mp htick)
        have hcounts := Tally.counts_countRequest htally
        have hrequests : tally.counts.requests < 2 ^ 64 := tally.requests.toNat_lt
        have hbytes : tally.counts.requestBytes < 2 ^ 64 := tally.requestBytes.toNat_lt
        rw [hcounts] at hrequests hbytes
        rw [← toNat_effectiveSize] at hroom
        exact absurd ⟨hrequests, hbytes⟩ hroom
    | evict | clear => exact absurd ⟨c.tally.requests.toNat_lt, c.tally.requestBytes.toNat_lt⟩ hroom

/-- Calls that can be counted are answered. -/
lemma Covers.exists_run {calls : List Call} (h : Covers 0 0 c) (hlock : c.Lockstep)
    (hsafe : c.roster.scorer.Safe)
    (hrequests : c.tally.counts.requests + calls.countP Call.isRequest < 2 ^ 64)
    (hbytes : c.tally.counts.requestBytes + (calls.map (Call.bytes c.unitSizes)).sum < 2 ^ 64) :
    ∃ answers c', runCalls Cache.perform c calls = .ok (answers, c') := by
  induction calls generalizing c with
  | nil => exact ⟨[], c, rfl⟩
  | cons call calls ih =>
    rw [countP_isRequest_cons] at hrequests
    rw [List.map_cons, List.sum_cons] at hbytes
    have hroom : c.tally.counts.requests + call.isRequest.toNat < 2 ^ 64 ∧
        c.tally.counts.requestBytes + call.bytes c.unitSizes < 2 ^ 64 := by
      omega
    obtain ⟨answer, c₁, hcall⟩ := h.exists_perform hlock hsafe hroom.1 hroom.2
    obtain ⟨hrequests₁, hbytes₁⟩ := counted_of_perform hlock hcall
    have hsame := sameSetup_of_perform hlock hcall
    have hsafe₁ : c₁.roster.scorer.Safe := by
      rw [hsame.scorer]
      exact hsafe
    obtain ⟨answers, c', hrest⟩ := ih (h.perform hlock hcall) (hlock.perform hcall) hsafe₁
      (by omega) (by rw [hsame.unitSizes]; omega)
    exact ⟨_, c', runCalls_cons_eq_ok.mpr ⟨answer, c₁, answers, hcall, hrest, rfl⟩⟩

/-- Calls are all answered exactly when they can be counted. -/
lemma Covers.run_iff (h : Covers 0 0 c) (hlock : c.Lockstep) (hsafe : c.roster.scorer.Safe)
    (calls : List Call) :
    (∃ answers c', runCalls Cache.perform c calls = .ok (answers, c')) ↔
      c.tally.counts.requests + calls.countP Call.isRequest < 2 ^ 64 ∧
        c.tally.counts.requestBytes + (calls.map (Call.bytes c.unitSizes)).sum < 2 ^ 64 := by
  constructor
  · rintro ⟨answers, c', hrun⟩
    obtain ⟨hrequests, hbytes⟩ := counted_of_run hlock hrun
    have hlt : c'.tally.counts.requests < 2 ^ 64 := c'.tally.requests.toNat_lt
    have hlt' : c'.tally.counts.requestBytes < 2 ^ 64 := c'.tally.requestBytes.toNat_lt
    rw [hrequests] at hlt
    rw [hbytes] at hlt'
    exact ⟨hlt, hlt'⟩
  · exact fun ⟨hrequests, hbytes⟩ => h.exists_run hlock hsafe hrequests hbytes

/-- A run that is not answered to its end overflows a counter. -/
lemma Covers.overflow_of_run {calls : List Call} {e : Refusal} (h : Covers 0 0 c)
    (hlock : c.Lockstep) (hsafe : c.roster.scorer.Safe)
    (hrun : runCalls Cache.perform c calls = .error e) : e = .fault .addOverflow := by
  have hkeeps : ∀ (c : Cache) call answer c', (Covers 0 0 c ∧ c.Lockstep ∧ c.roster.scorer.Safe) →
      c.perform call = .ok (answer, c') →
      Covers 0 0 c' ∧ c'.Lockstep ∧ c'.roster.scorer.Safe := by
    rintro c call answer c' ⟨hcovers, hlock, hsafe⟩ hcall
    exact ⟨hcovers.perform hlock hcall, hlock.perform hcall,
      (sameSetup_of_perform hlock hcall).scorer ▸ hsafe⟩
  obtain ⟨c', call, ⟨hcovers, hlock', hsafe'⟩, hcall⟩ :=
    runCalls_error ⟨h, hlock, hsafe⟩ hkeeps hrun
  exact hcovers.overflow_of_perform hlock' hsafe' hcall

lemma covers_of_run {capacity budget : UInt64} {scorer : Scorer} {unitSizes : Bool}
    {calls : List Call} {answers : List Answer}
    (hrun : runCalls Cache.perform (new capacity (.empty scorer budget) unitSizes) calls =
      .ok (answers, c)) : Covers 0 0 c := by
  refine (runCalls_invariant (P := fun c => c.Lockstep ∧ Covers 0 0 c) ?_ ?_ hrun).2
  · exact ⟨lockstep_new capacity budget scorer unitSizes,
      covers_new capacity budget scorer unitSizes⟩
  · rintro c₁ call answer c₂ ⟨hlock, hcovers⟩ hcall
    exact ⟨hlock.perform hcall, hcovers.perform hlock hcall⟩

/-- **Only the counters of requests limit a run.**  Calls to a fresh cache under a policy that
always gives a priority are all answered exactly when the requests among them and the bytes of
these can be counted, whatever the capacity and the budget for ghosts. -/
theorem run_iff_counted {scorer : Scorer} (hsafe : scorer.Safe) (capacity budget : UInt64)
    (unitSizes : Bool) (calls : List Call) :
    (∃ answers c, runCalls Cache.perform (new capacity (.empty scorer budget) unitSizes) calls =
        .ok (answers, c)) ↔
      calls.countP Call.isRequest < 2 ^ 64 ∧
        (calls.map (Call.bytes unitSizes)).sum < 2 ^ 64 := by
  have hiff := (covers_new capacity budget scorer unitSizes).run_iff
    (lockstep_new capacity budget scorer unitSizes) hsafe calls
  change _ ↔ 0 + _ < 2 ^ 64 ∧ 0 + (calls.map (Call.bytes unitSizes)).sum < 2 ^ 64 at hiff
  rwa [Nat.zero_add, Nat.zero_add] at hiff

end Cache
end CacheSim
