import CacheSim.Proofs.Cache.Coverage

/-!
# No sum leaves its range

In a run with fewer than `2 ^ 32` requests for fewer than `2 ^ 64` bytes nothing ever leaves its
range, however large capacity and budget are.  That holds between the calls and at every point on
the way through one: after a request has been counted, after a miss has been counted, between the
evictions that make room, and in the middle of each of these, where the victim has left the store
and its ghost is filed before the log is purged.

* `Cache.Evicting`, `Cache.Passes`: the states on the way through an eviction and through a call;
* `Cache.InRange`: what is in range in such a state;
* `Cache.in_range_during_calls`: all runs of bounded length under the policies of the catalogue.
-/

namespace CacheSim
namespace Cache

/-- A cache with other ghosts. -/
def withGhosts (c : Cache) (ghosts : GhostLog) : Cache :=
  { c with roster := { c.roster with ghosts := ghosts } }

/-- The states that an eviction passes through. -/
inductive Evicting (now : UInt64) (c : Cache) : Cache → Prop where
  /-- The victim is out of the queue. -/
  | popped {t : Ticket} {roster : Roster} : c.roster.popVictim? = some (t, roster) →
      Evicting now c { c with roster := roster }
  /-- The victim is out of the store. -/
  | dropped {t : Ticket} {roster : Roster} {c₁ : Cache} :
      c.roster.popVictim? = some (t, roster) → drop { c with roster := roster } t = .ok c₁ →
      Evicting now c c₁
  /-- An older ghost of the victim is forgotten. -/
  | forgotten {t : Ticket} {roster : Roster} {c₁ : Cache} {profile : Profile} {log : GhostLog} :
      c.roster.popVictim? = some (t, roster) → drop { c with roster := roster } t = .ok c₁ →
      c₁.roster.holder? t = some ⟨t, profile⟩ → c₁.roster.ghosts.remove t.id = .ok log →
      Evicting now c (c₁.withGhosts log)
  /-- The ghost of the victim is filed, and `n` rounds of the purge have been made. -/
  | filed {t : Ticket} {roster : Roster} {c₁ : Cache} {profile : Profile}
      {log log₁ log₂ : GhostLog} {n : Nat} :
      c.roster.popVictim? = some (t, roster) → drop { c with roster := roster } t = .ok c₁ →
      c₁.roster.holder? t = some ⟨t, profile⟩ → c₁.roster.ghosts.remove t.id = .ok log →
      log.append (Roster.ghostOf now t.id profile) = .ok log₁ → log₁.purge n = .ok log₂ →
      Evicting now c (c₁.withGhosts log₂)

/-- A request has been counted as a miss. -/
inductive Missed (c : Cache) (r : Request) : Cache → Prop where
  | counted {c₁ : Cache} {tally : Tally} : c.tick (c.effectiveSize r) = .ok c₁ →
      c₁.stored[r.id]? = none → c₁.tally.countMiss (c.effectiveSize r) = .ok tally →
      Missed c r { c₁ with tally := tally }

/-- The states that a call passes through. -/
inductive Passes (c : Cache) : Call → Cache → Prop where
  | start {call : Call} : Passes c call c
  | counted {r : Request} {c₁ : Cache} : c.tick (c.effectiveSize r) = .ok c₁ →
      Passes c (.request r) c₁
  | missed {r : Request} {c₁ : Cache} : Missed c r c₁ → Passes c (.request r) c₁
  /-- Some objects are evicted to make room, and one more is on its way out. -/
  | making {r : Request} {c₁ c₂ c₃ : Cache} : Missed c r c₁ →
      Relation.ReflTransGen (fun c c' => ∃ t, c.evict c₁.clock = .ok (t, c')) c₁ c₂ →
      Evicting c₁.clock c₂ c₃ → Passes c (.request r) c₃
  | evicting {now : UInt64} {c₁ : Cache} : Evicting now c c₁ → Passes c (.evict now) c₁
  | done {call : Call} {answer : Answer} {c' : Cache} : c.perform call = .ok (answer, c') →
      Passes c call c'

/-- Nothing is out of range. -/
structure InRange (c : Cache) : Prop where
  /-- What is remembered and what is stored has been missed. -/
  bytes : c.roster.ghosts.totalSize.toNat + c.occupied.toNat ≤ c.tally.missBytes.toNat
  missBytes : c.tally.missBytes ≤ c.tally.requestBytes
  requests : c.tally.requests.toNat < 2 ^ 32
  counters : c.clock = c.tally.requests ∧ c.tally.misses ≤ c.tally.requests ∧
    c.tally.bypasses ≤ c.tally.misses ∧ c.tally.evictions ≤ c.tally.misses
  /-- No more serial numbers and numbers of occurrences have been given out than there were
  requests. -/
  numbers : c.nextSerial.toNat ≤ c.tally.requests.toNat ∧
    c.roster.counts.nextUid ≤ c.tally.requests.toNat ∧
    c.roster.entered.nextUid ≤ c.tally.requests.toNat ∧
    c.roster.sizes.nextUid ≤ c.tally.requests.toNat
  population : c.size ≤ c.tally.requests.toNat ∧
    c.roster.queue.size ≤ c.tally.requests.toNat ∧
    c.roster.counts.size ≤ c.tally.requests.toNat ∧
    c.roster.entered.size ≤ c.tally.requests.toNat ∧
    c.roster.sizes.size ≤ c.tally.requests.toNat
  /-- A search among the ghosts passes over bytes that can be counted. -/
  search : ∀ id window, ∃ found, c.roster.ghosts.withinLast id window = .ok found
  /-- Whatever is scored in view of these ghosts gets a priority of at most 128 bits. -/
  scores : ∀ scene : Scene, scene.ghosts = c.roster.ghosts →
    ∃ p : Int, c.roster.scorer.priority scene = .ok p ∧ -2 ^ 127 ≤ p ∧ p < 2 ^ 127

variable {c c' c₁ : Cache} {size now clock : UInt64} {t : Ticket} {r : Request} {n b k : Nat}
variable {call : Call} {answer : Answer} {calls : List Call} {answers : List Answer}

/-! ## In the middle of an eviction -/

/-- At most `k` objects are in the store, in the queue and in the ranked multisets. -/
structure Populated (k : Nat) (c : Cache) : Prop where
  stored : c.stored.size ≤ k
  queue : c.roster.queue.size ≤ k
  counts : c.roster.counts.size ≤ k
  entered : c.roster.entered.size ≤ k
  sizes : c.roster.sizes.size ≤ k

lemma Populated.mono {m : Nat} (h : Populated k c) (hle : k ≤ m) : Populated m c :=
  ⟨Nat.le_trans h.stored hle, Nat.le_trans h.queue hle, Nat.le_trans h.counts hle,
    Nat.le_trans h.entered hle, Nat.le_trans h.sizes hle⟩

lemma Lockstep.populated (h : c.Lockstep) : Populated c.size c := by
  obtain ⟨hroster, hqueue⟩ := h.size_eq
  have hlength : (Residents.profiles c.roster.residents).length = c.size := by
    rw [Residents.profiles, List.length_map, Std.TreeMap.length_toList, hroster]
    rfl
  refine ⟨Nat.le_refl _, Nat.le_of_eq hqueue.symm, ?_, ?_, ?_⟩
  · rw [h.roster.census.counts.size_eq, List.length_map]
    exact Nat.le_of_eq hlength
  · rw [h.roster.census.entered.size_eq, List.length_map]
    exact Nat.le_of_eq hlength
  · rw [h.roster.census.sizes.size_eq, List.length_map]
    exact Nat.le_of_eq hlength

/-- The counters cover the cache, the requests are at most `q`, and the policy always gives a
priority. -/
structure Bounded (q : Nat) (c : Cache) : Prop where
  covers : ∃ n b, Covers n b c
  populated : Populated c.tally.counts.requests c
  requests : c.tally.counts.requests ≤ q
  safe : c.roster.scorer.Safe

lemma Bounded.inRange (h : c.Bounded k) (hk : k < 2 ^ 32) : c.InRange := by
  obtain ⟨⟨n, b, hcovers⟩, hpopulated, hrequests, hsafe⟩ := h
  have hmisses := hcovers.misses
  have hbypasses := hcovers.bypasses
  have hobjects := hcovers.objects
  have hserials := hcovers.serials
  have hbytes := hcovers.bytes
  have hcounts := hcovers.counts
  have hentered := hcovers.entered
  have hsizes := hcovers.sizes
  refine ⟨?_, UInt64.le_iff_toNat_le.mpr hcovers.missBytes, Nat.lt_of_le_of_lt hrequests hk,
    ⟨UInt64.toNat_inj.mp hcovers.clock, UInt64.le_iff_toNat_le.mpr hmisses,
      UInt64.le_iff_toNat_le.mpr ?_, UInt64.le_iff_toNat_le.mpr ?_⟩, ?_,
    ⟨hpopulated.stored, hpopulated.queue, hpopulated.counts, hpopulated.entered,
      hpopulated.sizes⟩, hcovers.ghosts.exists_withinLast, fun scene hscene => ?_⟩
  · exact Nat.le_trans (Nat.le_add_right _ _) hbytes
  · exact Nat.le_trans (Nat.le_add_right _ _) hbypasses
  · change c.tally.counts.evictions ≤ c.tally.counts.misses
    omega
  · change _ ≤ c.tally.counts.requests ∧ _ ≤ c.tally.counts.requests ∧
      _ ≤ c.tally.counts.requests ∧ _ ≤ c.tally.counts.requests
    omega
  · exact hsafe scene (hscene ▸ hcovers.ghosts)

/-- A cache in lockstep that is covered, and in which nothing is going on but the call at hand. -/
structure Steady (q n b : Nat) (c : Cache) : Prop where
  lockstep : c.Lockstep
  covers : Covers n b c
  requests : c.tally.counts.requests ≤ q
  safe : c.roster.scorer.Safe

lemma Steady.populated {q : Nat} (h : Steady q n b c) :
    Populated c.tally.counts.requests c := by
  have hobjects := h.covers.objects
  have hmisses := h.covers.misses
  refine h.lockstep.populated.mono ?_
  rw [size]
  omega

lemma Steady.bounded {q : Nat} (h : Steady q n b c) : c.Bounded q :=
  ⟨⟨n, b, h.covers⟩, h.populated, h.requests, h.safe⟩

/-- A victim that has left the store and the queue may leave its bytes to the ghosts. -/
lemma Steady.dropped {q : Nat} {p : Priority} {object : Stored} {occupied : UInt64}
    {tally : Tally} {ghosts : GhostLog} (h : Steady q n b c)
    (hqueued : c.roster.queue.priority? t = some p) (hstored : c.stored[t.id]? = some object)
    (hocc : Word.sub c.occupied object.size = .ok occupied)
    (htally : c.tally.countEviction = .ok tally) (hvalid : ghosts.Valid)
    (htotal : ghosts.totalSize.toNat ≤
      c.roster.ghosts.totalSize.toNat + object.size.toNat) :
    Bounded q { c with
      occupied := occupied
      stored := c.stored.erase t.id
      tally := tally
      roster := { c.roster with queue := c.roster.queue.erase t, ghosts := ghosts } } := by
  have hrequests : tally.counts.requests = c.tally.counts.requests := by
    rw [Tally.counts_countEviction htally]
  have hsize := Table.size_erase_of_getElem? hstored
  have hqueue := h.lockstep.roster.coherent.size_erase hqueued
  obtain ⟨h₁, h₂, h₃, h₄, h₅⟩ := h.populated
  refine ⟨⟨n, b, h.covers.drop hstored hocc htally hvalid htotal rfl rfl rfl⟩, ?_,
    Nat.le_trans (Nat.le_of_eq hrequests) h.requests, h.safe⟩
  rw [hrequests]
  refine ⟨?_, ?_, h₃, h₄, h₅⟩
  · dsimp only
    omega
  · dsimp only
    omega

lemma Steady.evicting {q : Nat} (h : Steady q n b c) (hev : Evicting now c c₁) :
    c₁.Bounded q := by
  have hpopulated := h.populated
  cases hev with
  | popped hpop =>
    obtain ⟨hqueue, -⟩ := h.lockstep.popVictim?_eq_some hpop
    obtain ⟨p, hfirst, rfl⟩ := Roster.popVictim?_eq_some h.lockstep.roster hpop
    obtain ⟨h₁, h₂, h₃, h₄, h₅, h₆, h₇, h₈, h₉, h₁₀, h₁₁⟩ := h.covers
    refine ⟨⟨n, b, h₁, h₂, h₃, h₄, h₅, h₆, h₇, h₈, h₉, h₁₀, h₁₁⟩,
      ⟨hpopulated.stored, ?_, hpopulated.counts, hpopulated.entered, hpopulated.sizes⟩,
      h.requests, h.safe⟩
    refine Nat.le_trans ?_ hpopulated.queue
    exact Nat.le.intro hqueue
  | dropped hpop hdrop =>
    obtain ⟨profile, p, occupied, tally, -, hstored, hfirst, hocc, htally, rfl⟩ :=
      h.lockstep.dropped hpop hdrop
    exact h.dropped hfirst.queued hstored hocc htally h.covers.ghosts (Nat.le_add_right _ _)
  | @forgotten t roster c₁ profile' log hpop hdrop hholder hremove =>
    obtain ⟨profile, p, occupied, tally, -, hstored, hfirst, hocc, htally, rfl⟩ :=
      h.lockstep.dropped hpop hdrop
    obtain ⟨_, hremove', hvalid, -, hle⟩ := h.covers.ghosts.remove t.id
    obtain rfl := Except.ok.inj (hremove'.symm.trans hremove)
    exact h.dropped hfirst.queued hstored hocc htally hvalid (Nat.le_add_right_of_le hle)
  | @filed t roster c₁ profile' log log₁ log₂ m hpop hdrop hholder hremove happend hpurge =>
    obtain ⟨profile, p, occupied, tally, hres, hstored, hfirst, hocc, htally, rfl⟩ :=
      h.lockstep.dropped hpop hdrop
    -- the ghost is that of the resident, and so has the bytes that were stored
    have hholder := (Roster.holder?_eq_some.mp hholder).1
    rw [hres, Option.some.injEq] at hholder
    obtain ⟨-, rfl⟩ := Resident.mk.inj hholder
    obtain ⟨_, hremove', hvalid, hnew, hle⟩ := h.covers.ghosts.remove t.id
    obtain rfl := Except.ok.inj (hremove'.symm.trans hremove)
    obtain ⟨hvalid₁, htotal₁⟩ := hvalid.append hnew happend
    obtain ⟨_, hpurge', hvalid₂, hle₂⟩ := hvalid₁.purge m
    obtain rfl := Except.ok.inj (hpurge'.symm.trans hpurge)
    refine h.dropped hfirst.queued hstored hocc htally hvalid₂ ?_
    dsimp only [Roster.ghostOf] at htotal₁ ⊢
    omega

/-! ## On the way through a call -/

lemma Steady.evict {q : Nat} (h : Steady q n b c) (hev : c.evict now = .ok (t, c')) :
    Steady q n b c' := by
  have hevicts := evicts_of_evict h.lockstep hev
  refine ⟨h.lockstep.evict hev, h.covers.evict hevicts, ?_, ?_⟩
  · cases hevicts with
    | victim hres hstored hfirst hocc htally hghosts =>
      have hrequests := h.requests
      rw [Tally.counts_countEviction htally]
      exact hrequests
  · rw [(sameSetup_of_evicts hevicts).scorer]
    exact h.safe

lemma Steady.missed {q : Nat} (h : Steady q 0 0 c) (hmissed : Missed c r c₁) :
    Steady (q + 1) 1 (c.effectiveSize r).toNat c₁ := by
  cases hmissed with
  | counted htick hnew hmiss =>
    obtain ⟨clock, tally, hclock, htally, rfl⟩ := tick_eq_ok.mp htick
    refine ⟨h.lockstep.count clock _, h.covers.miss hclock htally hmiss, ?_, h.safe⟩
    rw [Tally.counts_countMiss hmiss, Tally.counts_countRequest htally]
    exact Nat.succ_le_succ h.requests

lemma Steady.perform {q : Nat} (h : Steady q 0 0 c) (hcall : c.perform call = .ok (answer, c')) :
    Steady (q + call.isRequest.toNat) 0 0 c' := by
  refine ⟨h.lockstep.perform hcall, h.covers.perform h.lockstep hcall, ?_, ?_⟩
  · rw [(counted_of_perform h.lockstep hcall).1]
    exact Nat.add_le_add_right h.requests _
  · rw [(sameSetup_of_perform h.lockstep hcall).scorer]
    exact h.safe

/-- Every state on the way through a call is bounded by the requests that the call counts. -/
lemma Steady.passes {q : Nat} (h : Steady q 0 0 c) (hpass : Passes c call c₁) :
    c₁.Bounded (q + call.isRequest.toNat) := by
  cases hpass with
  | start =>
    have hle := Nat.le_trans h.requests (Nat.le_add_right q call.isRequest.toNat)
    exact ⟨⟨0, 0, h.covers⟩, h.populated, hle, h.safe⟩
  | counted htick =>
    obtain ⟨clock, tally, hclock, htally, rfl⟩ := tick_eq_ok.mp htick
    have hcounted : Steady (q + 1) 0 0 { c with clock := clock, tally := tally } := by
      refine ⟨h.lockstep.count clock tally, h.covers.count hclock htally, ?_, h.safe⟩
      rw [Tally.counts_countRequest htally]
      exact Nat.succ_le_succ h.requests
    exact hcounted.bounded
  | missed hmissed => exact (h.missed hmissed).bounded
  | @making r c₂ c₃ c₄ hmissed hevictions hevicting =>
    have hsteady : Steady (q + 1) 1 (c.effectiveSize r).toNat c₃ := by
      clear hevicting
      induction hevictions with
      | refl => exact h.missed hmissed
      | tail _ hev ih =>
        obtain ⟨t, hev⟩ := hev
        exact ih.evict hev
    exact hsteady.evicting hevicting
  | evicting hevicting => exact h.evicting hevicting
  | done hcall => exact (h.perform hcall).bounded

/-! ## Runs -/

lemma steady_of_run {capacity budget : UInt64} {scorer : Scorer} {unitSizes : Bool}
    (hsafe : scorer.Safe)
    (hrun : runCalls perform (new capacity (.empty scorer budget) unitSizes) calls =
      .ok (answers, c)) : Steady (calls.countP Call.isRequest) 0 0 c := by
  have hstart := lockstep_new capacity budget scorer unitSizes
  obtain ⟨hlock, hsame⟩ := lockstep_of_run hstart hrun
  obtain ⟨hrequests, -⟩ := counted_of_run hstart hrun
  refine ⟨hlock, covers_of_run hrun, Nat.le_of_eq (hrequests.trans (Nat.zero_add _)), ?_⟩
  rw [hsame.scorer]
  exact hsafe

/-- **No sum leaves its range.**  Let calls be made to a fresh cache under a policy of the
catalogue, with any capacity, any budget for ghosts and any parameters of the policy, such that
fewer than `2 ^ 32` of them are requests and these ask for fewer than `2 ^ 64` bytes.  Then every
call is answered.  No call evicts `2 ^ 32` objects or more.  At every point on the way through a
call the bytes of the ghosts and of the stored objects are at most the bytes of the misses, and
these at most the bytes of the requests; serial numbers, the numbers of the ranked multisets and
the sizes of all collections are at most the number of requests; the ghosts can be searched; and
whatever is scored gets a priority of at most 128 bits. -/
theorem in_range_during_calls {settings : PolicySettings} {scorer : Scorer}
    (hscorer : settings.scorer = .ok scorer) (capacity budget : UInt64) (unitSizes : Bool)
    {calls : List Call} (hrequests : calls.countP Call.isRequest < 2 ^ 32)
    (hbytes : (calls.map (Call.bytes unitSizes)).sum < 2 ^ 64) :
    (∃ answers c, runCalls perform (new capacity (.empty scorer budget) unitSizes) calls =
        .ok (answers, c) ∧ c.InRange) ∧
    ∀ earlier call later, calls = earlier ++ call :: later →
      ∃ answers c answer c',
        runCalls perform (new capacity (.empty scorer budget) unitSizes) earlier =
          .ok (answers, c) ∧
        c.perform call = .ok (answer, c') ∧ answer.victims.length < 2 ^ 32 ∧
        ∀ c₁, Passes c call c₁ → c₁.InRange := by
  have hsafe := PolicySettings.safe_of_scorer hscorer
  have hstart := lockstep_new capacity budget scorer unitSizes
  refine ⟨?_, fun earlier call later hcalls => ?_⟩
  · obtain ⟨answers, c, hrun⟩ :=
      (run_iff_counted hsafe capacity budget unitSizes calls).mpr ⟨by omega, hbytes⟩
    exact ⟨answers, c, hrun, (steady_of_run hsafe hrun).bounded.inRange hrequests⟩
  · rw [hcalls, List.countP_append, countP_isRequest_cons] at hrequests
    rw [hcalls, List.map_append, List.sum_append, List.map_cons, List.sum_cons] at hbytes
    obtain ⟨answers, c, hrun⟩ :=
      (run_iff_counted hsafe capacity budget unitSizes earlier).mpr ⟨by omega, by omega⟩
    have hsteady := steady_of_run hsafe hrun
    obtain ⟨hcounted, hasked⟩ := counted_of_run hstart hrun
    change _ = 0 + _ at hcounted
    change _ = 0 + (earlier.map (Call.bytes unitSizes)).sum at hasked
    have hunit : c.unitSizes = unitSizes := (lockstep_of_run hstart hrun).2.unitSizes
    have hroom : c.tally.counts.requests + call.isRequest.toNat < 2 ^ 64 ∧
        c.tally.counts.requestBytes + call.bytes c.unitSizes < 2 ^ 64 := by
      rw [hunit]
      omega
    obtain ⟨answer, c', hcall⟩ :=
      hsteady.covers.exists_perform hsteady.lockstep hsteady.safe hroom.1 hroom.2
    refine ⟨answers, c, answer, c', hrun, hcall, ?_, fun c₁ hpass => ?_⟩
    · have hvictims := hsteady.lockstep.length_victims_perform hcall
      have hstored := hsteady.populated.stored
      rw [Cache.size] at hvictims
      omega
    · exact (hsteady.passes hpass).inRange (by omega)

/-- The bytes of two requests are together the largest word.  In the admission test of the second
one they are added up, and after both objects are evicted they are all in the ghosts. -/
theorem in_range_up_to_largest_word :
    (∃ answers c, runCalls perform
        (new 0x8000000000000000 (.empty (.ghostLru (some 100)) 0xFFFFFFFFFFFFFFFF) false)
        [.request ⟨0, 1, 0x8000000000000000⟩, .request ⟨0, 2, 0x7FFFFFFFFFFFFFFF⟩, .evict 7] =
          .ok (answers, c) ∧
      c.roster.ghosts.totalSize = 0xFFFFFFFFFFFFFFFF ∧ c.InRange) ∧
    ∃ c answer c', c.perform (.request ⟨0, 2, 0x7FFFFFFFFFFFFFFF⟩) = .ok (answer, c') ∧
      ∀ c₁, Passes c (.request ⟨0, 2, 0x7FFFFFFFFFFFFFFF⟩) c₁ → c₁.InRange := by
  have hends : (fun done : List Answer × Cache => done.2.roster.ghosts.totalSize) <$>
      runCalls perform
        (new 0x8000000000000000 (.empty (.ghostLru (some 100)) 0xFFFFFFFFFFFFFFFF) false)
        [.request ⟨0, 1, 0x8000000000000000⟩, .request ⟨0, 2, 0x7FFFFFFFFFFFFFFF⟩, .evict 7] =
      .ok 0xFFFFFFFFFFFFFFFF := by
    cbv
  obtain ⟨⟨answers, c⟩, hrun, htotal⟩ := map_eq_ok.mp hends
  have hrequests : List.countP Call.isRequest [.request ⟨0, 1, 0x8000000000000000⟩,
      .request ⟨0, 2, 0x7FFFFFFFFFFFFFFF⟩, .evict 7] < 2 ^ 32 := by decide
  have hbytes : (List.map (Call.bytes false) [.request ⟨0, 1, 0x8000000000000000⟩,
      .request ⟨0, 2, 0x7FFFFFFFFFFFFFFF⟩, .evict 7]).sum < 2 ^ 64 := by decide
  have hscorer : ({ policy := .ghostLru, ghostWindow := some 100 } : PolicySettings).scorer =
      .ok (.ghostLru (some 100)) := rfl
  obtain ⟨⟨answers', c', hrun', hrange⟩, hpasses⟩ :=
    in_range_during_calls hscorer 0x8000000000000000 0xFFFFFFFFFFFFFFFF false hrequests hbytes
  obtain ⟨rfl, rfl⟩ := Prod.mk.inj (Except.ok.inj (hrun.symm.trans hrun'))
  obtain ⟨-, c₁, answer, c₂, -, hcall, -, hrange₁⟩ := hpasses [_] _ [_] rfl
  exact ⟨⟨answers, c, hrun, htotal, hrange⟩, c₁, answer, c₂, hcall, hrange₁⟩

end Cache
end CacheSim
