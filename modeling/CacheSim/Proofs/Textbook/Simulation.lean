import CacheSim.Proofs.Cache.Progress
import CacheSim.Proofs.Textbook.ListCache

/-!
# The simulated cache is the list

Under a textbook policy a cache and the list of its objects answer alike.  `ListCache.Mirrors`
relates the two: the lines of the list are the stored objects with their sizes and uses, and stand
in the order of the policy's time.

* `ListCache.Mirrors.evict`, `ListCache.Mirrors.request`: one eviction and one request of both;
* `Cache.textbook_after_calls`: all runs of both, and what the victims of a textbook policy are.
-/

namespace CacheSim

namespace ListCache

open Cache (Follows Keyed Recorded Evicts MakesRoom Stores)

/-- The list is that of the stored objects, in the order of the policy. -/
structure Mirrors (h : Chronicle) (c : Cache) (l : ListCache) : Prop where
  capacity : l.capacity = c.capacity.toNat
  unitSizes : l.unitSizes = c.unitSizes
  counts : l.counts = c.tally.counts
  /-- The lines are the stored objects. -/
  mem_lines : ∀ line, line ∈ l.lines ↔ ∃ object, c.stored[line.id]? = some object ∧
    line.size = object.size.toNat ∧ line.uses = h.count line.id
  /-- The lines are in order. -/
  order : l.lines.Pairwise fun a b => l.policy.rank h a.id < l.policy.rank h b.id

variable {h : Chronicle} {c c' : Cache} {l l' : ListCache} {id : ObjectId} {size now : UInt64}
variable {t : Ticket} {object : Stored} {line line' : Line} {r : Request} {reply : Reply}
variable {victims : List Ticket} {n : Nat} {roster : Roster} {clock : UInt64} {tally : Tally}

/-! ## Lines and stored objects -/

lemma Mirrors.mem_of_stored (hmir : Mirrors h c l) (hstored : c.stored[id]? = some object) :
    ⟨id, object.size.toNat, h.count id⟩ ∈ l.lines :=
  (hmir.mem_lines _).mpr ⟨object, hstored, rfl, rfl⟩

/-- An object has one line. -/
lemma Mirrors.eq_of_id_eq (hmir : Mirrors h c l) (hline : line ∈ l.lines)
    (hline' : line' ∈ l.lines) (hid : line.id = line'.id) : line = line' := by
  obtain ⟨object, hstored, hsize, huses⟩ := (hmir.mem_lines line).mp hline
  obtain ⟨object', hstored', hsize', huses'⟩ := (hmir.mem_lines line').mp hline'
  rw [← hid, hstored, Option.some.injEq] at hstored'
  subst hstored'
  cases line
  cases line'
  simp_all

/-- The list holds the entries of the store. -/
lemma Mirrors.lines_perm (hmir : Mirrors h c l) :
    l.lines.Perm (c.stored.toList.map fun e => ⟨e.1, e.2.size.toNat, h.count e.1⟩) := by
  refine (List.perm_ext_iff_of_nodup ?_ ?_).mpr fun line => ?_
  · refine hmir.order.imp ?_
    rintro a b hlt rfl
    exact Nat.lt_irrefl _ hlt
  · refine List.Nodup.of_map Line.id ?_
    rw [List.map_map]
    exact Table.nodup_keys c.stored
  · rw [hmir.mem_lines, List.mem_map]
    constructor
    · rintro ⟨object, hstored, hsize, huses⟩
      refine ⟨(line.id, object), Table.mem_toList.mpr hstored, ?_⟩
      rw [← hsize, ← huses]
    · rintro ⟨⟨id, object⟩, hmem, rfl⟩
      exact ⟨object, Table.mem_toList.mp hmem, rfl, rfl⟩

lemma Mirrors.length_lines (hmir : Mirrors h c l) : l.lines.length = c.size := by
  rw [hmir.lines_perm.length_eq, List.length_map, Std.TreeMap.length_toList]
  rfl

lemma Mirrors.bytes_eq (hmir : Mirrors h c l) (hlock : c.Lockstep) :
    l.bytes = c.occupied.toNat := by
  rw [bytes, (hmir.lines_perm.map Line.size).sum_nat, List.map_map, hlock.occupied_eq]
  rfl

/-- The list answers whether an object is stored. -/
lemma Mirrors.any_eq (hmir : Mirrors h c l) :
    (l.lines.any fun line => line.id = id) = true ↔ ∃ object, c.stored[id]? = some object := by
  rw [List.any_eq_true]
  constructor
  · rintro ⟨line, hline, hid⟩
    obtain ⟨object, hstored, -, -⟩ := (hmir.mem_lines line).mp hline
    exact ⟨object, by simpa using (of_decide_eq_true hid) ▸ hstored⟩
  · rintro ⟨object, hstored⟩
    exact ⟨_, hmir.mem_of_stored hstored, decide_eq_true rfl⟩

lemma Mirrors.not_any (hmir : Mirrors h c l) (hnew : c.stored[id]? = none) :
    ¬ (l.lines.any fun line => line.id = id) = true := by
  rw [hmir.any_eq, hnew]
  simp

/-! ## One step of both -/

lemma mirrors_new (policy : Textbook) (capacity budget : UInt64) (scorer : Scorer)
    (unitSizes : Bool) :
    Mirrors [] (.new capacity (.empty scorer budget) unitSizes)
      (new policy capacity.toNat unitSizes) where
  capacity := rfl
  unitSizes := rfl
  counts := rfl
  mem_lines := fun line => by simp [new, Cache.new]
  order := List.Pairwise.nil

/-- The clock has no part in it, and counting is done on both sides. -/
lemma Mirrors.count (hmir : Mirrors h c l) (clock : UInt64) (tally : Tally) :
    Mirrors h { c with clock := clock, tally := tally } { l with counts := tally.counts } :=
  ⟨hmir.capacity, hmir.unitSizes, rfl, hmir.mem_lines, hmir.order⟩

/-- Both evict the same object. -/
lemma Mirrors.evict (hmir : Mirrors h c l) (hlock : c.Lockstep) (hrec : Recorded h c)
    (hkey : Keyed l.policy.key c) (hev : Evicts c now t c') :
    l.evict? = some (t.id, l.drop t.id) ∧ Mirrors h c' (l.drop t.id) := by
  have hprecedes : ∀ (id : ObjectId) object, c.stored[id]? = some object → t.id ≠ id →
      l.policy.Precedes h t.id id := fun id object => hev.precedes hkey hlock hrec
  have huses : ∀ line ∈ l.lines, line.uses = h.count line.id := by
    intro line hline
    obtain ⟨object, -, -, huses⟩ := (hmir.mem_lines line).mp hline
    exact huses
  cases hev with
  | @victim profile p occupied tally ghosts hres hstored hfirst hocc htally hghosts =>
    -- the first candidate precedes every other line, so it is the victim of the list
    have hmem := hmir.mem_of_stored hstored
    have hvictim := Textbook.victim?_of_precedes hmir.order huses hmem fun w hw hne => by
      obtain ⟨object, hstored', -, -⟩ := (hmir.mem_lines w).mp hw
      exact hprecedes w.id object hstored' fun hid => hne (hmir.eq_of_id_eq hw hmem hid.symm)
    refine ⟨by rw [evict?, hvictim]; rfl, hmir.capacity, hmir.unitSizes, ?_, fun line => ?_,
      hmir.order.filter _⟩
    · rw [drop, Tally.counts_countEviction htally, hmir.counts]
    · change line ∈ l.lines.filter _ ↔ ∃ object, (c.stored.erase t.id)[line.id]? = _ ∧ _
      simp only [List.mem_filter, hmir.mem_lines, Table.getElem?_erase_eq_some, decide_eq_true_eq]
      constructor
      · rintro ⟨⟨object, hobject, hrest⟩, hne⟩
        exact ⟨object, ⟨Ne.symm hne, hobject⟩, hrest⟩
      · rintro ⟨object, ⟨hne, hobject⟩, hrest⟩
        exact ⟨⟨object, hobject, hrest⟩, Ne.symm hne⟩

/-- Both make room by evicting the same objects. -/
lemma Mirrors.makesRoom (hroom : MakesRoom now size c victims c') (hmir : Mirrors h c l)
    (hlock : c.Lockstep) (hrec : Recorded h c) (hkey : Keyed l.policy.key c)
    (hn : l.lines.length ≤ n) :
    ∃ l', makeRoom size.toNat n l = (victims.map Ticket.id, l') ∧ l'.policy = l.policy ∧
      Mirrors h c' l' := by
  induction hroom generalizing l n with
  | fits hfits =>
    refine ⟨l, ?_, rfl, hmir⟩
    cases n with
    | zero => rfl
    | succ n => rw [makeRoom, hmir.bytes_eq hlock, hmir.capacity, if_pos hfits]; rfl
  | @evicts c c₁ c' t victims hover hev hmore ih =>
    have hevicts := Cache.evicts_of_evict hlock hev
    obtain ⟨hevict, hmir₁⟩ := hmir.evict hlock hrec hkey hevicts
    have hless := hlock.size_evict hev
    -- a list with a victim allows one more round, and is shorter after it
    have hlines := hmir.length_lines
    have hlines₁ := hmir₁.length_lines
    obtain ⟨n, rfl⟩ := Nat.exists_eq_succ_of_ne_zero (show n ≠ 0 by omega)
    obtain ⟨l', hmake, hpolicy, hmir'⟩ := ih hmir₁ (hlock.evict hev) (hrec.evict hevicts)
      (hkey.evict hlock hevicts) (show (l.drop t.id).lines.length ≤ n by omega)
    refine ⟨l', ?_, hpolicy, hmir'⟩
    rw [makeRoom, hmir.bytes_eq hlock, hmir.capacity, if_neg (Nat.not_le.mpr hover), hevict]
    simp only [hmake, List.map_cons]

/-- Both note a hit. -/
lemma Mirrors.touch (hmir : Mirrors h c l) :
    Mirrors ((id, true) :: h) { c with roster := roster }
      { l with lines := l.policy.hit id l.lines } where
  capacity := hmir.capacity
  unitSizes := hmir.unitSizes
  counts := hmir.counts
  mem_lines := fun line => by
    rw [Textbook.mem_hit]
    constructor
    · rintro (⟨hline, hne⟩ | ⟨old, hold, rfl, rfl⟩)
      · obtain ⟨object, hstored, hsize, huses⟩ := (hmir.mem_lines line).mp hline
        rw [← Chronicle.count_cons_of_ne (Ne.symm hne)] at huses
        exact ⟨object, hstored, hsize, huses⟩
      · obtain ⟨object, hstored, hsize, huses⟩ := (hmir.mem_lines old).mp hold
        refine ⟨object, hstored, hsize, ?_⟩
        change min (old.uses + 1) _ = Chronicle.count old.id _
        rw [Chronicle.count_cons_hit, huses]
    · rintro ⟨object, hstored, hsize, huses⟩
      by_cases hid : line.id = id
      · subst hid
        refine Or.inr ⟨_, hmir.mem_of_stored hstored, rfl, ?_⟩
        rw [Chronicle.count_cons_hit] at huses
        rw [Line.use, ← huses, ← hsize]
      · rw [Chronicle.count_cons_of_ne (Ne.symm hid)] at huses
        exact Or.inl ⟨(hmir.mem_lines line).mpr ⟨object, hstored, hsize, huses⟩, hid⟩
  order := Textbook.pairwise_hit hmir.order

/-- An object that is not stored has no line. -/
lemma Mirrors.id_ne (hmir : Mirrors h c l) (hnew : c.stored[id]? = none) (hline : line ∈ l.lines) :
    id ≠ line.id := by
  rintro rfl
  obtain ⟨object, hstored, -⟩ := (hmir.mem_lines line).mp hline
  simp [hnew] at hstored

/-- A request for an object that is not stored leaves the order of the others. -/
lemma Mirrors.order_miss (hmir : Mirrors h c l) (hnew : c.stored[id]? = none) :
    l.lines.Pairwise fun a b =>
      l.policy.rank ((id, false) :: h) a.id < l.policy.rank ((id, false) :: h) b.id := by
  refine List.Pairwise.imp_of_mem ?_ hmir.order
  intro a b ha hb hlt
  rwa [Textbook.rank_cons_of_ne (hmir.id_ne hnew ha), Textbook.rank_cons_of_ne (hmir.id_ne hnew hb)]

/-- Both pass an object by. -/
lemma Mirrors.bypass (hmir : Mirrors h c l) (hnew : c.stored[id]? = none) :
    Mirrors ((id, false) :: h) c l where
  capacity := hmir.capacity
  unitSizes := hmir.unitSizes
  counts := hmir.counts
  mem_lines := fun line => by
    rw [hmir.mem_lines]
    refine exists_congr fun object => and_congr_right fun hstored => ?_
    have hne : id ≠ line.id := by
      rintro rfl
      simp [hnew] at hstored
    rw [Chronicle.count_cons_of_ne hne]
  order := hmir.order_miss hnew

/-- Both admit an object. -/
lemma Mirrors.store (hmir : Mirrors h c l) (hnew : c.stored[id]? = none)
    (hstore : Stores c id size c') : Mirrors ((id, false) :: h) c'
      { l with lines := l.lines ++ [⟨id, size.toNat, 1⟩] } := by
  cases hstore with
  | fresh =>
    refine ⟨hmir.capacity, hmir.unitSizes, hmir.counts, fun line => ?_, ?_⟩
    · change line ∈ l.lines ++ [_] ↔ ∃ object, (c.stored.insert id _)[line.id]? = _ ∧ _
      rw [List.mem_append, List.mem_singleton]
      simp only [Table.getElem?_insert_eq_some]
      constructor
      · rintro (hline | rfl)
        · have hne := hmir.id_ne hnew hline
          obtain ⟨object, hstored, hsize, huses⟩ := (hmir.mem_lines line).mp hline
          rw [← Chronicle.count_cons_of_ne hne] at huses
          exact ⟨object, Or.inr ⟨hne, hstored⟩, hsize, huses⟩
        · exact ⟨_, Or.inl ⟨rfl, rfl⟩, rfl, Chronicle.count_cons_miss.symm⟩
      · rintro ⟨object, ⟨hid, rfl⟩ | ⟨hne, hstored⟩, hsize, huses⟩
        · subst hid
          rw [Chronicle.count_cons_miss] at huses
          cases line
          simp_all
        · rw [Chronicle.count_cons_of_ne hne] at huses
          exact Or.inl ((hmir.mem_lines line).mpr ⟨object, hstored, hsize, huses⟩)
    · refine List.pairwise_append.mpr ⟨hmir.order_miss hnew, List.pairwise_singleton _ _, ?_⟩
      intro a ha b hb
      obtain rfl := List.mem_singleton.mp hb
      have hle := Textbook.rank_le l.policy h a.id
      change l.policy.rank ((id, false) :: h) a.id < l.policy.rank ((id, false) :: h) id
      rw [Textbook.rank_cons_of_ne (hmir.id_ne hnew ha), Textbook.rank_cons_miss]
      omega

lemma Mirrors.effectiveSize_eq (hmir : Mirrors h c l) (r : Request) :
    (if l.unitSizes then 1 else r.size.toNat) = (c.effectiveSize r).toNat := by
  rw [hmir.unitSizes, Cache.effectiveSize]
  split <;> rfl

/-- Both serve a request in the same way. -/
lemma Mirrors.request (hmir : Mirrors h c l) (hfol : Follows h c) (hkey : Keyed l.policy.key c)
    (hreq : c.request r = .ok (reply, c')) :
    ∃ l', l.request r = (.served reply.hit (reply.victims.map Ticket.id), l') ∧
      l'.policy = l.policy ∧ Mirrors ((r.id, reply.hit) :: h) c' l' := by
  have hsize := hmir.effectiveSize_eq r
  cases Cache.serves_of_request hreq with
  | @hit clock tally object roster hclock htally hstored htouch =>
    have hany := hmir.any_eq.mpr ⟨object, hstored⟩
    have hmir' : Mirrors ((r.id, true) :: h) { c with roster := roster }
        { l with lines := l.policy.hit r.id l.lines } := hmir.touch
    refine ⟨_, ?_, ?_, hmir'.count clock tally⟩
    · rw [ListCache.request, if_pos hany, hsize, Tally.counts_countRequest htally, hmir.counts]
      rfl
    · rfl
  | @bypass clock tally tally₁ tally₂ hclock htally hnew hlarge hmiss hbypass =>
    have hany := hmir.not_any hnew
    have hlarge' : l.capacity < (c.effectiveSize r).toNat := by
      rw [hmir.capacity]
      exact UInt64.lt_iff_toNat_lt.mp hlarge
    refine ⟨_, ?_, ?_, (hmir.bypass hnew).count clock tally₂⟩
    · rw [ListCache.request, if_neg hany, hsize, if_pos hlarge', Tally.counts_countBypass hbypass,
        Tally.counts_countMiss hmiss, Tally.counts_countRequest htally, hmir.counts]
      rfl
    · rfl
  | @admission clock tally tally₁ victims c₁ _ hclock htally hnew hlarge hmiss hroom hstore =>
    have hany := hmir.not_any hnew
    have hlarge' : ¬ l.capacity < (c.effectiveSize r).toNat := by
      rw [hmir.capacity]
      exact mt UInt64.lt_iff_toNat_lt.mpr hlarge
    have hlock := hfol.lockstep.count clock tally₁
    have hrec := hfol.recorded.count clock tally₁
    obtain ⟨hlock₁, hnew₁, -⟩ := hlock.makesRoom hroom hnew
    obtain ⟨l₁, hmake, hpolicy, hmir₁⟩ := (hmir.count clock tally₁).makesRoom hroom hlock hrec
      ⟨hkey.scorer, hkey.priority⟩ (Nat.le_refl _)
    refine ⟨_, ?_, ?_, hmir₁.store hnew₁ (Cache.stores_of_store hlock₁ hnew₁ hstore)⟩
    · rw [Tally.counts_countMiss hmiss, Tally.counts_countRequest htally, ← hmir.counts] at hmake
      rw [ListCache.request, if_neg hany, hsize, if_neg hlarge', admitMissing]
      simp only [hmake]
    · exact hpolicy

/-- Both answer a call in the same way. -/
lemma Mirrors.perform {call : Cache.Call} {answer : Cache.Answer} (hmir : Mirrors h c l)
    (hfol : Follows h c) (hkey : Keyed l.policy.key c)
    (hcall : c.perform call = .ok (answer, c')) :
    ∃ l', l.perform call = (answer.verdict, l') ∧ l'.policy = l.policy ∧
      Mirrors ((Cache.record? (call, answer)).toList ++ h) c' l' := by
  cases call with
  | request r =>
    obtain ⟨reply, hreq, rfl⟩ := Cache.perform_request_eq_ok.mp hcall
    exact hmir.request hfol hkey hreq
  | evict now =>
    rcases Cache.perform_evict_eq_ok.mp hcall with ⟨t, hev, rfl⟩ | ⟨hrefused, rfl, rfl⟩
    · obtain ⟨hevict, hmir'⟩ := hmir.evict hfol.lockstep hfol.recorded hkey
        (Cache.evicts_of_evict hfol.lockstep hev)
      exact ⟨l.drop t.id, by rw [ListCache.perform, hevict]; rfl, rfl, hmir'⟩
    · have hempty := hfol.lockstep.refuses_evict.mp hrefused
      have hnil : l.lines = [] := by
        rw [← List.length_eq_zero_iff, hmir.length_lines]
        exact Cache.isEmpty_iff_size.mp hempty
      have hnone : l.evict? = none := by
        rw [evict?, hnil]
        cases l.policy <;> rfl
      exact ⟨l, by rw [ListCache.perform, hnone]; rfl, rfl, hmir⟩
  | clear =>
    obtain ⟨rfl, rfl⟩ := Prod.mk.inj (Except.ok.inj hcall)
    exact ⟨_, rfl, rfl, hmir.capacity, hmir.unitSizes, hmir.counts,
      fun line => by simp [Cache.clear], List.Pairwise.nil⟩

/-- Both answer a run of calls in the same way. -/
lemma Mirrors.run {calls : List Cache.Call} {answers : List Cache.Answer} (hmir : Mirrors h c l)
    (hfol : Follows h c) (hkey : Keyed l.policy.key c)
    (hrun : runCalls Cache.perform c calls = .ok (answers, c')) :
    ∃ l', l.run calls = (answers.map Cache.Answer.verdict, l') ∧ l'.policy = l.policy ∧
      Mirrors (Cache.chronicle (calls.zip answers) ++ h) c' l' := by
  induction calls generalizing h c l answers with
  | nil =>
    obtain ⟨rfl, rfl⟩ := runCalls_nil_eq_ok.mp hrun
    exact ⟨l, rfl, rfl, hmir⟩
  | cons call calls ih =>
    obtain ⟨answer, c₁, rest, hcall, hrest, rfl⟩ := runCalls_cons_eq_ok.mp hrun
    obtain ⟨l₁, hperform, hpolicy, hmir₁⟩ := hmir.perform hfol hkey hcall
    obtain ⟨l', hrun', hpolicy', hmir'⟩ := ih hmir₁ (hfol.perform hcall)
      (hpolicy ▸ hkey.perform hfol.lockstep hcall) hrest
    refine ⟨l', ?_, hpolicy'.trans hpolicy, ?_⟩
    · rw [ListCache.run, hperform]
      simp only [hrun', List.map_cons]
    · rw [List.zip_cons_cons, Cache.chronicle_cons, List.append_assoc]
      exact hmir'

/-- The list of a fresh cache answers a run in the same way. -/
lemma mirrors_of_run (policy : Textbook) {capacity budget : UInt64} {unitSizes : Bool}
    {calls : List Cache.Call} {answers : List Cache.Answer}
    (hrun : runCalls Cache.perform (.new capacity (.empty policy.scorer budget) unitSizes) calls =
      .ok (answers, c)) :
    ∃ l, (new policy capacity.toNat unitSizes).run calls =
        (answers.map Cache.Answer.verdict, l) ∧ l.policy = policy ∧
      Mirrors (Cache.chronicle (calls.zip answers)) c l := by
  have hstart : Follows [] (.new capacity (.empty policy.scorer budget) unitSizes) :=
    ⟨Cache.lockstep_new capacity budget policy.scorer unitSizes,
      Cache.recorded_new [] capacity budget policy.scorer unitSizes, rfl⟩
  have hmirrors := (mirrors_new policy capacity budget policy.scorer unitSizes).run hstart
    (Cache.keyed_new capacity budget policy unitSizes) hrun
  rwa [List.append_nil] at hmirrors

end ListCache

namespace Cache

variable {c c' : Cache} {h : Chronicle} {policy : Textbook} {call : Call} {answer : Answer}

lemma keyed_of_run {capacity budget : UInt64} {unitSizes : Bool} {calls : List Call}
    {answers : List Answer}
    (hrun : runCalls perform (new capacity (.empty policy.scorer budget) unitSizes) calls =
      .ok (answers, c)) : Keyed policy.key c := by
  refine (runCalls_invariant (P := fun c => c.Lockstep ∧ Keyed policy.key c) ?_ ?_ hrun).2
  · exact ⟨lockstep_new capacity budget policy.scorer unitSizes,
      keyed_new capacity budget policy unitSizes⟩
  · rintro c₁ call answer c₂ ⟨hlock, hkey⟩ hcall
    exact ⟨hlock.perform hcall, hkey.perform hlock hcall⟩

/-- **The textbook policies do what the textbooks say.**  Whatever calls are made to a fresh cache
under one of them, as long as no counter overflows, the list of the cached objects that is kept in
the order of their latest requests or admissions answers the same: hits and misses, the ids of the
victims, all eight counters, and the objects that are cached with their sizes.  And whatever is
called next, the victims are the first of the cached objects in the order that the policy reads off
the requests so far. -/
theorem textbook_after_calls (policy : Textbook) (capacity budget : UInt64) (unitSizes : Bool)
    {calls : List Call} {answers : List Answer} {c : Cache}
    (hrun : runCalls perform (new capacity (.empty policy.scorer budget) unitSizes) calls =
      .ok (answers, c)) :
    (∃ l, (ListCache.new policy capacity.toNat unitSizes).run calls =
        (answers.map Answer.verdict, l) ∧
      l.counts = c.tally.counts ∧
      (l.lines.map fun line => (line.id, line.size)).Perm
        (c.stored.toList.map fun e => (e.1, e.2.size.toNat))) ∧
    ∀ call answer c', c.perform call = .ok (answer, c') →
      answer.victims.Pairwise
        (fun v w => policy.Precedes (chronicle (calls.zip answers)) v.id w.id) ∧
      ∀ v ∈ answer.victims, v.id ∈ c.stored ∧
        ∀ id ∈ c.stored, id ∉ answer.victims.map Ticket.id →
          policy.Precedes (chronicle (calls.zip answers)) v.id id := by
  have hfol := follows_of_run hrun
  have hkey := keyed_of_run hrun
  refine ⟨?_, fun call answer c' hcall => precedes_of_perform hcall hfol hkey⟩
  obtain ⟨l, hlist, -, hmir⟩ := ListCache.mirrors_of_run policy hrun
  refine ⟨l, hlist, hmir.counts, ?_⟩
  have hperm := hmir.lines_perm.map fun line => (line.id, line.size)
  rwa [List.map_map] at hperm

/-- Under the policy of the least frequent use the second object is hit and stays, on the list as
well as in the cache; the third one, which is in the cache for a shorter time, goes before it. -/
theorem textbook_after_frequent_calls :
    ∃ answers c, runCalls perform (new 2 (.empty .lfu 100) true)
        [.request ⟨0, 1, 5⟩, .request ⟨0, 2, 5⟩, .request ⟨0, 2, 5⟩, .request ⟨0, 3, 5⟩] =
          .ok (answers, c) ∧
      (∃ l, (ListCache.new .lfu 2 true).run
          [.request ⟨0, 1, 5⟩, .request ⟨0, 2, 5⟩, .request ⟨0, 2, 5⟩, .request ⟨0, 3, 5⟩] =
            ([.served false [], .served false [], .served true [], .served false [1]], l) ∧
        l.counts = ⟨2, 2, 4, 3, 4, 3, 1, 0⟩) ∧
      ∃ c', c.perform (.evict 9) = .ok (.evicted ⟨2, 3⟩, c') ∧
        Textbook.lfu.Precedes [(3, false), (2, true), (2, false), (1, false)] 3 2 := by
  have hends : (fun done : List Answer × Cache =>
        (done.1.map Answer.verdict, done.2.tally.counts, done.2.contains 2,
          chronicle (List.zip [.request ⟨0, 1, 5⟩, .request ⟨0, 2, 5⟩, .request ⟨0, 2, 5⟩,
            .request ⟨0, 3, 5⟩] done.1),
          Prod.fst <$> done.2.perform (.evict 9))) <$>
      runCalls perform (new 2 (.empty .lfu 100) true)
        [.request ⟨0, 1, 5⟩, .request ⟨0, 2, 5⟩, .request ⟨0, 2, 5⟩, .request ⟨0, 3, 5⟩] =
      .ok ([.served false [], .served false [], .served true [], .served false [1]],
        ⟨2, 2, 4, 3, 4, 3, 1, 0⟩, true, [(3, false), (2, true), (2, false), (1, false)],
        .ok (.evicted ⟨2, 3⟩)) := by
    cbv
  obtain ⟨⟨answers, c⟩, hrun, heq⟩ := map_eq_ok.mp hends
  simp only [Prod.mk.injEq] at heq
  obtain ⟨hverdicts, hcounts, hstored, hchronicle, hnext⟩ := heq
  obtain ⟨⟨answer, c'⟩, hcall, rfl⟩ := map_eq_ok.mp hnext
  obtain ⟨⟨l, hlist, hsame, -⟩, hvictims⟩ := textbook_after_calls .lfu 2 100 true hrun
  obtain ⟨-, hfirst⟩ := hvictims _ _ _ hcall
  rw [hchronicle] at hfirst
  refine ⟨answers, c, hrun, ⟨l, hverdicts ▸ hlist, hsame.trans hcounts⟩, c', hcall, ?_⟩
  exact (hfirst ⟨2, 3⟩ (by simp [Answer.victims])).2 2
    (Std.TreeMap.contains_iff_mem.mp hstored) (by simp [Answer.victims])

end Cache
end CacheSim
