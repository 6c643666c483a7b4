import CacheSim.Proofs.Cache.Alike
import CacheSim.Proofs.Cache.Coverage
import CacheSim.Proofs.Units

/-!
# Two caches with the same contents

Two caches hold the same objects under the same tickets, though in different units of size and under
different policies.  As long as the objects are queued in the same order they are evicted in the
same order, and the caches answer the same calls alike and still hold the same.  So two policies can
be compared by the priorities that they give to the objects of such caches.

* `Cache.Scaled`: the two caches;
* `Cache.Ranked`: their objects are queued by priorities that are related;
* `Cache.KeepsOrder`: such priorities put the objects into the same order;
* `Cache.Agree`: two policies give priorities that are related;
* `Cache.Scaled.run`: runs of the same calls.
-/

namespace CacheSim

/-- An object on two rosters, with its size in another unit. -/
structure Resident.Scaled (factor : Nat) (x x' : Resident) : Prop where
  ticket : x'.ticket = x.ticket
  profile : x.profile.Scaled factor x'.profile

/-- Two rosters of the same objects and ghosts in different units. -/
structure Roster.Scaled (factor : Nat) (r r' : Roster) : Prop where
  residents : Table.Matched (fun id => id) (Resident.Scaled factor) r.residents r'.residents
  ghosts : r.ghosts.Scaled factor r'.ghosts

/-- How the priorities of an object under two policies are related, given its features. -/
abbrev Rank := Profile → Priority → Priority → Prop

variable {factor : Nat} {r r' : Roster} {id : ObjectId} {x x' : Resident}

/-- An object is shown to the policies in the same population. -/
lemma Roster.Scaled.scene (h : r.Scaled factor r') (hcons : r.Consistent) (hcons' : r'.Consistent)
    (hx : r.residents[id]? = some x) (hx' : r'.residents[id]? = some x') (now : UInt64) :
    (r.scene now id x.profile).Scaled factor (r'.scene now id x'.profile) := by
  obtain ⟨profiles', hprofiles, hperm⟩ :=
    Roster.exists_profiles h.residents Function.injective_id fun _ _ hrel => hrel.profile
  have hcensus := hcons.census
  have hcensus' := hcons'.census
  refine ⟨rfl, rfl, (h.residents.related hx hx').profile, ⟨_, hcensus.counts, ?_⟩,
    ⟨_, hcensus.entered, ?_⟩, ⟨_, _, hcensus.sizes, hcensus'.sizes.of_perm
      (hperm.symm.map Profile.size), ?_⟩, h.ghosts⟩
  · rw [← map_eq_of_forall₂ Profile.accesses hprofiles fun _ _ hp => hp.accesses]
    exact hcensus'.counts.of_perm (hperm.symm.map Profile.accesses)
  · rw [← map_eq_of_forall₂ Profile.entered hprofiles fun _ _ hp => hp.entered]
    exact hcensus'.entered.of_perm (hperm.symm.map Profile.entered)
  · rw [List.forall₂_map_left_iff, List.forall₂_map_right_iff]
    exact hprofiles.imp fun _ _ hp => hp.size

namespace Cache

/-- Two caches of the same objects in different units.  Their candidates need not be in the same
order. -/
structure Scaled (factor : Nat) (c c' : Cache) : Prop where
  lockstep : c.Lockstep
  lockstep' : c'.Lockstep
  roster : c.roster.Scaled factor c'.roster
  clock : c'.clock = c.clock
  nextSerial : c'.nextSerial = c.nextSerial
  unitSizes : c'.unitSizes = c.unitSizes
  capacity : Word.Multiple factor c.capacity c'.capacity
  occupied : Word.Multiple factor c.occupied c'.occupied

/-- An object is queued in both caches, by priorities that are related. -/
def RankedAt (rank : Rank) (c c' : Cache) (id : ObjectId) : Prop :=
  ∀ x, c.roster.residents[id]? = some x → ∃ p p', c.roster.queue.priority? x.ticket = some p ∧
    c'.roster.queue.priority? x.ticket = some p' ∧ rank x.profile p p'

/-- All objects are. -/
def Ranked (rank : Rank) (c c' : Cache) : Prop :=
  ∀ id, RankedAt rank c c' id

/-- Two objects are in the same order by either of their priorities, where an object that was
admitted before another one goes first among equals. -/
def KeepsOrder (rank : Rank) : Prop :=
  ∀ ⦃profile profile₁ : Profile⦄ ⦃p p' p₁ p₁' : Priority⦄ ⦃older : Prop⦄,
    rank profile p p' → rank profile₁ p₁ p₁' → (older ↔ profile.entered < profile₁.entered) →
    ((p < p₁ ∨ p = p₁ ∧ older) ↔ (p' < p₁' ∨ p' = p₁' ∧ older))

/-- The same call in another unit of size. -/
inductive Call.Scaled (factor : Nat) (unitSizes : Bool) : Call → Call → Prop where
  | request {r r' : Request} : r'.id = r.id →
      Call.bytes unitSizes (.request r') = factor * Call.bytes unitSizes (.request r) →
      Scaled factor unitSizes (.request r) (.request r')
  | evict (now : UInt64) : Scaled factor unitSizes (.evict now) (.evict now)
  | clear : Scaled factor unitSizes .clear .clear

variable {rank : Rank} {c c' d d' : Cache} {h : Chronicle} {id₁ : ObjectId} {y : Resident}
variable {size size' now clock clock' : UInt64} {t t' : Ticket} {call call' : Call}
variable {answer answer' : Answer} {victims victims' : List Ticket} {roster roster' : Roster}
variable {calls calls' : List Call} {answers answers' : List Answer} {unitSizes : Bool}
variable {req req' : Request}

/-! ## The order of the queues -/

/-- Objects have their serial numbers in the order in which they entered. -/
lemma Recorded.serial_lt_iff (hrec : Recorded h c) (hlock : c.Lockstep)
    (hx : c.roster.residents[id]? = some x) (hy : c.roster.residents[id₁]? = some y)
    (hne : id ≠ id₁) :
    x.ticket.serial < y.ticket.serial ↔ x.profile.entered < y.profile.entered := by
  have hstored := hlock.stored_of_resident hx
  have hstored₁ := hlock.stored_of_resident hy
  have hrx := hrec.records id x hx
  have hry := hrec.records id₁ y hy
  rw [UInt64.lt_iff_toNat_lt (b := y.profile.entered), hrx.entered, hry.entered]
  constructor
  · intro hlt
    by_contra hnot
    have hother : h.admission id₁ ≠ h.admission id := fun heq =>
      hne (Chronicle.admission_inj hry.admitted heq).symm
    have hgt := hrec.serials id₁ id _ _ hstored₁ hstored (by omega)
    exact UInt64.lt_asymm hlt hgt
  · exact hrec.serials id id₁ _ _ hstored hstored₁

/-- Two objects are in the same order in both queues. -/
lemma Ranked.ahead_iff (hranked : Ranked rank c c') (horder : KeepsOrder rank)
    (hrec : Recorded h c) (hlock : c.Lockstep) (hx : c.roster.residents[id]? = some x)
    (hy : c.roster.residents[id₁]? = some y) (hne : id ≠ id₁) :
    c.roster.queue.Ahead x.ticket y.ticket ↔ c'.roster.queue.Ahead x.ticket y.ticket := by
  obtain ⟨p, p', hp, hp', hrank⟩ := hranked id x hx
  obtain ⟨q, q', hq, hq', hrank'⟩ := hranked id₁ y hy
  simp only [VictimQueue.Ahead, hp, hp', hq, hq', Option.some.injEq, exists_and_left,
    exists_eq_left']
  exact horder hrank hrank' (hrec.serial_lt_iff hlock hx hy hne)

/-- What is left alone in both caches is queued as before. -/
lemma RankedAt.untouched (hranked : RankedAt rank c c' id)
    (hscaled : d.roster.Scaled factor d'.roster) (hleft : Untouched c d id)
    (hleft' : Untouched c' d' id) : RankedAt rank d d' id := by
  intro x hx
  obtain ⟨x', hx', hrel⟩ := hscaled.residents.forth id x hx
  obtain ⟨hold, hsame⟩ := hleft x hx
  obtain ⟨-, hsame'⟩ := hleft' x' hx'
  obtain ⟨p, p', hp, hp', hrank⟩ := hranked x hold
  rw [hrel.ticket] at hsame'
  exact ⟨p, p', hsame.trans hp, hsame'.trans hp', hrank⟩

namespace Scaled

/-! ## What can be told from either cache -/

/-- The same objects are stored. -/
lemma stored_eq_none_iff (hs : Scaled factor c c') (id : ObjectId) :
    c'.stored[id]? = none ↔ c.stored[id]? = none := by
  rw [hs.lockstep.stored_eq, hs.lockstep'.stored_eq, Option.map_eq_none_iff,
    Option.map_eq_none_iff]
  exact hs.roster.residents.getElem?_eq_none_iff Function.injective_id

lemma isEmpty_eq (hs : Scaled factor c c') : c'.isEmpty = c.isEmpty := by
  have hroster := hs.roster.residents.isEmpty_eq
  rw [Bool.eq_iff_iff, Std.TreeMap.isEmpty_iff_forall_not_mem,
    Std.TreeMap.isEmpty_iff_forall_not_mem] at hroster
  rw [Bool.eq_iff_iff, isEmpty, isEmpty, Std.TreeMap.isEmpty_iff_forall_not_mem,
    Std.TreeMap.isEmpty_iff_forall_not_mem]
  simpa only [hs.lockstep.mem_stored, hs.lockstep'.mem_stored] using hroster

lemma effectiveSize (hs : Scaled factor c c')
    (hbytes : Call.bytes c.unitSizes (.request req') =
      factor * Call.bytes c.unitSizes (.request req)) :
    Word.Multiple factor (c.effectiveSize req) (c'.effectiveSize req') := by
  rw [Word.Multiple, toNat_effectiveSize, toNat_effectiveSize, hs.unitSizes, hbytes]

/-! ## The parts of a call -/

/-- Both clocks move on. -/
lemma count (hs : Scaled factor c c') (clock : UInt64) (tally tally' : Tally) :
    Scaled factor { c with clock := clock, tally := tally }
      { c' with clock := clock, tally := tally' } where
  lockstep := hs.lockstep.count clock tally
  lockstep' := hs.lockstep'.count clock tally'
  roster := hs.roster
  clock := rfl
  nextSerial := hs.nextSerial
  unitSizes := hs.unitSizes
  capacity := hs.capacity
  occupied := hs.occupied

lemma tick_eq (hs : Scaled factor c c') (hclock : Word.add c.clock 1 = .ok clock)
    (hclock' : Word.add c'.clock 1 = .ok clock') : clock' = clock := by
  rw [hs.clock, hclock] at hclock'
  exact (Except.ok.inj hclock').symm

/-- A hit is noted on both rosters. -/
lemma touch (hs : Scaled factor c c') (htouch : Touches c now id roster)
    (htouch' : Touches c' now id roster') : roster.Scaled factor roster' := by
  cases htouch with
  | @resident t profile p hres hid hp =>
    cases htouch' with
    | @resident t' profile' p' hres' hid' hp' =>
      have hrel := hs.roster.residents.related hres hres'
      obtain rfl : t' = t := hrel.ticket
      exact ⟨hs.roster.residents.insert Function.injective_id t'.id
        ⟨rfl, hrel.profile.touch now⟩, hs.roster.ghosts⟩

/-- An admission to both caches. -/
lemma store (hs : Scaled factor c c') (hsize : Word.Multiple factor size size')
    (hstore : Stores c id size d) (hstore' : Stores c' id size' d') (hlock : d.Lockstep)
    (hlock' : d'.Lockstep) : Scaled factor d d' := by
  cases hstore with
  | @fresh nextSerial occupied p hnew hserial hocc hp =>
    cases hstore' with
    | @fresh nextSerial' occupied' p' hnew' hserial' hocc' hp' =>
      have hticket : (⟨c'.nextSerial, id⟩ : Ticket) = ⟨c.nextSerial, id⟩ := by rw [hs.nextSerial]
      rw [hs.nextSerial, hserial] at hserial'
      refine ⟨hlock, hlock', ⟨?_, hs.roster.ghosts⟩, hs.clock, (Except.ok.inj hserial').symm,
        hs.unitSizes, hs.capacity, hs.occupied.add hsize hocc hocc'⟩
      refine hs.roster.residents.insert Function.injective_id id ⟨hticket, ?_⟩
      rw [hs.clock]
      exact .start c.clock hsize

/-- The same object is evicted from both caches. -/
lemma evicts_ticket (hs : Scaled factor c c') (hranked : Ranked rank c c')
    (horder : KeepsOrder rank) (hrec : Recorded h c) (hev : Evicts c now t d)
    (hev' : Evicts c' now t' d') : t' = t := by
  obtain ⟨profile, hres⟩ := hev.resident
  obtain ⟨profile', hres'⟩ := hev'.resident
  obtain ⟨x', hx', hrel⟩ := hs.roster.residents.forth _ _ hres
  obtain ⟨_, y, rfl, hy⟩ := hs.roster.residents.back _ _ hres'
  have hrel' := hs.roster.residents.related hy hres'
  by_cases hid : t'.id = t.id
  · rw [hid, hx', Option.some.injEq] at hres'
    rw [hres'] at hrel
    exact hrel.ticket
  · -- otherwise each of the two would go before the other
    have hstored := hs.lockstep.stored_of_resident hy
    have hstored' := hs.lockstep'.stored_of_resident hx'
    have hahead := hev.ahead hs.lockstep hstored (Ne.symm hid)
    have hahead' := hev'.ahead hs.lockstep' hstored' hid
    have hboth := (hranked.ahead_iff horder hrec hs.lockstep hres hy (Ne.symm hid)).mp hahead
    rw [show x'.stored.ticket = t from hrel.ticket, show t' = y.ticket from hrel'.ticket] at hahead'
    exact absurd hahead' hboth.asymm

lemma evict (hs : Scaled factor c c') (hfactor : 0 < factor) (hranked : Ranked rank c c')
    (horder : KeepsOrder rank) (hrec : Recorded h c) (hev : c.evict now = .ok (t, d))
    (hev' : c'.evict now = .ok (t', d')) : t' = t ∧ Scaled factor d d' ∧ Ranked rank d d' := by
  have hevicts := evicts_of_evict hs.lockstep hev
  have hevicts' := evicts_of_evict hs.lockstep' hev'
  obtain rfl := hs.evicts_ticket hranked horder hrec hevicts hevicts'
  have hlock := hs.lockstep.evict hev
  have hlock' := hs.lockstep'.evict hev'
  have hscaled : Scaled factor d d' := by
    cases hevicts with
    | @victim profile p occupied tally ghosts hres hstored hfirst hocc htally hghosts =>
      cases hevicts' with
      | @victim profile' p' occupied' tally' ghosts' hres' hstored' hfirst' hocc' htally'
          hghosts' =>
        have hprofile := (hs.roster.residents.related hres hres').profile
        have hghost : (Roster.ghostOf now t'.id profile).Scaled factor
            (Roster.ghostOf now t'.id profile') :=
          ⟨rfl, hprofile.size, hprofile.accesses, hprofile.age_eq now⟩
        exact ⟨hlock, hlock', ⟨hs.roster.residents.erase Function.injective_id t'.id,
          hs.roster.ghosts.record hfactor hghost hghosts hghosts'⟩, hs.clock, hs.nextSerial,
          hs.unitSizes, hs.capacity, hs.occupied.sub hprofile.size hocc hocc'⟩
  exact ⟨rfl, hscaled, fun id => (hranked id).untouched hscaled.roster
    (hevicts.untouched hs.lockstep id) (hevicts'.untouched hs.lockstep' id)⟩

/-- The same objects are evicted to make room in both caches. -/
lemma makesRoom (hs : Scaled factor c c') (hfactor : 0 < factor) (hranked : Ranked rank c c')
    (horder : KeepsOrder rank) (hrec : Recorded h c) (hsize : Word.Multiple factor size size')
    (hroom : MakesRoom now size c victims d) (hroom' : MakesRoom now size' c' victims' d') :
    victims' = victims ∧ Scaled factor d d' := by
  have hfits : ∀ {c c' : Cache}, Scaled factor c c' →
      (c'.occupied.toNat + size'.toNat ≤ c'.capacity.toNat ↔
        c.occupied.toNat + size.toNat ≤ c.capacity.toNat) := by
    intro c c' hs
    rw [hs.occupied, hs.capacity, hsize, ← Nat.mul_add]
    exact Nat.mul_le_mul_left_iff hfactor
  -- as many bytes are missing in both caches, so both go on evicting or both stop
  induction hroom generalizing c' victims' with
  | fits hroom =>
    cases hroom' with
    | fits => exact ⟨rfl, hs⟩
    | evicts hover =>
      have hroom := (hfits hs).mpr hroom
      omega
  | evicts hover hev hmore ih =>
    cases hroom' with
    | fits hroom =>
      have hroom := (hfits hs).mp hroom
      omega
    | evicts hover' hev' hmore' =>
      obtain ⟨rfl, hscaled, hranked⟩ := hs.evict hfactor hranked horder hrec hev hev'
      have hrec := hrec.evict (evicts_of_evict hs.lockstep hev)
      obtain ⟨rfl, hdone⟩ := ih hscaled hranked hrec hmore'
      exact ⟨rfl, hdone⟩

/-! ## Calls -/

/-- A request is served alike. -/
lemma request (hs : Scaled factor c c') (hfactor : 0 < factor) (hranked : Ranked rank c c')
    (horder : KeepsOrder rank) (hrec : Recorded h c) (hid : req'.id = req.id)
    (hbytes : Call.bytes c.unitSizes (.request req') =
      factor * Call.bytes c.unitSizes (.request req))
    (hcall : c.perform (.request req) = .ok (answer, d))
    (hcall' : c'.perform (.request req') = .ok (answer', d')) :
    answer' = answer ∧ Scaled factor d d' := by
  have hlock := hs.lockstep.perform hcall
  have hlock' := hs.lockstep'.perform hcall'
  have hsize := hs.effectiveSize hbytes
  have hstored_iff : c'.stored[req'.id]? = none ↔ c.stored[req.id]? = none := by
    rw [hid]
    exact hs.stored_eq_none_iff req.id
  have hlarge_iff := hs.capacity.lt_iff hfactor hsize
  -- the same objects are stored and fit, so both caches serve in the same way
  cases hs.lockstep.performs hcall with
  | hit hclock htally hstored htouch =>
    cases hs.lockstep'.performs hcall' with
    | hit hclock' htally' hstored' htouch' =>
      obtain rfl := hs.tick_eq hclock hclock'
      exact ⟨rfl, hlock, hlock', hs.touch htouch (hid ▸ htouch'), rfl, hs.nextSerial,
        hs.unitSizes, hs.capacity, hs.occupied⟩
    | bypass hclock' htally' hnew' => simp [hstored_iff.mp hnew'] at hstored
    | admission hclock' htally' hnew' => simp [hstored_iff.mp hnew'] at hstored
  | bypass hclock htally hnew hlarge =>
    cases hs.lockstep'.performs hcall' with
    | hit hclock' htally' hstored' => simp [hstored_iff.mpr hnew] at hstored'
    | bypass hclock' htally' hnew' hlarge' =>
      obtain rfl := hs.tick_eq hclock hclock'
      exact ⟨rfl, hs.count _ _ _⟩
    | admission hclock' htally' hnew' hlarge' => exact absurd (hlarge_iff.mpr hlarge) hlarge'
  | @admission _ clock _ tally₁ _ c₁ _ hclock htally hnew hlarge hmiss hcounted hroom hlock₁
      hstore =>
    cases hs.lockstep'.performs hcall' with
    | hit hclock' htally' hstored' => simp [hstored_iff.mpr hnew] at hstored'
    | bypass hclock' htally' hnew' hlarge' => exact absurd (hlarge_iff.mp hlarge') hlarge
    | @admission _ _ _ tally₁' _ c₁' _ hclock' htally' hnew' hlarge' hmiss' hcounted' hroom'
        hlock₁' hstore' =>
      obtain rfl := hs.tick_eq hclock hclock'
      obtain ⟨rfl, hs₁⟩ := (hs.count _ tally₁ tally₁').makesRoom hfactor hranked horder
        (hrec.count _ tally₁) hsize hroom hroom'
      exact ⟨rfl, hs₁.store hsize hstore (hid ▸ hstore') hlock hlock'⟩

/-- The same call is answered alike. -/
lemma perform (hs : Scaled factor c c') (hfactor : 0 < factor) (hranked : Ranked rank c c')
    (horder : KeepsOrder rank) (hrec : Recorded h c)
    (hcalls : Call.Scaled factor c.unitSizes call call') (hcall : c.perform call = .ok (answer, d))
    (hcall' : c'.perform call' = .ok (answer', d')) :
    answer' = answer ∧ Scaled factor d d' := by
  cases hcalls with
  | request hid hbytes => exact hs.request hfactor hranked horder hrec hid hbytes hcall hcall'
  | evict now =>
    -- an eviction is refused by an empty cache, and one is empty if the other is
    rcases perform_evict_eq_ok.mp hcall with ⟨t, hev, rfl⟩ | ⟨hrefuses, rfl, rfl⟩
    · rcases perform_evict_eq_ok.mp hcall' with ⟨t', hev', rfl⟩ | ⟨hrefuses', rfl, rfl⟩
      · obtain ⟨rfl, hscaled, -⟩ := hs.evict hfactor hranked horder hrec hev hev'
        exact ⟨rfl, hscaled⟩
      · have hempty := hs.isEmpty_eq ▸ hs.lockstep'.refuses_evict.mp hrefuses'
        simp [hs.lockstep.evict_of_isEmpty hempty] at hev
    · rcases perform_evict_eq_ok.mp hcall' with ⟨t', hev', rfl⟩ | ⟨-, rfl, rfl⟩
      · have hempty := hs.isEmpty_eq.trans (hs.lockstep.refuses_evict.mp hrefuses)
        simp [hs.lockstep'.evict_of_isEmpty hempty] at hev'
      · exact ⟨rfl, hs⟩
  | clear =>
    obtain ⟨rfl, rfl⟩ := Prod.mk.inj (Except.ok.inj hcall)
    obtain ⟨rfl, rfl⟩ := Prod.mk.inj (Except.ok.inj hcall')
    exact ⟨rfl, lockstep_clear c, lockstep_clear c', ⟨.empty, hs.roster.ghosts.clear⟩, hs.clock,
      hs.nextSerial, hs.unitSizes, hs.capacity, Word.multiple_zero factor⟩

end Scaled

/-! ## Policies that agree -/

/-- Two policies give the objects of two caches with the same contents priorities that are related,
if the first cache has a certain property. -/
def Agree (factor : Nat) (P : Cache → Prop) (rank : Rank) (scorer scorer' : Scorer) : Prop :=
  ∀ ⦃c c' : Cache⦄ ⦃id : ObjectId⦄ ⦃x x' : Resident⦄ ⦃p p' : Priority⦄, Scaled factor c c' → P c →
    c.roster.residents[id]? = some x → c'.roster.residents[id]? = some x' →
    scorer.priority (c.roster.scene c.clock id x.profile) = .ok p →
    scorer'.priority (c'.roster.scene c'.clock id x'.profile) = .ok p' → rank x.profile p p'

/-- Equal priorities put objects into the same order. -/
lemma keepsOrder_same : KeepsOrder fun _ p p' => p' = p := by
  rintro profile profile₁ p _ p₁ _ older rfl rfl -
  exact Iff.rfl

/-- Scorers agree that give an object the same priority in either unit. -/
lemma agree_of_priority_eq {P : Cache → Prop} {scorer scorer' : Scorer}
    (hsame : ∀ ⦃c : Cache⦄ ⦃id : ObjectId⦄ ⦃x : Resident⦄ ⦃s' : Scene⦄, P c →
      c.roster.residents[id]? = some x →
      (c.roster.scene c.clock id x.profile).Scaled factor s' →
      scorer'.priority s' = scorer.priority (c.roster.scene c.clock id x.profile)) :
    Agree factor P (fun _ p p' => p' = p) scorer scorer' := by
  intro c c' id x x' p p' hs hP hx hx' hp hp'
  have hscene := hs.roster.scene hs.lockstep.roster hs.lockstep'.roster hx hx' c.clock
  rw [hs.clock, hsame hP hx hscene, hp] at hp'
  exact (Except.ok.inj hp').symm

/-- A property of all the caches that calls pass through. -/
def Throughout (P : Cache → Prop) (c : Cache) (calls : List Call) : Prop :=
  ∀ early answers c', early <+: calls → runCalls perform c early = .ok (answers, c') → P c'

variable {P : Cache → Prop} {scorer scorer' : Scorer}

lemma Throughout.first (hP : Throughout P c (call :: calls))
    (hcall : c.perform call = .ok (answer, d)) : P d :=
  hP [call] [answer] d (List.cons_prefix_cons.mpr ⟨rfl, List.nil_prefix⟩)
    (runCalls_cons_eq_ok.mpr ⟨answer, d, [], hcall, runCalls_nil_eq_ok.mpr ⟨rfl, rfl⟩, rfl⟩)

lemma Throughout.rest (hP : Throughout P c (call :: calls))
    (hcall : c.perform call = .ok (answer, d)) : Throughout P d calls := by
  intro early answers c' hearly hrun
  exact hP (call :: early) (answer :: answers) c' (List.cons_prefix_cons.mpr ⟨rfl, hearly⟩)
    (runCalls_cons_eq_ok.mpr ⟨answer, d, answers, hcall, hrun, rfl⟩)

lemma Call.Scaled.requests_eq (hcalls : Call.Scaled factor unitSizes call call') (id : ObjectId) :
    call'.requests id = call.requests id := by
  cases hcalls with
  | request hid => rw [Call.requests, Call.requests, hid]
  | evict | clear => rfl

/-- The requested object is scored in both caches, and the others are queued as they were. -/
lemma Ranked.perform (hranked : Ranked rank c c') (hs : Scaled factor c c')
    (hdone : Scaled factor d d') (hagree : Agree factor P rank c.roster.scorer c'.roster.scorer)
    (hP : P d) (hcalls : Call.Scaled factor c.unitSizes call call')
    (hcall : c.perform call = .ok (answer, d)) (hcall' : c'.perform call' = .ok (answer', d')) :
    Ranked rank d d' := by
  intro id
  have hsame := hcalls.requests_eq id
  cases hrequests : call.requests id with
  | false =>
    exact (hranked id).untouched hdone.roster (frame_of_perform hs.lockstep hcall hrequests)
      (frame_of_perform hs.lockstep' hcall' (hsame.trans hrequests))
  | true =>
    intro x hx
    obtain ⟨x', hx', hrel⟩ := hdone.roster.residents.forth id x hx
    obtain ⟨p, hp, hqueued⟩ := scored_of_perform hs.lockstep hcall hrequests hx
    obtain ⟨p', hp', hqueued'⟩ :=
      scored_of_perform hs.lockstep' hcall' (hsame.trans hrequests) hx'
    rw [(sameSetup_of_perform hs.lockstep hcall).scorer] at hp
    rw [(sameSetup_of_perform hs.lockstep' hcall').scorer] at hp'
    rw [hrel.ticket] at hqueued'
    exact ⟨p, p', hqueued, hqueued', hagree hdone hP hx hx' hp hp'⟩

/-- The same calls are answered alike. -/
lemma Scaled.run (hs : Scaled factor c c') (hfactor : 0 < factor) (hranked : Ranked rank c c')
    (horder : KeepsOrder rank) (hfollows : Follows h c)
    (hagree : Agree factor P rank c.roster.scorer c'.roster.scorer) (hP : Throughout P c calls)
    (hcalls : List.Forall₂ (Call.Scaled factor c.unitSizes) calls calls')
    (hrun : runCalls Cache.perform c calls = .ok (answers, d))
    (hrun' : runCalls Cache.perform c' calls' = .ok (answers', d')) :
    answers' = answers ∧ Scaled factor d d' := by
  induction calls generalizing c c' h answers calls' answers' with
  | nil =>
    cases hcalls
    obtain ⟨rfl, rfl⟩ := runCalls_nil_eq_ok.mp hrun
    obtain ⟨rfl, rfl⟩ := runCalls_nil_eq_ok.mp hrun'
    exact ⟨rfl, hs⟩
  | cons call calls ih =>
    cases hcalls with
    | cons hcallScaled hrestScaled =>
      obtain ⟨answer, c₁, rest, hcall, hrest, rfl⟩ := runCalls_cons_eq_ok.mp hrun
      obtain ⟨answer', c₁', rest', hcall', hrest', rfl⟩ := runCalls_cons_eq_ok.mp hrun'
      have hsetup := sameSetup_of_perform hs.lockstep hcall
      have hsetup' := sameSetup_of_perform hs.lockstep' hcall'
      obtain ⟨rfl, hs₁⟩ :=
        hs.perform hfactor hranked horder hfollows.recorded hcallScaled hcall hcall'
      have hranked₁ := hranked.perform hs hs₁ hagree (hP.first hcall) hcallScaled hcall hcall'
      rw [← hsetup.scorer, ← hsetup'.scorer] at hagree
      rw [← hsetup.unitSizes] at hrestScaled
      obtain ⟨rfl, hend⟩ := ih hs₁ hranked₁ (hfollows.perform hcall) hagree (hP.rest hcall)
        hrestScaled hrest hrest'
      exact ⟨rfl, hend⟩

end Cache

/-! ## Counters -/

/-- Counters, with the bytes in another unit. -/
def Counts.scale (factor : Nat) (n : Counts) : Counts :=
  { n with
    cacheSize := factor * n.cacheSize
    simulatedSize := factor * n.simulatedSize
    requestBytes := factor * n.requestBytes
    missBytes := factor * n.missBytes }

lemma Counts.scale_add (factor : Nat) (m n : Counts) :
    (m + n).scale factor = m.scale factor + n.scale factor := by
  simp only [scale, add_def, Nat.mul_add]

lemma Counts.scale_one (n : Counts) : n.scale 1 = n := by
  simp only [scale, Nat.one_mul]

namespace Cache

variable {c c' d d' : Cache} {call call' : Call} {calls calls' : List Call} {unitSizes : Bool}
variable {answer : Answer} {answers answers' : List Answer} {capacity capacity' : UInt64}
variable {budget budget' : UInt64} {P : Cache → Prop} {rank : Rank} {scorer scorer' : Scorer}

lemma Call.Scaled.bytes_eq (hcalls : Call.Scaled factor unitSizes call call') :
    call'.bytes unitSizes = factor * call.bytes unitSizes := by
  cases hcalls with
  | request _ hbytes => exact hbytes
  | evict | clear => exact (Nat.mul_zero factor).symm

lemma Call.Scaled.isRequest_eq (hcalls : Call.Scaled factor unitSizes call call') :
    call'.isRequest = call.isRequest := by
  cases hcalls <;> rfl

lemma counted_scaled (hcalls : List.Forall₂ (Call.Scaled factor unitSizes) calls calls') :
    calls'.countP Call.isRequest = calls.countP Call.isRequest ∧
      (calls'.map (Call.bytes unitSizes)).sum =
        factor * (calls.map (Call.bytes unitSizes)).sum := by
  induction hcalls with
  | nil => exact ⟨rfl, (Nat.mul_zero factor).symm⟩
  | cons hcall _ ih =>
    rw [countP_isRequest_cons, countP_isRequest_cons, hcall.isRequest_eq, ih.1, List.map_cons,
      List.map_cons, List.sum_cons, List.sum_cons, hcall.bytes_eq, ih.2, Nat.mul_add]
    exact ⟨rfl, rfl⟩

lemma gain_scaled (hfactor : 0 < factor) (hcapacity : Word.Multiple factor capacity capacity')
    (hcall : Call.Scaled factor unitSizes call call') (answer : Answer) :
    gain capacity' unitSizes call' answer =
      (gain capacity unitSizes call answer).scale factor := by
  have hpasses : passesBy capacity' unitSizes call' answer =
      passesBy capacity unitSizes call answer := by
    rw [passesBy, passesBy, hcapacity, hcall.bytes_eq]
    simp only [Nat.mul_lt_mul_left hfactor]
  simp only [gain, Counts.scale, Nat.mul_zero, hpasses, hcall.isRequest_eq, hcall.bytes_eq,
    mul_ite]

lemma gains_scaled (hfactor : 0 < factor) (hcapacity : Word.Multiple factor capacity capacity')
    (hcalls : List.Forall₂ (Call.Scaled factor unitSizes) calls calls') (answers : List Answer) :
    gains capacity' unitSizes (calls'.zip answers) =
      (gains capacity unitSizes (calls.zip answers)).scale factor := by
  induction hcalls generalizing answers with
  | nil =>
    simp only [List.zip_nil_left, gains, List.map_nil, List.sum_nil, Counts.scale, Counts.zero_def,
      Nat.mul_zero]
  | cons hcall _ ih =>
    cases answers with
    | nil =>
      simp only [List.zip_nil_right, gains, List.map_nil, List.sum_nil, Counts.scale,
        Counts.zero_def, Nat.mul_zero]
    | cons answer answers =>
      rw [List.zip_cons_cons, List.zip_cons_cons, gains_cons, gains_cons, ih, Counts.scale_add,
        gain_scaled hfactor hcapacity hcall]

/-! ## Runs -/

lemma scaled_new (scorer scorer' : Scorer) (unitSizes : Bool)
    (hcapacity : Word.Multiple factor capacity capacity')
    (hbudget : Word.Multiple factor budget budget') :
    Scaled factor (new capacity (.empty scorer budget) unitSizes)
      (new capacity' (.empty scorer' budget') unitSizes) where
  lockstep := lockstep_new _ _ _ _
  lockstep' := lockstep_new _ _ _ _
  roster := ⟨.empty, GhostLog.scaled_empty hbudget⟩
  clock := rfl
  nextSerial := rfl
  unitSizes := rfl
  capacity := hcapacity
  occupied := Word.multiple_zero factor

/-- Calls stand for themselves in the same unit. -/
lemma forall₂_scaled_one (unitSizes : Bool) (calls : List Call) :
    List.Forall₂ (Call.Scaled 1 unitSizes) calls calls := by
  refine List.forall₂_same.mpr fun call _ => ?_
  cases call with
  | request r => exact .request rfl (Nat.one_mul _).symm
  | evict now => exact .evict now
  | clear => exact .clear

/-- The answers and the counters of a run, or why it came to its end. -/
def outcome (capacity budget : UInt64) (unitSizes : Bool) (calls : List Call) (scorer : Scorer) :
    Except Refusal (List Answer × Tally) :=
  (fun done => (done.1, done.2.tally)) <$>
    runCalls perform (new capacity (.empty scorer budget) unitSizes) calls

/-- Under policies that agree, a run goes through in the smaller unit if it does in the larger one,
with the same answers and the same counts. -/
lemma run_scaled (hsafe : scorer.Safe) (hsafe' : scorer'.Safe) (horder : KeepsOrder rank)
    (hagree : Agree factor P rank scorer scorer') (hfactor : 0 < factor)
    (hcapacity : Word.Multiple factor capacity capacity')
    (hbudget : Word.Multiple factor budget budget')
    (hP : Throughout P (new capacity (.empty scorer budget) unitSizes) calls)
    (hcalls : List.Forall₂ (Call.Scaled factor unitSizes) calls calls')
    (hrun' : runCalls perform (new capacity' (.empty scorer' budget') unitSizes) calls' =
      .ok (answers, c')) :
    ∃ c, runCalls perform (new capacity (.empty scorer budget) unitSizes) calls =
        .ok (answers, c) ∧ Scaled factor c c' ∧
      c'.tally.counts = c.tally.counts.scale factor := by
  have hs := scaled_new scorer scorer' unitSizes hcapacity hbudget
  obtain ⟨hrequests, hbytes⟩ := counted_scaled hcalls
  have hcounted := (run_iff_counted hsafe' capacity' budget' unitSizes calls').mp ⟨_, _, hrun'⟩
  rw [hrequests, hbytes] at hcounted
  have hle := Nat.le_mul_of_pos_left (calls.map (Call.bytes unitSizes)).sum hfactor
  obtain ⟨answers₀, c, hrun⟩ := (run_iff_counted hsafe capacity budget unitSizes calls).mpr
    ⟨hcounted.1, Nat.lt_of_le_of_lt hle hcounted.2⟩
  have hfollows := follows_of_run (runCalls_nil_eq_ok.mpr
    ⟨rfl, (rfl : new capacity (.empty scorer budget) unitSizes = _)⟩)
  have hranked : Ranked rank (new capacity (.empty scorer budget) unitSizes)
      (new capacity' (.empty scorer' budget') unitSizes) := by
    intro id x hx
    simp [new, Roster.empty] at hx
  obtain ⟨rfl, hend⟩ := hs.run hfactor hranked horder hfollows hagree hP hcalls hrun hrun'
  refine ⟨c, hrun, hend, ?_⟩
  rw [counts_of_run hs.lockstep' hrun', counts_of_run hs.lockstep hrun, Counts.scale_add]
  refine congrArg₂ (· + ·) ?_ (gains_scaled hfactor hcapacity hcalls answers)
  change Counts.mk capacity'.toNat capacity'.toNat 0 0 0 0 0 0 = _
  rw [hcapacity]
  rfl

/-- Policies that agree where the unit is the same cannot be told from each other. -/
lemma outcome_eq (hsafe : scorer.Safe) (hsafe' : scorer'.Safe) (horder : KeepsOrder rank)
    (hagree : Agree 1 P rank scorer scorer')
    (hP : Throughout P (new capacity (.empty scorer budget) unitSizes) calls) :
    outcome capacity budget unitSizes calls scorer' =
      outcome capacity budget unitSizes calls scorer := by
  have hone : ∀ a : UInt64, Word.Multiple 1 a a := fun a => Word.multiple_one.mpr rfl
  cases hrun' : runCalls perform (new capacity (.empty scorer' budget) unitSizes) calls with
  | ok done =>
    obtain ⟨c, hrun, -, hcounts⟩ := run_scaled hsafe hsafe' horder hagree Nat.one_pos
      (hone capacity) (hone budget) hP (forall₂_scaled_one unitSizes calls) hrun'
    rw [Counts.scale_one] at hcounts
    rw [outcome, outcome, hrun', hrun]
    exact congrArg (fun tally => Except.ok (done.1, tally)) (Tally.counts_inj hcounts)
  | error e' =>
    cases hrun : runCalls perform (new capacity (.empty scorer budget) unitSizes) calls with
    | ok done =>
      -- what can be counted under one policy can be counted under the other
      have hcounted := (run_iff_counted hsafe capacity budget unitSizes calls).mp ⟨_, _, hrun⟩
      obtain ⟨_, _, hok⟩ := (run_iff_counted hsafe' capacity budget unitSizes calls).mpr hcounted
      simp [hrun'] at hok
    | error e =>
      have hcovers := covers_new capacity budget scorer unitSizes
      have hcovers' := covers_new capacity budget scorer' unitSizes
      rw [outcome, outcome, hrun', hrun,
        hcovers.overflow_of_run (lockstep_new _ _ _ _) hsafe hrun,
        hcovers'.overflow_of_run (lockstep_new _ _ _ _) hsafe' hrun']

end Cache
end CacheSim
