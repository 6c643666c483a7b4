import CacheSim.Proofs.Cache.Gains
import CacheSim.Proofs.Roster.Alike

/-!
# Caches that are alike

Two caches of the same capacity under the same policy, of which one can be read for the other,
answer corresponding calls alike and stay alike.  Each part of a call is compared by itself: a hit,
an eviction, the room that is made, an admission.  The victims are the same because a victim goes
before every other object by its priority and its serial number, which are in the same order in both
caches.

* `Cache.Alike`: the two caches;
* `Cache.Alike.evict`: the same object is evicted;
* `Cache.Alike.perform`, `Cache.Alike.run`: corresponding calls, and runs of them;
* `Cache.Alike.bypass`: an object that is passed by in one cache alone;
* `Cache.Alike.stored_rename`, `Cache.Alike.ghosts_rename`: what is seen in the end;
* `Cache.alike_new`, `Cache.alike_clear`: where such runs begin.
-/

namespace CacheSim

/-- A stored object under another name. -/
def Stored.rename (f : ObjectId → ObjectId) (object : Stored) : Stored :=
  ⟨object.ticket.rename f, object.size⟩

/-- An answer under other names. -/
def Cache.Answer.rename (f : ObjectId → ObjectId) : Cache.Answer → Cache.Answer
  | .served reply => .served ⟨reply.hit, reply.victims.map (Ticket.rename f)⟩
  | .evicted t => .evicted (t.rename f)
  | .refused => .refused
  | .cleared => .cleared

namespace Translation

variable (π : Translation)

/-- Two calls for the same thing.  The times at which requests stand in the trace do not matter. -/
inductive Calls : Cache.Call → Cache.Call → Prop where
  | request {r r' : Request} : r'.id = π.name r.id → r'.size = r.size →
      Calls (.request r) (.request r')
  | evict {now now' : UInt64} : (∀ k ∈ π.lead, now.toNat = now'.toNat + k) →
      Calls (.evict now) (.evict now')
  | clear : Calls .clear .clear

/-- Two answers that say the same. -/
inductive Answers : Cache.Answer → Cache.Answer → Prop where
  | served {hit : Bool} {victims victims' : List Ticket} :
      List.Forall₂ π.Tickets victims victims' →
      Answers (.served ⟨hit, victims⟩) (.served ⟨hit, victims'⟩)
  | evicted {t t' : Ticket} : π.Tickets t t' → Answers (.evicted t) (.evicted t')
  | refused : Answers .refused .refused
  | cleared : Answers .cleared .cleared

variable {π}

/-- If serial numbers are the same, nothing but the names differs. -/
lemma Answers.eq_rename {answer answer' : Cache.Answer} (h : π.Answers answer answer')
    (hserials : π.serials = 0) : answer' = answer.rename π.name := by
  cases h with
  | served hvictims =>
    rw [eq_map_of_forall₂ (Ticket.rename π.name) hvictims fun _ _ ht => ht.eq_rename hserials]
    rfl
  | evicted ht =>
    rw [ht.eq_rename hserials]
    rfl
  | refused | cleared => rfl

end Translation

namespace Cache

/-- The second cache is the first one in translation. -/
structure Alike (π : Translation) (place : Int → Profile → Int) (τ : UInt64 → UInt64 → Prop)
    (c c' : Cache) : Prop where
  lockstep : c.Lockstep
  lockstep' : c'.Lockstep
  roster : Roster.Alike π place τ c.roster c'.roster
  time : Timetable π.lead τ c.clock c'.clock
  capacity : c'.capacity = c.capacity
  unitSizes : c'.unitSizes = c.unitSizes
  occupied : c'.occupied = c.occupied
  nextSerial : c.nextSerial.toNat = c'.nextSerial.toNat + π.serials

variable {π : Translation} {place : Int → Profile → Int} {τ : UInt64 → UInt64 → Prop}
variable {c c' d d' : Cache} {id : ObjectId} {size now now' clock clock' : UInt64}
variable {t t' : Ticket} {r r' : Request} {call call' : Call} {answer answer' : Answer}
variable {band : Scene → Except Fault Int} {tally tally' : Tally} {roster roster' : Roster}
variable {victims victims' : List Ticket} {calls calls' : List Call}
variable {answers answers' : List Answer}

/-- A victim is on the roster. -/
lemma Evicts.resident (hev : Evicts c now t d) :
    ∃ profile, c.roster.residents[t.id]? = some ⟨t, profile⟩ := by
  cases hev with
  | victim hres => exact ⟨_, hres⟩

namespace Alike

/-! ## What can be told from either cache -/

/-- The same objects are stored. -/
lemma stored_eq_none_iff (h : Alike π place τ c c') (id : ObjectId) :
    c'.stored[π.name id]? = none ↔ c.stored[id]? = none := by
  rw [h.lockstep.stored_eq, h.lockstep'.stored_eq, Option.map_eq_none_iff, Option.map_eq_none_iff,
    h.roster.residents.getElem?_eq_none_iff π.injective]

lemma isEmpty_eq (h : Alike π place τ c c') : c'.isEmpty = c.isEmpty := by
  have hroster := h.roster.residents.isEmpty_eq
  rw [Bool.eq_iff_iff, Std.TreeMap.isEmpty_iff_forall_not_mem,
    Std.TreeMap.isEmpty_iff_forall_not_mem] at hroster
  rw [Bool.eq_iff_iff, isEmpty, isEmpty, Std.TreeMap.isEmpty_iff_forall_not_mem,
    Std.TreeMap.isEmpty_iff_forall_not_mem]
  simpa only [h.lockstep.mem_stored, h.lockstep'.mem_stored] using hroster

lemma effectiveSize_eq (h : Alike π place τ c c') (hsize : r'.size = r.size) :
    c'.effectiveSize r' = c.effectiveSize r := by
  rw [effectiveSize, effectiveSize, h.unitSizes, hsize]

/-! ## The parts of a call -/

/-- Both clocks move on. -/
lemma tick (h : Alike π place τ c c') (hclock : Word.add c.clock 1 = .ok clock)
    (hclock' : Word.add c'.clock 1 = .ok clock') (tally tally' : Tally) :
    Alike π place (Timetable.extend τ clock clock') { c with clock := clock, tally := tally }
      { c' with clock := clock', tally := tally' } where
  lockstep := h.lockstep.count clock tally
  lockstep' := h.lockstep'.count clock' tally'
  roster := h.roster.mono fun _ _ => Or.inl
  time := h.time.tick hclock hclock'
  capacity := h.capacity
  unitSizes := h.unitSizes
  occupied := h.occupied
  nextSerial := h.nextSerial

/-- A hit is noted on both rosters. -/
lemma touch (h : Roster.Alike π place τ c.roster c'.roster) (hlock : c.Lockstep)
    (hlock' : c'.Lockstep) (htime : Timetable π.lead τ now now')
    (hpolicy : c.roster.scorer.Timeless band place) (hnow : τ now now')
    (htouch : Touches c now id roster) (htouch' : Touches c' now' (π.name id) roster') :
    Roster.Alike π place τ roster roster' := by
  cases htouch with
  | @resident t profile p hres hid hp =>
    cases htouch' with
    | @resident t' profile' p' hres' hid' hp' =>
      have hpair := h.residents.related hres hres'
      subst hid
      rw [← hid'] at hres' hp'
      exact h.score hlock.roster hlock'.roster htime hpolicy hpair.ticket
        (hpair.profile.touch hnow) (hlock.roster.reseat_enrolls hres)
        (hlock'.roster.reseat_enrolls hres') hp hp'

/-- An admission to both caches. -/
lemma store (h : Alike π place τ c c') (hpolicy : c.roster.scorer.Timeless band place)
    (hnow : τ c.clock c'.clock) (hstore : Stores c id size d)
    (hstore' : Stores c' (π.name id) size d') (hlock : d.Lockstep) (hlock' : d'.Lockstep) :
    Alike π place τ d d' := by
  cases hstore with
  | @fresh nextSerial occupied p hnew hserial hocc hp =>
    cases hstore' with
    | @fresh nextSerial' occupied' p' hnew' hserial' hocc' hp' =>
      have hnextSerial := h.nextSerial
      rw [h.occupied, hocc] at hocc'
      obtain rfl := Except.ok.inj hocc'
      have ht : π.Tickets ⟨c.nextSerial, id⟩ ⟨c'.nextSerial, π.name id⟩ := ⟨rfl, hnextSerial⟩
      have hroster := h.roster.score h.lockstep.roster h.lockstep'.roster h.time hpolicy ht
        (.start hnow size) (h.lockstep.roster.seat_enrolls hnew)
        (h.lockstep'.roster.seat_enrolls hnew') hp hp'
      refine ⟨hlock, hlock', hroster, h.time, h.capacity, h.unitSizes, rfl, ?_⟩
      rw [Word.add_eq_ok] at hserial hserial'
      dsimp only
      omega

/-- The same object is evicted from both caches. -/
lemma evicts_id (h : Alike π place τ c c') (hpolicy : c.roster.scorer.Timeless band place)
    (hev : Evicts c now t d) (hev' : Evicts c' now' t' d') : t'.id = π.name t.id := by
  obtain ⟨profile, hres⟩ := hev.resident
  obtain ⟨profile', hres'⟩ := hev'.resident
  obtain ⟨x', hx', -⟩ := h.roster.residents.forth _ _ hres
  obtain ⟨id, y, hid, hy⟩ := h.roster.residents.back _ _ hres'
  by_contra hne
  -- otherwise each of the two would go before the other
  have hstored := h.lockstep.stored_of_resident hy
  have hstored' := h.lockstep'.stored_of_resident hx'
  have hahead := hev.ahead h.lockstep hstored fun heq => hne (by rw [← hid, heq])
  have hahead' := hev'.ahead h.lockstep' hstored' hne
  rw [← hid] at hres'
  exact hahead'.asymm ((h.roster.ahead_iff h.time hpolicy hres hx' hy hres').mp hahead)

lemma evict (h : Alike π place τ c c') (hpolicy : c.roster.scorer.Timeless band place)
    (hnow : ∀ k ∈ π.lead, now.toNat = now'.toNat + k) (hev : c.evict now = .ok (t, d))
    (hev' : c'.evict now' = .ok (t', d')) : π.Tickets t t' ∧ Alike π place τ d d' := by
  have hevicts := evicts_of_evict h.lockstep hev
  have hevicts' := evicts_of_evict h.lockstep' hev'
  have hid := h.evicts_id hpolicy hevicts hevicts'
  have hlock := h.lockstep.evict hev
  have hlock' := h.lockstep'.evict hev'
  cases hevicts with
  | @victim profile p occupied tally ghosts hres hstored hfirst hocc htally hghosts =>
    cases hevicts' with
    | @victim profile' p' occupied' tally' ghosts' hres' hstored' hfirst' hocc' htally' hghosts' =>
      have hpair := h.roster.residents.related hres (hid ▸ hres')
      have hroster := h.roster.unseat h.lockstep.roster h.lockstep'.roster h.time hid hres hres'
        hnow hghosts hghosts'
      rw [h.occupied, hpair.profile.size, hocc] at hocc'
      obtain rfl := Except.ok.inj hocc'
      exact ⟨hpair.ticket, hlock, hlock', hroster, h.time, h.capacity, h.unitSizes, rfl,
        h.nextSerial⟩

/-- The same objects are evicted to make room in both caches. -/
lemma makesRoom (h : Alike π place τ c c') (hpolicy : c.roster.scorer.Timeless band place)
    (hnow : ∀ k ∈ π.lead, now.toNat = now'.toNat + k) (hroom : MakesRoom now size c victims d)
    (hroom' : MakesRoom now' size c' victims' d') :
    List.Forall₂ π.Tickets victims victims' ∧ Alike π place τ d d' := by
  -- as many bytes are missing in both caches, so both go on evicting or both stop
  induction hroom generalizing c' victims' with
  | fits hfits =>
    cases hroom' with
    | fits => exact ⟨.nil, h⟩
    | evicts hover =>
      rw [h.capacity, h.occupied] at hover
      omega
  | evicts hover hev hmore ih =>
    cases hroom' with
    | fits hfits =>
      rw [h.capacity, h.occupied] at hfits
      omega
    | evicts hover' hev' hmore' =>
      obtain ⟨ht, halike⟩ := h.evict hpolicy hnow hev hev'
      have hscorer := (sameSetup_of_evicts (evicts_of_evict h.lockstep hev)).scorer
      obtain ⟨hvictims, hdone⟩ := ih halike (hscorer ▸ hpolicy) hmore'
      exact ⟨.cons ht hvictims, hdone⟩

/-! ## Calls -/

/-- A request is served alike. -/
lemma request (h : Alike π place τ c c') (hpolicy : c.roster.scorer.Timeless band place)
    (hid : r'.id = π.name r.id) (hsize : r'.size = r.size)
    (hcall : c.perform (.request r) = .ok (answer, d))
    (hcall' : c'.perform (.request r') = .ok (answer', d')) :
    ∃ τ', π.Answers answer answer' ∧ Alike π place τ' d d' := by
  have hlock := h.lockstep.perform hcall
  have hlock' := h.lockstep'.perform hcall'
  have heffective := h.effectiveSize_eq hsize
  have hstored_iff := h.stored_eq_none_iff r.id
  rw [← hid] at hstored_iff
  -- the same objects are stored and equally large, so both caches serve in the same way
  cases h.lockstep.performs hcall with
  | hit hclock htally hstored htouch =>
    cases h.lockstep'.performs hcall' with
    | hit hclock' htally' hstored' htouch' =>
      have htime := h.time.tick hclock hclock'
      have hroster := touch (h.roster.mono fun _ _ => Or.inl) h.lockstep h.lockstep' htime hpolicy
        (Or.inr ⟨rfl, rfl⟩) htouch (hid ▸ htouch')
      exact ⟨_, .served .nil, hlock, hlock', hroster, htime, h.capacity, h.unitSizes, h.occupied,
        h.nextSerial⟩
    | bypass hclock' htally' hnew' => simp [hstored_iff.mp hnew'] at hstored
    | admission hclock' htally' hnew' => simp [hstored_iff.mp hnew'] at hstored
  | bypass hclock htally hnew hlarge =>
    cases h.lockstep'.performs hcall' with
    | hit hclock' htally' hstored' => simp [hstored_iff.mpr hnew] at hstored'
    | bypass hclock' htally' hnew' hlarge' =>
      exact ⟨_, .served .nil, h.tick hclock hclock' _ _⟩
    | admission hclock' htally' hnew' hlarge' =>
      rw [h.capacity, heffective] at hlarge'
      exact absurd hlarge hlarge'
  | @admission _ clock _ tally₁ _ c₁ _ hclock htally hnew hlarge hmiss hcounted hroom hlock₁
      hstore =>
    cases h.lockstep'.performs hcall' with
    | hit hclock' htally' hstored' => simp [hstored_iff.mpr hnew] at hstored'
    | bypass hclock' htally' hnew' hlarge' =>
      rw [h.capacity, heffective] at hlarge'
      exact absurd hlarge' hlarge
    | @admission _ clock' _ tally₁' _ c₁' _ hclock' htally' hnew' hlarge' hmiss' hcounted' hroom'
        hlock₁' hstore' =>
      have halike := h.tick hclock hclock' tally₁ tally₁'
      rw [heffective] at hroom' hstore'
      rw [hid] at hstore'
      obtain ⟨hvictims, halike₁⟩ := halike.makesRoom hpolicy
        (fun k hk => (halike.time.lead_eq k hk).1) hroom hroom'
      have hscorer := (sameSetup_of_makesRoom hcounted hroom).scorer
      have hnow : Timetable.extend τ clock clock' c₁.clock c₁'.clock :=
        Or.inr ⟨clock_of_makesRoom hcounted hroom, clock_of_makesRoom hcounted' hroom'⟩
      exact ⟨_, .served hvictims,
        halike₁.store (hscorer ▸ hpolicy) hnow hstore hstore' hlock hlock'⟩

/-- Corresponding calls are answered alike. -/
lemma perform (h : Alike π place τ c c') (hpolicy : c.roster.scorer.Timeless band place)
    (hcalls : π.Calls call call') (hcall : c.perform call = .ok (answer, d))
    (hcall' : c'.perform call' = .ok (answer', d')) :
    ∃ τ', π.Answers answer answer' ∧ Alike π place τ' d d' := by
  cases hcalls with
  | request hid hsize => exact h.request hpolicy hid hsize hcall hcall'
  | evict hnow =>
    -- an eviction is refused by an empty cache, and one is empty if the other is
    rcases perform_evict_eq_ok.mp hcall with ⟨t, hev, rfl⟩ | ⟨hrefuses, rfl, rfl⟩
    · rcases perform_evict_eq_ok.mp hcall' with ⟨t', hev', rfl⟩ | ⟨hrefuses', rfl, rfl⟩
      · obtain ⟨ht, halike⟩ := h.evict hpolicy hnow hev hev'
        exact ⟨τ, .evicted ht, halike⟩
      · have hempty := h.isEmpty_eq ▸ h.lockstep'.refuses_evict.mp hrefuses'
        simp [h.lockstep.evict_of_isEmpty hempty] at hev
    · rcases perform_evict_eq_ok.mp hcall' with ⟨t', hev', rfl⟩ | ⟨-, rfl, rfl⟩
      · have hempty := h.isEmpty_eq.trans (h.lockstep.refuses_evict.mp hrefuses)
        simp [h.lockstep'.evict_of_isEmpty hempty] at hev'
      · exact ⟨τ, .refused, h⟩
  | clear =>
    obtain ⟨rfl, rfl⟩ := Prod.mk.inj (Except.ok.inj hcall)
    obtain ⟨rfl, rfl⟩ := Prod.mk.inj (Except.ok.inj hcall')
    exact ⟨τ, .cleared, lockstep_clear c, lockstep_clear c',
      .clear π place τ h.roster.scorer h.roster.ghosts.budget, h.time, h.capacity, h.unitSizes,
      rfl, h.nextSerial⟩

/-- So are runs of corresponding calls. -/
lemma run (h : Alike π place τ c c') (hpolicy : c.roster.scorer.Timeless band place)
    (hcalls : List.Forall₂ π.Calls calls calls')
    (hrun : runCalls Cache.perform c calls = .ok (answers, d))
    (hrun' : runCalls Cache.perform c' calls' = .ok (answers', d')) :
    ∃ τ', List.Forall₂ π.Answers answers answers' ∧ Alike π place τ' d d' := by
  induction hcalls generalizing τ c c' answers answers' with
  | nil =>
    obtain ⟨rfl, rfl⟩ := runCalls_nil_eq_ok.mp hrun
    obtain ⟨rfl, rfl⟩ := runCalls_nil_eq_ok.mp hrun'
    exact ⟨τ, .nil, h⟩
  | cons hhead _ ih =>
    obtain ⟨answer, c₁, rest, hcall, hrest, rfl⟩ := runCalls_cons_eq_ok.mp hrun
    obtain ⟨answer', c₁', rest', hcall', hrest', rfl⟩ := runCalls_cons_eq_ok.mp hrun'
    obtain ⟨τ₁, hanswer, h₁⟩ := h.perform hpolicy hhead hcall hcall'
    have hscorer := (sameSetup_of_perform h.lockstep hcall).scorer
    obtain ⟨τ', hanswers, h'⟩ := ih h₁ (hscorer ▸ hpolicy) hrest hrest'
    exact ⟨τ', .cons hanswer hanswers, h'⟩

/-- An object that is passed by in the first cache alone leaves the caches alike, but for the lead
of its clock. -/
lemma bypass (h : Alike π place τ c c') (hlead : π.lead = none)
    (hcall : c.perform (.request r) = .ok (answer, d))
    (hpassed : passesBy c.capacity c.unitSizes (.request r) answer = true) :
    Alike π place τ d c' := by
  obtain ⟨hmiss, hlarge⟩ := Bool.and_eq_true_iff.mp hpassed
  rw [decide_eq_true_eq, ← toNat_effectiveSize, ← UInt64.lt_iff_toNat_lt] at hlarge
  have htime := h.time
  rw [hlead] at htime
  cases h.lockstep.performs hcall with
  | hit => simp [Answer.isMiss] at hmiss
  | bypass hclock =>
    have hwait := htime.wait hclock
    rw [← hlead] at hwait
    exact ⟨h.lockstep.count _ _, h.lockstep', h.roster, hwait, h.capacity, h.unitSizes,
      h.occupied, h.nextSerial⟩
  | admission hclock htally hnew hfits => exact absurd hlarge hfits

/-! ## What is seen in the end -/

/-- The stores hold the same objects. -/
lemma stored (h : Alike π place τ c c') :
    Table.Matched π.name (fun x x' => π.Tickets x.ticket x'.ticket ∧ x'.size = x.size)
      c.stored c'.stored where
  forth := fun id object hobject => by
    rw [h.lockstep.stored_eq, Option.map_eq_some_iff] at hobject
    obtain ⟨x, hx, rfl⟩ := hobject
    obtain ⟨x', hx', hpair⟩ := h.roster.residents.forth id x hx
    exact ⟨x'.stored, h.lockstep'.stored_of_resident hx', hpair.ticket, hpair.profile.size⟩
  back := fun id' object' hobject' => by
    rw [h.lockstep'.stored_eq, Option.map_eq_some_iff] at hobject'
    obtain ⟨x', hx', -⟩ := hobject'
    obtain ⟨id, x, hid, hx⟩ := h.roster.residents.back id' x' hx'
    exact ⟨id, x.stored, hid, h.lockstep.stored_of_resident hx⟩

/-- They hold the same tickets, if serial numbers are the same. -/
lemma stored_rename (h : Alike π place τ c c') (hserials : π.serials = 0) (id : ObjectId) :
    c'.stored[π.name id]? = c.stored[id]?.map (Stored.rename π.name) := by
  have hmap := h.stored.map_getElem?_eq π.injective (Stored.rename π.name) (fun x => x)
    (fun x x' hx => ?_) id
  · rw [Option.map_id_fun'] at hmap
    exact hmap
  · obtain ⟨hticket, hsize⟩ := hx
    rw [Stored.rename, ← hticket.eq_rename hserials, ← hsize]

/-- The same ghosts are remembered, if the first clock is always ahead by the same time. -/
lemma ghosts_rename (h : Alike π place τ c c') (hlead : π.lead.isSome = true) :
    c'.roster.ghosts.toList = c.roster.ghosts.toList.map (Ghost.rename π.name) :=
  eq_map_of_forall₂ _ h.roster.ghosts.ghosts fun _ _ hghost => hghost.eq_rename hlead

end Alike

/-! ## Counters -/

lemma isRequest_alike (h : π.Calls call call') : call'.isRequest = call.isRequest := by
  cases h <;> rfl

lemma bytes_alike (h : π.Calls call call') (unitSizes : Bool) :
    call'.bytes unitSizes = call.bytes unitSizes := by
  cases h with
  | request hid hsize => rw [Call.bytes, Call.bytes, hsize]
  | evict | clear => rfl

/-- Corresponding calls that are answered alike count for the same. -/
lemma gain_alike (hcalls : π.Calls call call') (hanswers : π.Answers answer answer')
    (capacity : UInt64) (unitSizes : Bool) :
    gain capacity unitSizes call' answer' = gain capacity unitSizes call answer := by
  have hmiss : answer'.isMiss = answer.isMiss := by cases hanswers <;> rfl
  have hvictims : answer'.victims.length = answer.victims.length := by
    cases hanswers with
    | served hvictims => exact hvictims.length_eq.symm
    | evicted | refused | cleared => rfl
  rw [gain, gain, passesBy, passesBy, bytes_alike hcalls, isRequest_alike hcalls, hmiss, hvictims]

lemma gains_alike (hcalls : List.Forall₂ π.Calls calls calls')
    (hanswers : List.Forall₂ π.Answers answers answers') (capacity : UInt64) (unitSizes : Bool) :
    gains capacity unitSizes (calls'.zip answers') =
      gains capacity unitSizes (calls.zip answers) := by
  induction hcalls generalizing answers answers' with
  | nil => rfl
  | cons hcall _ ih =>
    cases hanswers with
    | nil => rfl
    | cons hanswer hanswers =>
      rw [List.zip_cons_cons, List.zip_cons_cons, gains_cons, gains_cons, ih hanswers,
        gain_alike hcall hanswer]

/-! ## Caches to begin with -/

/-- A fresh cache is alike to itself under any names. -/
lemma alike_new (π : Translation) (place : Int → Profile → Int) (hserials : π.serials = 0)
    (hlead : ∀ k ∈ π.lead, k = 0) (capacity budget : UInt64) (scorer : Scorer)
    (unitSizes : Bool) (tally tally' : Tally) :
    Alike π place (fun _ _ => False)
      { new capacity (.empty scorer budget) unitSizes with tally := tally }
      { new capacity (.empty scorer budget) unitSizes with tally := tally' } where
  lockstep := (lockstep_new capacity budget scorer unitSizes).count _ _
  lockstep' := (lockstep_new capacity budget scorer unitSizes).count _ _
  roster := .empty π place _ scorer budget
  time := .start 0 rfl hlead
  capacity := rfl
  unitSizes := rfl
  occupied := rfl
  nextSerial := by rw [hserials]; rfl

/-- A cache that has been cleared is alike to a fresh one, but that its serial numbers and its clock
are ahead. -/
lemma alike_clear (place : Int → Profile → Int) (c : Cache) :
    Alike (.sameNames c.nextSerial.toNat (some c.clock.toNat)) place (fun _ _ => False) c.clear
      (new c.capacity (.empty c.roster.scorer c.roster.ghosts.budget) c.unitSizes) where
  lockstep := lockstep_clear c
  lockstep' := lockstep_new _ _ _ _
  roster :=
    { residents := .empty
      ghosts := ⟨GhostLog.valid_clear _, GhostLog.valid_empty _, rfl, .nil⟩
      scorer := rfl
      priorities := fun id x x' hx => by simp [clear, Roster.clear] at hx }
  time := .start c.clock.toNat (Nat.zero_add _).symm fun k hk => (Option.some.inj hk).symm
  capacity := rfl
  unitSizes := rfl
  occupied := rfl
  nextSerial := (Nat.zero_add _).symm

end Cache
end CacheSim
