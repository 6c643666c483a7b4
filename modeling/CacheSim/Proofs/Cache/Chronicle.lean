import CacheSim.Proofs.Cache.Lockstep

/-!
# What a run has seen of an object

A `Chronicle` lists the requests of a run and whether they were hits, the latest first.  What the
roster knows of a stored object can be read off it: when the object was requested last, when it
was admitted, and how often it was requested since.

* `Chronicle.latest_inj`, `Chronicle.admission_inj`: these times tell objects apart;
* `Cache.Recorded`: the features on the roster are those of the chronicle, and objects got their
  serial numbers in the order of their admissions;
* `Cache.Recorded.touch`, `Cache.Recorded.evict`, `Cache.Recorded.store`: that is kept when the
  chronicle gets a new entry.
-/

namespace CacheSim

/-- Requests and whether they were hits, the latest first. -/
abbrev Chronicle := List (ObjectId × Bool)

namespace Chronicle

/-- The number of the latest request for an object, or zero. -/
def latest (id : ObjectId) : Chronicle → Nat
  | [] => 0
  | (id', _) :: earlier => if id' = id then earlier.length + 1 else latest id earlier

/-- The number of the latest request for an object that was a miss, or zero. -/
def admission (id : ObjectId) : Chronicle → Nat
  | [] => 0
  | (id', hit) :: earlier =>
    if id' = id ∧ hit = false then earlier.length + 1 else admission id earlier

/-- The number of requests for an object since its latest miss, that one included. -/
def uses (id : ObjectId) : Chronicle → Nat
  | [] => 0
  | (id', hit) :: earlier =>
    if id' = id then if hit then uses id earlier + 1 else 1 else uses id earlier

/-- The number of requests since the latest miss as far as a 32-bit counter goes. -/
def count (id : ObjectId) (h : Chronicle) : Nat :=
  min (uses id h) (2 ^ 32 - 1)

variable {h : Chronicle} {id id' : ObjectId} {hit : Bool}

lemma latest_cons_of_ne (hne : id' ≠ id) : latest id ((id', hit) :: h) = latest id h := by
  rw [latest, if_neg hne]

lemma admission_cons_of_ne (hne : id' ≠ id) : admission id ((id', hit) :: h) = admission id h := by
  rw [admission, if_neg fun heq => hne heq.1]

lemma count_cons_of_ne (hne : id' ≠ id) : count id ((id', hit) :: h) = count id h := by
  rw [count, uses, if_neg hne, count]

/-- A hit counts as long as the counter goes. -/
lemma count_cons_hit : count id ((id, true) :: h) = min (count id h + 1) (2 ^ 32 - 1) := by
  rw [count, count, uses, if_pos rfl, if_pos rfl]
  omega

/-- A miss starts the count anew. -/
lemma count_cons_miss : count id ((id, false) :: h) = 1 := by
  rw [count, uses, if_pos rfl]
  rfl

/-- A hit is not an admission. -/
lemma admission_cons_hit : admission id ((id', true) :: h) = admission id h := by
  rw [admission, if_neg (by simp)]

lemma latest_le (id : ObjectId) (h : Chronicle) : latest id h ≤ h.length := by
  induction h with
  | nil => exact Nat.le_refl 0
  | cons e earlier ih =>
    rw [latest, List.length_cons]
    split <;> omega

lemma admission_le (id : ObjectId) (h : Chronicle) : admission id h ≤ h.length := by
  induction h with
  | nil => exact Nat.le_refl 0
  | cons e earlier ih =>
    rw [admission, List.length_cons]
    split <;> omega

/-- An admission is a request. -/
lemma admission_le_latest (id : ObjectId) (h : Chronicle) : admission id h ≤ latest id h := by
  induction h with
  | nil => exact Nat.le_refl 0
  | cons e earlier ih =>
    have hle := admission_le id earlier
    rw [admission, latest]
    split
    · next heq => exact Nat.le_of_eq (by rw [if_pos heq.1])
    · split <;> omega

/-- No request is the latest one for two objects. -/
lemma latest_inj (hpos : 0 < latest id h) (heq : latest id h = latest id' h) : id = id' := by
  induction h with
  | nil => exact absurd hpos (Nat.lt_irrefl 0)
  | cons e earlier ih =>
    have hle := latest_le id earlier
    have hle' := latest_le id' earlier
    rw [latest, latest] at heq
    rw [latest] at hpos
    split at heq
    · next hid =>
      split at heq
      · next hid' => exact hid.symm.trans hid'
      · omega
    · next hid =>
      rw [if_neg hid] at hpos
      split at heq
      · omega
      · exact ih hpos heq

/-- No request admitted two objects. -/
lemma admission_inj (hpos : 0 < admission id h) (heq : admission id h = admission id' h) :
    id = id' := by
  induction h with
  | nil => exact absurd hpos (Nat.lt_irrefl 0)
  | cons e earlier ih =>
    have hle := admission_le id earlier
    have hle' := admission_le id' earlier
    rw [admission, admission] at heq
    rw [admission] at hpos
    split at heq
    · next hid =>
      split at heq
      · next hid' => exact hid.1.symm.trans hid'.1
      · omega
    · next hid =>
      rw [if_neg hid] at hpos
      split at heq
      · omega
      · exact ih hpos heq

/-- A profile says of an object what the chronicle says. -/
structure Records (h : Chronicle) (id : ObjectId) (profile : Profile) : Prop where
  lastAccess : profile.lastAccess.toNat = h.latest id
  entered : profile.entered.toNat = h.admission id
  accesses : profile.accesses.toNat = h.count id
  admitted : 0 < h.admission id

variable {profile : Profile} {now size : UInt64}

lemma Records.requested (hrec : h.Records id profile) : 0 < h.latest id :=
  Nat.lt_of_lt_of_le hrec.admitted (admission_le_latest id h)

/-- Requests for other objects leave the record as it is. -/
lemma Records.cons_of_ne (hrec : h.Records id profile) (hne : id' ≠ id) :
    Records ((id', hit) :: h) id profile where
  lastAccess := by rw [latest_cons_of_ne hne, hrec.lastAccess]
  entered := by rw [admission_cons_of_ne hne, hrec.entered]
  accesses := by rw [count_cons_of_ne hne, hrec.accesses]
  admitted := by rw [admission_cons_of_ne hne]; exact hrec.admitted

/-- A hit is recorded by a touch. -/
lemma Records.touch (hrec : h.Records id profile) (hnow : now.toNat = h.length + 1) :
    Records ((id, true) :: h) id (profile.touch now) where
  lastAccess := by
    rw [latest, if_pos rfl]
    exact hnow
  entered := by
    rw [admission_cons_hit]
    exact hrec.entered
  accesses := by
    rw [Profile.toNat_accesses_touch, count_cons_hit, hrec.accesses]
    rfl
  admitted := by
    rw [admission_cons_hit]
    exact hrec.admitted

/-- An admission is recorded by a fresh profile. -/
lemma Records.start (hnow : now.toNat = h.length + 1) :
    Records ((id, false) :: h) id (.start now size) where
  lastAccess := by
    rw [latest, if_pos rfl]
    exact hnow
  entered := by
    rw [admission, if_pos ⟨rfl, rfl⟩]
    exact hnow
  accesses := by
    rw [count_cons_miss]
    rfl
  admitted := by
    rw [admission, if_pos ⟨rfl, rfl⟩]
    exact Nat.succ_pos _

end Chronicle

namespace Cache

/-- The roster knows of the stored objects what the chronicle tells, and objects have their serial
numbers in the order of their admissions. -/
structure Recorded (h : Chronicle) (c : Cache) : Prop where
  records : ∀ (id : ObjectId) resident, c.roster.residents[id]? = some resident →
    h.Records id resident.profile
  serials : ∀ (id id' : ObjectId) object object', c.stored[id]? = some object →
    c.stored[id']? = some object' → h.admission id < h.admission id' →
    object.ticket.serial < object'.ticket.serial

variable {c c' : Cache} {h : Chronicle} {id : ObjectId} {size now clock : UInt64} {t : Ticket}
variable {object : Stored} {victims : List Ticket} {tally : Tally} {roster : Roster}

lemma recorded_new (h : Chronicle) (capacity budget : UInt64) (scorer : Scorer)
    (unitSizes : Bool) : Recorded h (new capacity (.empty scorer budget) unitSizes) where
  records := fun id resident hres => by simp [new, Roster.empty] at hres
  serials := fun id id' object object' hid => by simp [new] at hid

lemma recorded_clear (h : Chronicle) (c : Cache) : Recorded h c.clear where
  records := fun id resident hres => by simp [clear, Roster.clear] at hres
  serials := fun id id' object object' hid => by simp [clear] at hid

lemma Recorded.count (hrec : Recorded h c) (clock : UInt64) (tally : Tally) :
    Recorded h { c with clock := clock, tally := tally } :=
  ⟨hrec.records, hrec.serials⟩

/-- A request for an object that is passed by tells nothing of the stored ones. -/
lemma Recorded.bypass (hrec : Recorded h c) (hlock : c.Lockstep) (hnew : c.stored[id]? = none)
    {hit : Bool} : Recorded ((id, hit) :: h) c where
  records := fun id' resident hres => by
    have hne : id ≠ id' := by
      rintro rfl
      simp [hlock.stored_eq, hres] at hnew
    exact (hrec.records id' resident hres).cons_of_ne hne
  serials := fun id₁ id₂ object₁ object₂ hid₁ hid₂ hlt => by
    have hne₁ : id ≠ id₁ := by
      rintro rfl
      simp [hnew] at hid₁
    have hne₂ : id ≠ id₂ := by
      rintro rfl
      simp [hnew] at hid₂
    rw [Chronicle.admission_cons_of_ne hne₁, Chronicle.admission_cons_of_ne hne₂] at hlt
    exact hrec.serials id₁ id₂ object₁ object₂ hid₁ hid₂ hlt

/-- A hit is recorded with the object that was hit. -/
lemma Recorded.touch (hrec : Recorded h c) (htouch : Touches c now id roster)
    (hnow : now.toNat = h.length + 1) :
    Recorded ((id, true) :: h) { c with roster := roster } := by
  cases htouch with
  | @resident t profile p hres hid hp =>
    refine ⟨fun id' resident hres' => ?_, fun id₁ id₂ object₁ object₂ hid₁ hid₂ hlt => ?_⟩
    · rcases Table.getElem?_insert_eq_some.mp hres' with ⟨rfl, rfl⟩ | ⟨hne, hres'⟩
      · exact hid ▸ (hrec.records id _ hres).touch hnow
      · exact (hrec.records id' resident hres').cons_of_ne (hid ▸ hne)
    · rw [Chronicle.admission_cons_hit, Chronicle.admission_cons_hit] at hlt
      exact hrec.serials id₁ id₂ object₁ object₂ hid₁ hid₂ hlt

/-- Objects that stay are known as before. -/
lemma Recorded.evict (hrec : Recorded h c) (hev : Evicts c now t c') : Recorded h c' := by
  cases hev with
  | victim =>
    refine ⟨fun id resident hres => ?_, fun id₁ id₂ object₁ object₂ hid₁ hid₂ hlt => ?_⟩
    · exact hrec.records id resident (Table.getElem?_erase_eq_some.mp hres).2
    · exact hrec.serials id₁ id₂ object₁ object₂ (Table.getElem?_erase_eq_some.mp hid₁).2
        (Table.getElem?_erase_eq_some.mp hid₂).2 hlt

/-- An object that is admitted is the latest one in every respect. -/
lemma Recorded.store (hrec : Recorded h c) (hlock : c.Lockstep) (hstore : Stores c id size c')
    (hclock : c.clock.toNat = h.length + 1) : Recorded ((id, false) :: h) c' := by
  cases hstore with
  | @fresh nextSerial occupied p hnew hserial hocc hp =>
    refine ⟨fun id' resident hres => ?_, fun id₁ id₂ object₁ object₂ hid₁ hid₂ hlt => ?_⟩
    · rcases Table.getElem?_insert_eq_some.mp hres with ⟨rfl, rfl⟩ | ⟨hne, hres⟩
      · exact Chronicle.Records.start hclock
      · exact (hrec.records id' resident hres).cons_of_ne hne
    · rcases Table.getElem?_insert_eq_some.mp hid₂ with ⟨rfl, rfl⟩ | ⟨hne₂, hid₂⟩
      · rcases Table.getElem?_insert_eq_some.mp hid₁ with ⟨rfl, rfl⟩ | ⟨-, hid₁⟩
        · exact absurd hlt (Nat.lt_irrefl _)
        · exact hlock.serial_lt id₁ object₁ hid₁
      · rw [Chronicle.admission_cons_of_ne hne₂] at hlt
        rcases Table.getElem?_insert_eq_some.mp hid₁ with ⟨rfl, rfl⟩ | ⟨hne₁, hid₁⟩
        · -- the new object is not admitted before another one
          have hle := Chronicle.admission_le id₂ h
          rw [Chronicle.admission, if_pos ⟨rfl, rfl⟩] at hlt
          omega
        · rw [Chronicle.admission_cons_of_ne hne₁] at hlt
          exact hrec.serials id₁ id₂ object₁ object₂ hid₁ hid₂ hlt

lemma Recorded.makesRoom (hrec : Recorded h c) (hlock : c.Lockstep)
    (hroom : MakesRoom now size c victims c') : Recorded h c' := by
  induction hroom with
  | fits => exact hrec
  | evicts hover hev hmore ih =>
    exact ih (hrec.evict (evicts_of_evict hlock hev)) (hlock.evict hev)

/-! ## Runs -/

/-- The entry that a call leaves in the chronicle. -/
def record? : Call × Answer → Option (ObjectId × Bool)
  | (.request r, .served reply) => some (r.id, reply.hit)
  | _ => none

/-- The chronicle of a run. -/
def chronicle (log : List (Call × Answer)) : Chronicle :=
  (log.filterMap record?).reverse

lemma chronicle_append (log : List (Call × Answer)) (e : Call × Answer) :
    chronicle (log ++ [e]) = (record? e).toList ++ chronicle log := by
  rw [chronicle, chronicle, List.filterMap_append, List.reverse_append]
  cases hrecord : record? e <;> simp [hrecord]

lemma chronicle_cons (e : Call × Answer) (log : List (Call × Answer)) :
    chronicle (e :: log) = chronicle log ++ (record? e).toList := by
  rw [chronicle, chronicle, List.filterMap_cons]
  cases hrecord : record? e <;> simp

/-- A cache that calls with the given chronicle have led to. -/
structure Follows (h : Chronicle) (c : Cache) : Prop where
  lockstep : c.Lockstep
  recorded : Recorded h c
  clock : c.clock.toNat = h.length

lemma toNat_of_tick {clock' : UInt64} (hclock : Word.add clock 1 = .ok clock') :
    clock'.toNat = clock.toNat + 1 :=
  (Word.add_eq_ok.mp hclock).symm

lemma clock_of_makesRoom (hlock : c.Lockstep) (hroom : MakesRoom now size c victims c') :
    c'.clock = c.clock :=
  hroom.congr Cache.clock hlock fun hev => by
    cases hev with
    | victim => rfl

/-- A call adds its entry, if any, to the chronicle. -/
lemma Follows.perform {call : Call} {answer : Answer} (hfol : Follows h c)
    (hcall : c.perform call = .ok (answer, c')) :
    Follows ((record? (call, answer)).toList ++ h) c' := by
  have hlock' := hfol.lockstep.perform hcall
  cases hfol.lockstep.performs hcall with
  | hit hclock htally hstored htouch =>
    have hnow := hfol.clock ▸ toNat_of_tick hclock
    exact ⟨hlock', (hfol.recorded.touch htouch hnow).count _ _, hnow⟩
  | bypass hclock htally hnew =>
    have hnow := hfol.clock ▸ toNat_of_tick hclock
    exact ⟨hlock', (hfol.recorded.bypass hfol.lockstep hnew).count _ _, hnow⟩
  | admission hclock htally hnew hlarge hmiss hcounted hroom hlock₁ hstore =>
    have hnow := hfol.clock ▸ toNat_of_tick hclock
    -- the clock moves on before room is made, and stands still until the object is stored
    have hsame := clock_of_makesRoom hcounted hroom
    have hrec := (hfol.recorded.count _ _).makesRoom hcounted hroom
    refine ⟨hlock', hrec.store hlock₁ hstore (hsame ▸ hnow), ?_⟩
    cases hstore with
    | fresh => exact hsame ▸ hnow
  | evicted hev hevicts =>
    refine ⟨hlock', hfol.recorded.evict hevicts, ?_⟩
    cases hevicts with
    | victim => exact hfol.clock
  | refused => exact hfol
  | cleared => exact ⟨hlock', recorded_clear h c, hfol.clock⟩

/-- A cache follows the chronicle of the calls that have been made to it. -/
lemma follows_of_run {capacity budget : UInt64} {scorer : Scorer} {unitSizes : Bool}
    {calls : List Call} {answers : List Answer}
    (hrun : runCalls Cache.perform (new capacity (.empty scorer budget) unitSizes) calls =
      .ok (answers, c)) : Follows (chronicle (calls.zip answers)) c := by
  refine runCalls_induction (P := fun log c => Follows (chronicle log) c) ?_ ?_ hrun
  · exact ⟨lockstep_new capacity budget scorer unitSizes,
      recorded_new [] capacity budget scorer unitSizes, rfl⟩
  · intro log c call answer c' hfol hcall
    rw [chronicle_append]
    exact hfol.perform hcall

end Cache
end CacheSim
