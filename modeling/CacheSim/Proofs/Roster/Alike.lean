import CacheSim.Proofs.Matching
import CacheSim.Proofs.Roster.Transitions
import CacheSim.Proofs.TimeOrder

/-!
# Rosters that are alike

Two rosters are alike if one can be read for the other: the objects have other names, the serial
numbers and the times are others, but the objects and the ghosts are the same, the times are in the
same order, and an object has its place in the queue by a band that it has on both rosters.  Under a
policy that only compares times the two have their candidates in the same order, and what is done to
both keeps them alike.

* `Translation`: how names, serial numbers and times are to be read;
* `Roster.Alike`: the two rosters;
* `Roster.Alike.ahead_iff`: their queues are in the same order;
* `Roster.Alike.score`, `Roster.Alike.unseat`: admissions, hits and evictions keep them alike.
-/

namespace CacheSim

/-- How the objects, the serial numbers and the times of one cache are to be read in another. -/
structure Translation where
  /-- The object that is called `id` in the first cache is called `name id` in the second. -/
  name : ObjectId → ObjectId
  injective : Function.Injective name
  /-- By how much the serial numbers of the first cache are ahead. -/
  serials : Nat
  /-- By how much the clock of the first cache is ahead, if that is always the same. -/
  lead : Option Nat

/-- The ticket of an object under another name. -/
def Ticket.rename (f : ObjectId → ObjectId) (t : Ticket) : Ticket :=
  ⟨t.serial, f t.id⟩

namespace Translation

/-- The objects have the same names in both caches. -/
def sameNames (serials : Nat) (lead : Option Nat) : Translation where
  name := fun id => id
  injective := Function.injective_id
  serials := serials
  lead := lead

/-- Two tickets for the same stay of one object. -/
structure Tickets (π : Translation) (t t' : Ticket) : Prop where
  id : t'.id = π.name t.id
  serial : t.serial.toNat = t'.serial.toNat + π.serials

/-- If serial numbers are the same, nothing but the names differs. -/
lemma Tickets.eq_rename {π : Translation} {t t' : Ticket} (h : π.Tickets t t')
    (hserials : π.serials = 0) : t' = t.rename π.name := by
  obtain ⟨hid, hserial⟩ := h
  rw [hserials] at hserial
  cases t'
  simp only at hid hserial
  rw [Ticket.rename, hid, UInt64.toNat_inj.mp hserial]

/-- One object on two rosters. -/
structure Residents (π : Translation) (τ : UInt64 → UInt64 → Prop) (x x' : Resident) : Prop where
  ticket : π.Tickets x.ticket x'.ticket
  profile : x.profile.Alike τ x'.profile

end Translation

/-- No two tickets go before each other. -/
lemma VictimQueue.Ahead.asymm {q : VictimQueue Ticket} {t u : Ticket} (h : q.Ahead t u) :
    ¬ q.Ahead u t := by
  rintro ⟨p', p, hp', hp, hlt'⟩
  obtain ⟨_, _, hq, hq', hlt⟩ := h
  obtain rfl := Option.some.inj (hq.symm.trans hp)
  obtain rfl := Option.some.inj (hq'.symm.trans hp')
  rcases hlt with hlt | ⟨rfl, hlt⟩
  · rcases hlt' with hlt' | ⟨rfl, -⟩
    · exact Int.lt_asymm hlt hlt'
    · exact Int.lt_irrefl _ hlt
  · rcases hlt' with hlt' | ⟨-, hlt'⟩
    · exact Int.lt_irrefl _ hlt'
    · exact UInt64.lt_asymm hlt hlt'

namespace Roster

/-- The objects and the ghosts on the second roster are those on the first one in translation. -/
structure SamePopulation (π : Translation) (τ : UInt64 → UInt64 → Prop) (r r' : Roster) : Prop where
  residents : Table.Matched π.name (π.Residents τ) r.residents r'.residents
  ghosts : GhostLog.Alike π.name π.lead.isSome r.ghosts r'.ghosts

/-- The second roster is the first one in translation. -/
structure Alike (π : Translation) (place : Int → Profile → Int)
    (τ : UInt64 → UInt64 → Prop) (r r' : Roster) : Prop extends SamePopulation π τ r r' where
  scorer : r'.scorer = r.scorer
  /-- An object is queued by its features and a band, which need not be the band that it would be
  given at present. -/
  priorities : ∀ (id : ObjectId) x x', r.residents[id]? = some x →
    r'.residents[π.name id]? = some x' → ∃ b,
      r.queue.priority? x.ticket = some (place b x.profile) ∧
      r'.queue.priority? x'.ticket = some (place b x'.profile)

/-- A roster with new features of an object that have not been scored yet. -/
structure Enrolls (r : Roster) (t : Ticket) (profile : Profile) (r₁ : Roster) : Prop where
  consistent : r₁.Consistent
  residents : r₁.residents = r.residents.insert t.id ⟨t, profile⟩
  queue : r₁.queue = r.queue
  ghosts : r₁.ghosts = r.ghosts
  scorer : r₁.scorer = r.scorer

variable {π : Translation} {place : Int → Profile → Int} {τ τ' : UInt64 → UInt64 → Prop}
variable {r r' r₁ r₁' : Roster} {t t' u : Ticket} {profile profile' : Profile} {id id' : ObjectId}
variable {x x' y y' : Resident} {now now' size : UInt64} {p p' : Priority}
variable {band : Scene → Except Fault Int} {ghosts ghosts' : GhostLog}

lemma Consistent.seat_enrolls (h : r.Consistent) (hnew : t.id ∉ r.residents) :
    Enrolls r t (.start now size) (r.seat now t size) :=
  ⟨h.seat hnew, rfl, rfl, rfl, rfl⟩

lemma Consistent.reseat_enrolls (h : r.Consistent)
    (hres : r.residents[t.id]? = some ⟨t, profile⟩) :
    Enrolls r t (profile.touch now) (r.reseat now t profile) :=
  ⟨h.reseat hres, rfl, rfl, rfl, rfl⟩

/-- Residents of other names have other tickets. -/
lemma Consistent.ticket_ne (h : r.Consistent) (hres : r.residents[id]? = some x)
    (hne : t.id ≠ id) : t ≠ x.ticket := by
  rintro rfl
  exact hne (h.ticket_id id x hres)

/-! ## The population -/

/-- The features of two populations can be listed in the same order. -/
lemma exists_profiles {f : ObjectId → ObjectId} {R : Resident → Resident → Prop}
    {S : Profile → Profile → Prop} (h : Table.Matched f R r.residents r'.residents)
    (hf : Function.Injective f) (hR : ∀ x x', R x x' → S x.profile x'.profile) :
    ∃ profiles', List.Forall₂ S (Residents.profiles r.residents) profiles' ∧
      profiles'.Perm (Residents.profiles r'.residents) := by
  obtain ⟨l, hl, hperm⟩ := h.exists_forall₂ hf
  refine ⟨l.map fun e => e.2.profile, ?_, hperm.map fun e => e.2.profile⟩
  rw [Residents.profiles, List.forall₂_map_left_iff, List.forall₂_map_right_iff]
  exact hl.imp fun _ _ he => hR _ _ he.2

namespace SamePopulation

/-- An object is shown to the policy in the same population. -/
lemma scene (h : SamePopulation π τ r r') (hcons : r.Consistent) (hcons' : r'.Consistent)
    (hx : r.residents[id]? = some x) (hx' : r'.residents[π.name id]? = some x')
    (now now' : UInt64) :
    Scene.Alike π.name τ (r.scene now id x.profile) (r'.scene now' (π.name id) x'.profile) := by
  obtain ⟨profiles', hprofiles, hperm⟩ :=
    exists_profiles h.residents π.injective fun _ _ hrel => hrel.profile
  have hcensus := hcons.census
  have hcensus' := hcons'.census
  refine ⟨rfl, (h.residents.related hx hx').profile, ?_, ?_, ?_, ⟨_, h.ghosts⟩⟩
  · refine ⟨_, hcensus.counts, hcensus'.counts.of_perm ?_⟩
    rw [← map_eq_of_forall₂ Profile.accesses hprofiles fun _ _ hp => hp.accesses]
    exact (hperm.map Profile.accesses).symm
  · refine ⟨_, _, hcensus.entered, hcensus'.entered.of_perm (hperm.map Profile.entered).symm, ?_,
      ?_⟩
    · rw [List.forall₂_map_left_iff, List.forall₂_map_right_iff]
      exact hprofiles.imp fun _ _ hp => hp.entered
    · exact List.ne_nil_of_mem (List.mem_map_of_mem (Residents.mem_profiles.mpr ⟨id, _, hx⟩))
  · refine ⟨_, hcensus.sizes, hcensus'.sizes.of_perm ?_⟩
    rw [← map_eq_of_forall₂ Profile.size hprofiles fun _ _ hp => hp.size]
    exact (hperm.map Profile.size).symm

end SamePopulation

namespace Alike

lemma mono (h : Alike π place τ r r') (hτ : ∀ a a', τ a a' → τ' a a') :
    Alike π place τ' r r' where
  residents := h.residents.mono fun _ _ hx => ⟨hx.ticket, hx.profile.mono hτ⟩
  ghosts := h.ghosts
  scorer := h.scorer
  priorities := h.priorities

lemma empty (π : Translation) (place : Int → Profile → Int) (τ : UInt64 → UInt64 → Prop)
    (scorer : Scorer) (budget : UInt64) :
    Alike π place τ (.empty scorer budget) (.empty scorer budget) where
  residents := .empty
  ghosts := GhostLog.alike_empty budget
  scorer := rfl
  priorities := fun id x x' hx => by simp [Roster.empty] at hx

lemma clear (π : Translation) (place : Int → Profile → Int) (τ : UInt64 → UInt64 → Prop)
    (hscorer : r'.scorer = r.scorer) (hbudget : r'.ghosts.budget = r.ghosts.budget) :
    Alike π place τ r.clear r'.clear where
  residents := .empty
  ghosts := GhostLog.alike_clear hbudget
  scorer := hscorer
  priorities := fun id x x' hx => by simp [Roster.clear] at hx

/-! ## The order of the queues -/

/-- Candidates are in the same order in both queues. -/
lemma ahead_iff (h : Alike π place τ r r') (htime : Timetable π.lead τ now now')
    (hpolicy : r.scorer.Timeless band place) (hx : r.residents[id]? = some x)
    (hx' : r'.residents[π.name id]? = some x') (hy : r.residents[id']? = some y)
    (hy' : r'.residents[π.name id']? = some y') :
    r.queue.Ahead x.ticket y.ticket ↔ r'.queue.Ahead x'.ticket y'.ticket := by
  obtain ⟨b, hpx, hpx'⟩ := h.priorities _ _ _ hx hx'
  obtain ⟨b', hpy, hpy'⟩ := h.priorities _ _ _ hy hy'
  have hrx := h.residents.related hx hx'
  have hry := h.residents.related hy hy'
  have hlt := hpolicy.place_lt b b' htime hrx.profile hry.profile
  have hgt := hpolicy.place_lt b' b htime hry.profile hrx.profile
  have hserial : x.ticket.serial < y.ticket.serial ↔ x'.ticket.serial < y'.ticket.serial := by
    have hsx := hrx.ticket.serial
    have hsy := hry.ticket.serial
    rw [UInt64.lt_iff_toNat_lt, UInt64.lt_iff_toNat_lt]
    omega
  have heq : place b x.profile = place b' y.profile ↔ place b x'.profile = place b' y'.profile := by
    omega
  simp only [VictimQueue.Ahead, hpx, hpx', hpy, hpy', Option.some.injEq, exists_and_left,
    exists_eq_left', hserial, hlt, heq]

/-! ## Transitions -/

/-- New features of an object, on both rosters, leave the populations the same. -/
lemma enroll (h : Alike π place τ r r') (ht : π.Tickets t t') (hprofile : profile.Alike τ profile')
    (h₁ : Enrolls r t profile r₁) (h₁' : Enrolls r' t' profile' r₁') :
    SamePopulation π τ r₁ r₁' where
  residents := by
    rw [h₁.residents, h₁'.residents, ht.id]
    exact h.residents.insert π.injective t.id ⟨ht, hprofile⟩
  ghosts := by
    rw [h₁.ghosts, h₁'.ghosts]
    exact h.ghosts

/-- The object is queued by its new features, and the others as they were. -/
lemma priorities_set (h : Alike π place τ r r') (hcons : r.Consistent) (hcons' : r'.Consistent)
    (ht : t'.id = π.name t.id) (b : Int)
    (hx : (r.residents.insert t.id ⟨t, profile⟩)[id]? = some x)
    (hx' : (r'.residents.insert t'.id ⟨t', profile'⟩)[π.name id]? = some x') :
    ∃ b', (r.queue.set t (place b profile)).priority? x.ticket = some (place b' x.profile) ∧
      (r'.queue.set t' (place b profile')).priority? x'.ticket = some (place b' x'.profile) := by
  rw [VictimQueue.priority?_set, VictimQueue.priority?_set]
  rw [ht] at hx'
  rcases Table.getElem?_insert_eq_some.mp hx with ⟨rfl, rfl⟩ | ⟨hne, hx⟩
  · rcases Table.getElem?_insert_eq_some.mp hx' with ⟨-, rfl⟩ | ⟨hne, -⟩
    · exact ⟨b, if_pos rfl, if_pos rfl⟩
    · exact absurd rfl hne
  · rcases Table.getElem?_insert_eq_some.mp hx' with ⟨heq, -⟩ | ⟨hne', hx'⟩
    · exact absurd (π.injective heq) hne
    · rw [if_neg (hcons.ticket_ne hx hne), if_neg (hcons'.ticket_ne hx' (ht ▸ hne'))]
      exact h.priorities id x x' hx hx'

/-- New features of an object are scored on both rosters. -/
lemma score (h : Alike π place τ r r') (hcons : r.Consistent) (hcons' : r'.Consistent)
    (htime : Timetable π.lead τ now now') (hpolicy : r.scorer.Timeless band place)
    (ht : π.Tickets t t') (hprofile : profile.Alike τ profile') (h₁ : Enrolls r t profile r₁)
    (h₁' : Enrolls r' t' profile' r₁')
    (hp : r₁.scorer.priority (r₁.scene now t.id profile) = .ok p)
    (hp' : r₁'.scorer.priority (r₁'.scene now' t'.id profile') = .ok p') :
    Alike π place τ { r₁ with queue := r₁.queue.set t p }
      { r₁' with queue := r₁'.queue.set t' p' } := by
  have hpopulation := h.enroll ht hprofile h₁ h₁'
  have hscorer : r₁'.scorer = r₁.scorer := by rw [h₁'.scorer, h.scorer, h₁.scorer]
  have hres : r₁.residents[t.id]? = some ⟨t, profile⟩ := by
    rw [h₁.residents]
    exact Std.TreeMap.getElem?_insert_self
  have hres' : r₁'.residents[π.name t.id]? = some ⟨t', profile'⟩ := by
    rw [h₁'.residents, ← ht.id]
    exact Std.TreeMap.getElem?_insert_self
  have hscene := hpopulation.scene h₁.consistent h₁'.consistent hres hres' now now'
  rw [ht.id, hscorer, h₁.scorer] at hp'
  rw [h₁.scorer] at hp
  obtain ⟨b, rfl, rfl⟩ := hpolicy.exists_band π.injective htime hscene hp hp'
  refine ⟨⟨hpopulation.residents, hpopulation.ghosts⟩, hscorer, fun id x x' hx hx' => ?_⟩
  dsimp only at hx hx' ⊢
  rw [h₁.residents] at hx
  rw [h₁'.residents] at hx'
  rw [h₁.queue, h₁'.queue]
  exact h.priorities_set hcons hcons' ht.id b hx hx'

/-- An object that leaves both rosters leaves the same ghost. -/
lemma unseat (h : Alike π place τ r r') (hcons : r.Consistent) (hcons' : r'.Consistent)
    (htime : Timetable π.lead τ now now') (ht : t'.id = π.name t.id)
    (hres : r.residents[t.id]? = some ⟨t, profile⟩)
    (hres' : r'.residents[t'.id]? = some ⟨t', profile'⟩) {left left' : UInt64}
    (hleft : ∀ k ∈ π.lead, left.toNat = left'.toNat + k)
    (hghosts : r.ghosts.record (ghostOf left t.id profile) = .ok ghosts)
    (hghosts' : r'.ghosts.record (ghostOf left' t'.id profile') = .ok ghosts') :
    Alike π place τ (r.unseat t profile ghosts) (r'.unseat t' profile' ghosts') := by
  have hprofile := (h.residents.related hres (ht ▸ hres')).profile
  have hghost : (ghostOf left t.id profile).Alike π.name π.lead.isSome
      (ghostOf left' t'.id profile') := by
    refine ⟨ht, hprofile.size, hprofile.accesses, fun hlead => ?_⟩
    obtain ⟨k, hk⟩ := Option.isSome_iff_exists.mp hlead
    exact hprofile.age_eq (htime.lead_eq k hk).2 (hleft k hk)
  refine ⟨⟨?_, h.ghosts.record π.injective hghost hghosts hghosts'⟩, h.scorer,
    fun id x x' hx hx' => ?_⟩
  · change Table.Matched _ _ (r.residents.erase t.id) (r'.residents.erase t'.id)
    rw [ht]
    exact h.residents.erase π.injective t.id
  · obtain ⟨hne, hx⟩ := Table.getElem?_erase_eq_some.mp hx
    obtain ⟨hne', hx'⟩ := Table.getElem?_erase_eq_some.mp hx'
    change ∃ b, (r.queue.erase t).priority? x.ticket = _ ∧
      (r'.queue.erase t').priority? x'.ticket = _
    rw [VictimQueue.priority?_erase, VictimQueue.priority?_erase,
      if_neg (hcons.ticket_ne hx hne), if_neg (hcons'.ticket_ne hx' hne')]
    exact h.priorities id x x' hx hx'

end Alike
end Roster
end CacheSim
