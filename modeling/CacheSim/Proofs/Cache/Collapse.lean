import CacheSim.Proofs.Cache.Clearing
import CacheSim.Proofs.Cache.Scaled
import CacheSim.Proofs.Cache.Summary
import CacheSim.Proofs.GhostWindow

/-!
# Policies at the ends of their parameters

Some policies are other policies in disguise.  A composite policy that puts every object it is shown
into the same band orders the objects by their latest requests.  A policy that gives every object
the same priority leaves the order to the serial numbers.  And a window that is larger than the
budget for ghosts covers every ghost.

* `Cache.outcome_of_band`: a composite policy with one band is least recent use;
* `Cache.policies_collapse`: which policies are the same at the ends of their parameters.
-/

namespace CacheSim
namespace Cache

variable {c c' : Cache} {id : ObjectId} {x : Resident} {P : Cache → Prop} {b k d : Int}
variable {policy : Composite} {capacity budget : UInt64} {unitSizes : Bool} {calls : List Call}
variable {window : UInt64} {scene : Scene} {scorer : Scorer} {bytes : Nat}

/-! ## One band -/

/-- Priorities that are all moved by the same put the objects into the same order. -/
lemma keepsOrder_shift (d : Int) : KeepsOrder fun _ p p' => p' = p + d := by
  rintro profile profile₁ p _ p₁ _ older rfl rfl -
  rw [Int.add_lt_add_iff_right, Int.add_left_inj]

/-- In one band, a composite policy moves the priorities of least recent use. -/
lemma priority_of_band (hband : policy.band scene = .ok b) :
    policy.scorer.priority scene = .ok (scene.profile.lastAccess.toNat + b * UInt64.size) := by
  rw [Composite.scorer_priority, hband]
  change Except.ok (banded b scene.profile.lastAccess) = _
  rw [banded, Int.add_comm]

/-- The features of an object that least recent use looks at are the same in both caches. -/
lemma Scaled.lastAccess_eq {factor : Nat} (hs : Scaled factor c c') {x' : Resident}
    (hx : c.roster.residents[id]? = some x) (hx' : c'.roster.residents[id]? = some x') :
    x'.profile.lastAccess = x.profile.lastAccess :=
  (hs.roster.residents.related hx hx').profile.lastAccess

/-- In caches with a certain property, a composite policy puts every object into the band `b`. -/
def OneBand (P : Cache → Prop) (policy : Composite) (b : Int) : Prop :=
  ∀ ⦃c : Cache⦄ ⦃id : ObjectId⦄ ⦃x : Resident⦄, c.Lockstep → P c →
    c.roster.residents[id]? = some x → policy.band (c.roster.scene c.clock id x.profile) = .ok b

/-- A composite policy agrees with least recent use where it puts every object into one band. -/
lemma agree_of_band_left (hband : OneBand P policy b) :
    Agree 1 P (fun _ p p' => p' = p + -(b * UInt64.size)) policy.scorer .lru := by
  intro c c' id x x' p p' hs hP hx hx' hp hp'
  rw [priority_of_band (hband hs.lockstep hP hx)] at hp
  obtain rfl := Except.ok.inj hp
  obtain rfl := Except.ok.inj hp'
  change (x'.profile.lastAccess.toNat : Int) = x.profile.lastAccess.toNat + _ + _
  rw [hs.lastAccess_eq hx hx']
  omega

lemma agree_of_band_right (hband : OneBand P policy b)
    (hmove : ∀ ⦃c c' : Cache⦄, Scaled 1 c c' → P c → P c') :
    Agree 1 P (fun _ p p' => p' = p + b * UInt64.size) .lru policy.scorer := by
  intro c c' id x x' p p' hs hP hx hx' hp hp'
  rw [priority_of_band (hband hs.lockstep' (hmove hs hP) hx')] at hp'
  obtain rfl := Except.ok.inj hp
  obtain rfl := Except.ok.inj hp'
  change (x'.profile.lastAccess.toNat : Int) + _ = x.profile.lastAccess.toNat + _
  rw [hs.lastAccess_eq hx hx']

/-- A composite policy that puts every object into one band is least recent use.  It is enough that
it does so in the caches that one of the two runs passes through. -/
lemma outcome_of_band (hband : OneBand P policy b)
    (hmove : ∀ ⦃c c' : Cache⦄, Scaled 1 c c' → P c → P c')
    (hP : Throughout P (new capacity (.empty policy.scorer budget) unitSizes) calls ∨
      Throughout P (new capacity (.empty .lru budget) unitSizes) calls) :
    outcome capacity budget unitSizes calls policy.scorer =
      outcome capacity budget unitSizes calls .lru := by
  have hsafe := Scorer.safe_composite policy
  have hlru : Scorer.lru.Safe := Scorer.safe_of_word _ fun scene => Or.inl rfl
  rcases hP with hP | hP
  · exact (outcome_eq hsafe hlru (keepsOrder_shift _) (agree_of_band_left hband) hP).symm
  · exact outcome_eq hlru hsafe (keepsOrder_shift _) (agree_of_band_right hband hmove) hP

/-! ## Ghosts -/

/-- No object returns within a window of no bytes. -/
lemma oneBand_of_no_window : OneBand (fun _ => True) (.ghostLru (some 0)) 0 := by
  intro c id x _ _ _
  change (fun returning => _) <$> c.roster.ghosts.withinLast id 0 = _
  rw [GhostLog.withinLast_zero]
  rfl

/-- A window that is larger than the log is none. -/
lemma band_of_wide_window (hghosts : scene.ghosts.Valid) (hwide : scene.ghosts.totalSize < window) :
    (Composite.ghostLru (some window)).band scene = (Composite.ghostLru none).band scene := by
  change (fun returning => _) <$> scene.ghosts.withinLast scene.id window = _
  rw [hghosts.withinLast_of_lt hwide]
  rfl

/-- The two agree as long as the log is within its budget. -/
lemma agree_of_wide_window (hwide : budget < window) :
    Agree 1 (fun c => c.roster.ghosts.Valid ∧ c.roster.ghosts.totalSize ≤ budget)
      (fun _ p p' => p' = p) (.ghostLru (some window)) (.ghostLru none) := by
  refine agree_of_priority_eq fun c id x s' hghosts hx hscene => ?_
  have hsame := Composite.Scaled.priority_eq Nat.one_pos (.ghostLru .none) hscene
  have hband : _ = (Composite.ghostLru none).band (c.roster.scene c.clock id x.profile) :=
    band_of_wide_window hghosts.1 (UInt64.lt_of_le_of_lt hghosts.2 hwide)
  refine hsame.trans ?_
  change _ = (Composite.ghostLru (some window)).scorer.priority _
  rw [Composite.scorer_priority, Composite.scorer_priority, hband]

/-! ## Sizes -/

/-- All objects that are admitted have the same size, however far the calls are made. -/
def AdmitsOnly (bytes : Nat) (c : Cache) (calls : List Call) : Prop :=
  ∀ events c', Trail c events c' → events.map Event.call <+: calls →
    ∀ e ∈ events, e.isAdmission = true → e.bytes = bytes

/-- All objects that are stored have the same size. -/
def EqualSizes (bytes : Nat) (c : Cache) : Prop :=
  ∀ (id : ObjectId) x, c.roster.residents[id]? = some x → x.profile.size.toNat = bytes

/-- An object is stored with the size that it had when it was admitted. -/
lemma AdmitsOnly.throughout (h : AdmitsOnly bytes (new capacity (.empty scorer budget) unitSizes)
    calls) :
    Throughout (EqualSizes bytes) (new capacity (.empty scorer budget) unitSizes) calls := by
  intro early answers c hearly hrun id x hx
  obtain ⟨events, htrail, hcalls, -⟩ := trail_of_run hrun
  obtain ⟨⟨earlier, e, later, heq, hadmits, -⟩, -⟩ := htrail.told hx
  rw [hadmits.bytes]
  exact h events c htrail (hcalls ▸ hearly) e (by simp [heq]) hadmits.admission

/-- It is enough that all requests that fit into the cache ask for the same number of bytes. -/
lemma admitsOnly_of_requests (hrequests : ∀ r, .request r ∈ calls →
    Call.bytes unitSizes (.request r) ≤ capacity.toNat →
    Call.bytes unitSizes (.request r) = bytes) :
    AdmitsOnly bytes (new capacity (.empty scorer budget) unitSizes) calls := by
  intro events c htrail hcalls e he hadmission
  obtain ⟨earlier, later, heq⟩ := List.append_of_mem he
  obtain ⟨hbefore, hcall⟩ := htrail.before heq
  obtain ⟨hlock, hsame⟩ := hbefore.lockstep (lockstep_new capacity budget scorer unitSizes)
  have hunit : e.before.unitSizes = unitSizes := hsame.unitSizes
  have hcapacity : e.before.capacity = capacity := hsame.capacity
  have hmem := hcalls.subset (List.mem_map_of_mem he)
  rw [Event.isAdmission, Event.bytes, Bool.and_eq_true, hunit, hcapacity] at hadmission
  rw [Event.bytes, hunit]
  obtain ⟨hmiss, hfits⟩ := hadmission
  -- what is missed has been requested
  have hserved := (books_of_perform hlock hcall).served
  cases hkind : e.call with
  | request r =>
    rw [hkind] at hmem hfits
    exact hrequests r hmem (by simpa using hfits)
  | evict | clear =>
    rw [hkind] at hserved
    simp [Call.isRequest, hmiss] at hserved

/-- Among objects of one size, none is larger than another. -/
lemma oneBand_of_equal_sizes : OneBand (EqualSizes bytes) .largestFirst 9 := by
  intro c id x hlock hsizes hx
  have hrank : c.roster.sizes.rank x.profile.size = 0 := by
    rw [hlock.roster.census.sizes.rank_eq, List.countP_eq_zero]
    intro a ha
    obtain ⟨profile, hprofile, rfl⟩ := List.mem_map.mp ha
    obtain ⟨id', t, hres⟩ := Residents.mem_profiles.mp hprofile
    have hsame := (hsizes id' _ hres).trans (hsizes id x hx).symm
    rw [UInt64.toNat_inj.mp hsame]
    simp
  have hclass : Scorer.sizeClass c.roster.sizes x.profile.size = 0 := by
    rw [Scorer.sizeClass, hrank, Nat.zero_mul, Nat.zero_div, Nat.zero_min]
  change Except.ok ((Scorer.sizeClasses : Int) - 1 -
    (Scorer.sizeClass c.roster.sizes x.profile.size : Nat)) = _
  rw [hclass]
  rfl

/-- The objects have the same size in both caches if they have it in one. -/
lemma EqualSizes.scaled (h : EqualSizes bytes c) (hs : Scaled 1 c c') : EqualSizes bytes c' := by
  intro id x' hx'
  obtain ⟨id, x, rfl, hx⟩ := hs.roster.residents.back id x' hx'
  rw [Word.multiple_one.mp (hs.roster.residents.related hx hx').profile.size]
  exact h id x hx

/-! ## One priority -/

/-- A scorer that always gives the same priority agrees with the order of admission. -/
lemma agree_of_constant (name : String) (k : Int) :
    Agree 1 (fun _ => True) (fun profile p p' => p = k ∧ p' = profile.entered.toNat)
      ⟨name, fun _ => .ok k⟩ .fifo := by
  intro c c' id x x' p p' hs _ hx hx' hp hp'
  obtain rfl := Except.ok.inj hp
  obtain rfl := Except.ok.inj hp'
  refine ⟨rfl, ?_⟩
  rw [← (hs.roster.residents.related hx hx').profile.entered]
  rfl

lemma keepsOrder_constant (k : Int) :
    KeepsOrder fun profile p p' => p = k ∧ p' = profile.entered.toNat := by
  rintro profile profile₁ _ _ _ _ older ⟨rfl, rfl⟩ ⟨rfl, rfl⟩ holder
  rw [UInt64.lt_iff_toNat_lt, ← Int.ofNat_lt] at holder
  simp only [Int.lt_irrefl, true_and, false_or, ← holder]
  exact ⟨Or.inl, fun h => h.elim id And.right⟩

/-- **Policies collapse at the ends of their parameters.**  Whatever the capacity, the budget for
ghosts and the calls, and whether sizes count or not, the answers and the counters of a run (or the
overflow with which it ends) are the same under

* the policy that remembers ghosts, with a window of no bytes, and least recent use;
* the policy that remembers ghosts, with a window larger than the budget for ghosts, and without a
  window;
* the policy that evicts larger objects first and least recent use, if every object counts as one
  byte, or if all the objects that are admitted in one of the two runs have the same size;
* a scorer that always gives the same priority, which is a signed integer of 128 bits, and the order
  of admission. -/
theorem policies_collapse (capacity budget : UInt64) (unitSizes : Bool) (calls : List Call) :
    outcome capacity budget unitSizes calls (.ghostLru (some 0)) =
      outcome capacity budget unitSizes calls .lru ∧
    (∀ window, budget < window →
      outcome capacity budget unitSizes calls (.ghostLru (some window)) =
        outcome capacity budget unitSizes calls (.ghostLru none)) ∧
    (unitSizes = true ∨ (∃ bytes,
        AdmitsOnly bytes (new capacity (.empty .largestFirst budget) unitSizes) calls ∨
        AdmitsOnly bytes (new capacity (.empty .lru budget) unitSizes) calls) →
      outcome capacity budget unitSizes calls .largestFirst =
        outcome capacity budget unitSizes calls .lru) ∧
    ∀ (name : String) (k : Int), -2 ^ 127 ≤ k → k < 2 ^ 127 →
      outcome capacity budget unitSizes calls ⟨name, fun _ => .ok k⟩ =
        outcome capacity budget unitSizes calls .fifo := by
  refine ⟨?_, fun window hwide => ?_, fun hsizes => ?_, fun name k hlow hhigh => ?_⟩
  · exact outcome_of_band oneBand_of_no_window (fun _ _ _ _ => trivial)
      (Or.inl fun _ _ _ _ _ => trivial)
  · refine (outcome_eq (Scorer.safe_composite (.ghostLru (some window)))
      (Scorer.safe_composite (.ghostLru none)) keepsOrder_same (agree_of_wide_window hwide)
      fun early answers c _ hrun => ?_).symm
    obtain ⟨hvalid, -, hbudget⟩ := ghosts_of_run hrun
    exact ⟨hvalid, hbudget⟩
  · obtain ⟨bytes, hsizes⟩ : ∃ bytes,
        AdmitsOnly bytes (new capacity (.empty .largestFirst budget) unitSizes) calls ∨
        AdmitsOnly bytes (new capacity (.empty .lru budget) unitSizes) calls := by
      rcases hsizes with rfl | hsizes
      · exact ⟨1, Or.inl (admitsOnly_of_requests fun _ _ _ => rfl)⟩
      · exact hsizes
    exact outcome_of_band oneBand_of_equal_sizes (fun c c' hs hsizes => hsizes.scaled hs)
      (hsizes.imp AdmitsOnly.throughout AdmitsOnly.throughout)
  · have hsafe : Scorer.Safe ⟨name, fun _ => .ok k⟩ := fun _ _ => ⟨k, rfl, hlow, hhigh⟩
    exact (outcome_eq hsafe (Scorer.safe_of_word _ fun scene => Or.inl rfl)
      (keepsOrder_constant k) (agree_of_constant name k) fun _ _ _ _ _ => trivial).symm

/-- Requests of one byte, and one that is too large to be admitted, in a cache of two bytes that
remembers three bytes of ghosts. -/
theorem collapsed_for_small_objects :
    ∃ calls answers tally,
      calls = [.request ⟨0, 1, 1⟩, .request ⟨0, 2, 1⟩, .request ⟨0, 1, 1⟩, .request ⟨0, 3, 1⟩,
        .request ⟨0, 4, 5⟩, .evict 0, .request ⟨0, 2, 1⟩, .request ⟨0, 5, 1⟩] ∧
      outcome 2 3 false calls .lru = .ok (answers, tally) ∧
      answers.map Answer.victims = [[], [], [], [⟨1, 2⟩], [], [⟨0, 1⟩], [], [⟨2, 3⟩]] ∧
      outcome 2 3 false calls (.ghostLru (some 0)) = .ok (answers, tally) ∧
      outcome 2 3 false calls .largestFirst = .ok (answers, tally) ∧
      outcome 2 3 false calls (.ghostLru (some 4)) = outcome 2 3 false calls (.ghostLru none) ∧
      outcome 2 3 false calls ⟨"flat", fun _ => .ok (-7)⟩ = outcome 2 3 false calls .fifo := by
  have hends : (fun done : List Answer × Tally => done.1.map Answer.victims) <$>
      outcome 2 3 false [.request ⟨0, 1, 1⟩, .request ⟨0, 2, 1⟩, .request ⟨0, 1, 1⟩,
        .request ⟨0, 3, 1⟩, .request ⟨0, 4, 5⟩, .evict 0, .request ⟨0, 2, 1⟩,
        .request ⟨0, 5, 1⟩] .lru =
      .ok [[], [], [], [⟨1, 2⟩], [], [⟨0, 1⟩], [], [⟨2, 3⟩]] := by
    cbv
  obtain ⟨⟨answers, tally⟩, hrun, hvictims⟩ := map_eq_ok.mp hends
  obtain ⟨hclosed, hwide, hequal, hflat⟩ := policies_collapse 2 3 false
    [.request ⟨0, 1, 1⟩, .request ⟨0, 2, 1⟩, .request ⟨0, 1, 1⟩, .request ⟨0, 3, 1⟩,
      .request ⟨0, 4, 5⟩, .evict 0, .request ⟨0, 2, 1⟩, .request ⟨0, 5, 1⟩]
  have hone := hequal (Or.inr ⟨1, Or.inr (admitsOnly_of_requests fun r hr hfits => by
    simp only [List.mem_cons, Call.request.injEq, reduceCtorEq, List.not_mem_nil, or_false,
      false_or] at hr
    rcases hr with rfl | rfl | rfl | rfl | rfl | rfl | rfl
    all_goals first | rfl | exact absurd hfits (by decide))⟩)
  exact ⟨_, answers, tally, rfl, hrun, hvictims, hclosed.trans hrun, hone.trans hrun,
    hwide 4 (by decide), hflat "flat" (-7) (by decide) (by decide)⟩

end Cache
end CacheSim
