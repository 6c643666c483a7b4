import CacheSim.Proofs.GhostList
import CacheSim.Proofs.RankTree.Ranks
import CacheSim.Proofs.Scoring
import CacheSim.Proofs.Textbook.Precedence

/-!
# Policies compare times and do not count them

No policy of the catalogue makes anything of a time but to compare it with other times, and none
makes anything of an object but to ask whether it is remembered.  So a scorer that is shown the same
population at other times, under other names, puts the object into the same band, and puts it before
the same objects of the population.

* `Timetable`: pairs of times that stand for each other, one of each of two clocks;
* `Scene.Alike`: two scenes that differ by times and names;
* `Scorer.Timeless`: what has been said, of one scorer;
* `PolicySettings.exists_timeless`: it is true of every policy of the catalogue.
-/

namespace CacheSim

/-! ## Two clocks -/

/-- Pairs of times that stand for each other on two clocks, up to the present of both.  If the first
clock is always ahead by the same time, that is `lead`. -/
structure Timetable (lead : Option Nat) (τ : UInt64 → UInt64 → Prop) (now now' : UInt64) :
    Prop where
  lt_iff : ∀ a a' b b', τ a a' → τ b b' → (a < b ↔ a' < b')
  le_now : ∀ a a', τ a a' → a ≤ now ∧ a' ≤ now'
  lead_eq : ∀ k ∈ lead, now.toNat = now'.toNat + k ∧ ∀ a a', τ a a' → a.toNat = a'.toNat + k

/-- The pairs of times with the present of both clocks. -/
def Timetable.extend (τ : UInt64 → UInt64 → Prop) (now now' : UInt64) (a a' : UInt64) : Prop :=
  τ a a' ∨ a = now ∧ a' = now'

namespace Timetable

variable {lead : Option Nat} {τ : UInt64 → UInt64 → Prop} {now now' later later' : UInt64}

lemma start (k : Nat) (h : now.toNat = now'.toNat + k) (hlead : ∀ m ∈ lead, m = k) :
    Timetable lead (fun _ _ => False) now now' :=
  ⟨fun _ _ _ _ ha => ha.elim, fun _ _ ha => ha.elim,
    fun m hm => ⟨hlead m hm ▸ h, fun _ _ ha => ha.elim⟩⟩

lemma lt_of_add_one (h : Word.add now 1 = .ok later) : now < later := by
  have hsum := Word.add_eq_ok.mp h
  have hone : (1 : UInt64).toNat = 1 := rfl
  rw [UInt64.lt_iff_toNat_lt]
  omega

/-- Both clocks move on. -/
lemma tick (h : Timetable lead τ now now') (hnow : Word.add now 1 = .ok later)
    (hnow' : Word.add now' 1 = .ok later') :
    Timetable lead (extend τ later later') later later' where
  lt_iff := by
    have hlt := UInt64.lt_iff_toNat_lt.mp (lt_of_add_one hnow)
    have hlt' := UInt64.lt_iff_toNat_lt.mp (lt_of_add_one hnow')
    rintro a a' b b' (ha | ⟨rfl, rfl⟩) (hb | ⟨rfl, rfl⟩)
    · exact h.lt_iff a a' b b' ha hb
    · have hle := h.le_now a a' ha
      simp only [UInt64.le_iff_toNat_le, UInt64.lt_iff_toNat_lt] at hle ⊢
      omega
    · have hle := h.le_now b b' hb
      simp only [UInt64.le_iff_toNat_le, UInt64.lt_iff_toNat_lt] at hle ⊢
      omega
    · simp only [UInt64.lt_irrefl]
  le_now := by
    rintro a a' (ha | ⟨rfl, rfl⟩)
    · obtain ⟨hle, hle'⟩ := h.le_now a a' ha
      exact ⟨UInt64.le_of_lt (UInt64.lt_of_le_of_lt hle (lt_of_add_one hnow)),
        UInt64.le_of_lt (UInt64.lt_of_le_of_lt hle' (lt_of_add_one hnow'))⟩
    · exact ⟨UInt64.le_refl _, UInt64.le_refl _⟩
  lead_eq := fun k hk => by
    obtain ⟨hlead, htimes⟩ := h.lead_eq k hk
    have hsum := Word.add_eq_ok.mp hnow
    have hsum' := Word.add_eq_ok.mp hnow'
    have hlater : later.toNat = later'.toNat + k := by omega
    refine ⟨hlater, ?_⟩
    rintro a a' (ha | ⟨rfl, rfl⟩)
    · exact htimes a a' ha
    · exact hlater

/-- The first clock moves on alone, so that it is not ahead by the same time any more. -/
lemma wait (h : Timetable none τ now now') (hnow : Word.add now 1 = .ok later) :
    Timetable none τ later now' where
  lt_iff := h.lt_iff
  le_now := fun a a' ha => by
    obtain ⟨hle, hle'⟩ := h.le_now a a' ha
    exact ⟨UInt64.le_of_lt (UInt64.lt_of_le_of_lt hle (lt_of_add_one hnow)), hle'⟩
  lead_eq := fun k hk => absurd hk (Option.not_mem_none k)

/-- Paired times lie in the past of both clocks. -/
lemma past (h : Timetable lead τ now now') {l l' : List UInt64} (hl : List.Forall₂ τ l l') :
    (∀ a ∈ l, a ≤ now) ∧ ∀ a' ∈ l', a' ≤ now' := by
  induction hl with
  | nil => simp
  | cons ha _ ih =>
    obtain ⟨hle, hle'⟩ := h.le_now _ _ ha
    exact ⟨List.forall_mem_cons.mpr ⟨hle, ih.1⟩, List.forall_mem_cons.mpr ⟨hle', ih.2⟩⟩

end Timetable

/-! ## Objects and scenes -/

/-- The features of two objects, of which only the times differ. -/
structure Profile.Alike (τ : UInt64 → UInt64 → Prop) (p p' : Profile) : Prop where
  accesses : p'.accesses = p.accesses
  lastAccess : τ p.lastAccess p'.lastAccess
  size : p'.size = p.size
  entered : τ p.entered p'.entered

namespace Profile.Alike

variable {τ τ' : UInt64 → UInt64 → Prop} {p p' : Profile} {now now' : UInt64}

lemma mono (h : p.Alike τ p') (hτ : ∀ a a', τ a a' → τ' a a') : p.Alike τ' p' :=
  ⟨h.accesses, hτ _ _ h.lastAccess, h.size, hτ _ _ h.entered⟩

lemma start (hnow : τ now now') (size : UInt64) :
    (Profile.start now size).Alike τ (Profile.start now' size) :=
  ⟨rfl, hnow, rfl, hnow⟩

lemma touch (h : p.Alike τ p') (hnow : τ now now') : (p.touch now).Alike τ (p'.touch now') := by
  refine ⟨?_, hnow, h.size, h.entered⟩
  simp only [Profile.touch, h.accesses]

/-- If the first clock is always ahead by the same time, the ages are the same. -/
lemma age_eq {k : Nat} (h : p.Alike τ p') (hτ : ∀ a a', τ a a' → a.toNat = a'.toNat + k)
    (hnow : now.toNat = now'.toNat + k) : p'.age now' = p.age now := by
  have hentered := hτ _ _ h.entered
  rw [← UInt64.toNat_inj, Profile.age, Profile.age, Word.toNat_monus, Word.toNat_monus]
  omega

end Profile.Alike

/-- Two scenes with the same population at other times, where an object that is called `id` in the
first one is called `f id` in the second. -/
structure Scene.Alike (f : ObjectId → ObjectId) (τ : UInt64 → UInt64 → Prop) (s s' : Scene) :
    Prop where
  id : s'.id = f s.id
  profile : s.profile.Alike τ s'.profile
  counts : ∃ l, s.counts.Holds l ∧ s'.counts.Holds l
  /-- The population is not empty. -/
  entered : ∃ l l', s.entered.Holds l ∧ s'.entered.Holds l' ∧ List.Forall₂ τ l l' ∧ l ≠ []
  sizes : ∃ l, s.sizes.Holds l ∧ s'.sizes.Holds l
  ghosts : ∃ ages, GhostLog.Alike f ages s.ghosts s'.ghosts

/-! ## Timeless policies -/

/-- A policy that puts an object into the same band, and before the same objects, in any scenes that
are alike. -/
structure Scorer.Timeless (scorer : Scorer) (band : Scene → Except Fault Int)
    (place : Int → Profile → Int) : Prop where
  priority_eq : ∀ scene, scorer.priority scene = (fun b => place b scene.profile) <$> band scene
  band_eq : ∀ {f : ObjectId → ObjectId} {lead τ} {s s' : Scene}, Function.Injective f →
    Timetable lead τ s.now s'.now → s.Alike f τ s' → band s' = band s
  place_lt : ∀ {lead τ now now'} (b₁ b₂ : Int) {p p' q q' : Profile},
    Timetable lead τ now now' → p.Alike τ p' → q.Alike τ q' →
      (place b₁ p < place b₂ q ↔ place b₁ p' < place b₂ q')

variable {f : ObjectId → ObjectId} {lead : Option Nat} {τ : UInt64 → UInt64 → Prop}
variable {s s' : Scene} {now now' : UInt64} {b b' : Int} {p p' q q' : Profile}

/-- Priorities that are given in scenes that are alike have the band in common. -/
lemma Scorer.Timeless.exists_band {scorer : Scorer} {band : Scene → Except Fault Int}
    {place : Int → Profile → Int} (h : scorer.Timeless band place)
    (hf : Function.Injective f) (htime : Timetable lead τ s.now s'.now) (hs : s.Alike f τ s')
    {priority priority' : Int} (hp : scorer.priority s = .ok priority)
    (hp' : scorer.priority s' = .ok priority') :
    ∃ b, priority = place b s.profile ∧ priority' = place b s'.profile := by
  rw [h.priority_eq, map_eq_ok] at hp hp'
  obtain ⟨b, hb, rfl⟩ := hp
  obtain ⟨b', hb', rfl⟩ := hp'
  rw [h.band_eq hf htime hs, hb] at hb'
  obtain rfl := Except.ok.inj hb'
  exact ⟨b, rfl, rfl⟩

lemma banded_lt_iff (htime : Timetable lead τ now now') (hp : p.Alike τ p') (hq : q.Alike τ q') :
    banded b p.lastAccess < banded b' q.lastAccess ↔
      banded b p'.lastAccess < banded b' q'.lastAccess := by
  have hlt := htime.lt_iff _ _ _ _ hp.lastAccess hq.lastAccess
  rw [UInt64.lt_iff_toNat_lt, UInt64.lt_iff_toNat_lt] at hlt
  rw [banded_lt_banded_iff, banded_lt_banded_iff, hlt]

namespace Textbook

/-- The textbook policies have no bands. -/
lemma timeless (policy : Textbook) :
    policy.scorer.Timeless (fun _ => .ok 0) fun _ profile => policy.key profile where
  priority_eq := policy.scorer_priority
  band_eq := fun _ _ _ => rfl
  place_lt := fun {_ _ _ _} _ _ {p p' q q'} htime hp hq => by
    have hlast := htime.lt_iff _ _ _ _ hp.lastAccess hq.lastAccess
    have hlast' := htime.lt_iff _ _ _ _ hq.lastAccess hp.lastAccess
    have hentered := htime.lt_iff _ _ _ _ hp.entered hq.entered
    rw [UInt64.lt_iff_toNat_lt, UInt64.lt_iff_toNat_lt] at hlast hlast' hentered
    cases policy with
    | lru =>
      change (p.lastAccess.toNat : Int) < q.lastAccess.toNat ↔
        (p'.lastAccess.toNat : Int) < q'.lastAccess.toNat
      omega
    | mru =>
      change -(p.lastAccess.toNat : Int) < -(q.lastAccess.toNat : Int) ↔
        -(p'.lastAccess.toNat : Int) < -(q'.lastAccess.toNat : Int)
      omega
    | fifo =>
      change (p.entered.toNat : Int) < q.entered.toNat ↔
        (p'.entered.toNat : Int) < q'.entered.toNat
      omega
    | lfu =>
      change (p.accesses.toNat : Int) < q.accesses.toNat ↔
        (p'.accesses.toNat : Int) < q'.accesses.toNat
      rw [hp.accesses, hq.accesses]
    | lfuLru =>
      change banded p.accesses.toNat p.lastAccess < banded q.accesses.toNat q.lastAccess ↔
        banded p'.accesses.toNat p'.lastAccess < banded q'.accesses.toNat q'.lastAccess
      rw [hp.accesses, hq.accesses]
      exact banded_lt_iff htime hp hq

end Textbook

/-! ## What bands depend on -/

/-- Whether an object comes back shortly after its eviction can be told from the ghosts alone. -/
lemma isReturning_alike (hf : Function.Injective f) (h : s.Alike f τ s') (window : Option UInt64) :
    Scorer.isReturning window s' = Scorer.isReturning window s := by
  obtain ⟨ages, hghosts⟩ := h.ghosts
  cases window with
  | none =>
    change Except.ok (s'.ghosts.contains s'.id) = Except.ok (s.ghosts.contains s.id)
    rw [h.id, hghosts.contains_eq hf]
  | some bytes =>
    change s'.ghosts.withinLast s'.id bytes = s.ghosts.withinLast s.id bytes
    rw [h.id, hghosts.withinLast_eq hf]

/-- The size class of an object is its rank in the population. -/
lemma sizeClass_alike (h : s.Alike f τ s') :
    Scorer.sizeClass s'.sizes s'.profile.size = Scorer.sizeClass s.sizes s.profile.size := by
  obtain ⟨l, hsizes, hsizes'⟩ := h.sizes
  rw [Scorer.sizeClass, Scorer.sizeClass, h.profile.size, hsizes.rank_eq, hsizes'.rank_eq,
    hsizes.size_eq, hsizes'.size_eq]

/-- As many members of the population were admitted before the object. -/
lemma rank_entered_alike (htime : Timetable lead τ now now') {l l' : List UInt64}
    (hl : List.Forall₂ τ l l') {e e' : UInt64} (he : τ e e') :
    l'.countP (fun a => compare a e' == .lt) = l.countP fun a => compare a e == .lt := by
  induction hl with
  | nil => rfl
  | @cons a a' _ _ ha _ ih =>
    have hlt : (compare a' e' == .lt) = (compare a e == .lt) := by
      rw [Bool.eq_iff_iff, beq_iff_eq, beq_iff_eq, Std.compare_eq_lt, Std.compare_eq_lt,
        htime.lt_iff _ _ _ _ ha he]
    rw [List.countP_cons, List.countP_cons, ih, hlt]

/-- An object has reached a percentile of the ages exactly if no more members of the population were
admitted before it than come before the percentile. -/
lemma percentile_ages_le_iff {l : List UInt64} (hl : s.entered.Holds l) (hne : l ≠ [])
    (hpast : ∀ e ∈ l, e ≤ s.now) (hentered : s.profile.entered ≤ s.now) (p : Float) :
    s.ages.percentile p ≤ s.profile.age s.now ↔
      l.countP (fun e => compare e s.profile.entered == .lt) ≤
        quantileIndex (clampUnit (1.0 - p)) l.length := by
  have hle := hpast _ (hl.percentile_mem hne (clampUnit (1.0 - p)))
  have hlt := hl.percentile_lt_iff hne (clampUnit (1.0 - p)) s.profile.entered
  rw [hl.rank_eq, hl.size_eq, Std.compare_eq_lt, UInt64.lt_iff_toNat_lt] at hlt
  rw [UInt64.le_iff_toNat_le] at hle hentered
  rw [Scene.ages, Ages.percentile, Profile.age, UInt64.le_iff_toNat_le, Word.toNat_monus,
    Word.toNat_monus, ← Nat.not_lt (b := List.countP _ _), ← hlt]
  dsimp only
  omega

/-- So it is the same whenever the population was admitted in the same order. -/
lemma ages_alike (htime : Timetable lead τ s.now s'.now) (h : s.Alike f τ s') (p : Float) :
    s'.ages.percentile p ≤ s'.profile.age s'.now ↔
      s.ages.percentile p ≤ s.profile.age s.now := by
  obtain ⟨l, l', hl, hl', hpairs, hne⟩ := h.entered
  obtain ⟨hpast, hpast'⟩ := htime.past hpairs
  have hne' : l' ≠ [] := by
    rintro rfl
    exact hne (List.forall₂_nil_right_iff.mp hpairs)
  obtain ⟨hentered, hentered'⟩ := htime.le_now _ _ h.profile.entered
  rw [percentile_ages_le_iff hl hne hpast hentered,
    percentile_ages_le_iff hl' hne' hpast' hentered',
    rank_entered_alike htime hpairs h.profile.entered, hpairs.length_eq]

namespace Composite

lemma band_alike (policy : Composite) (hf : Function.Injective f)
    (htime : Timetable lead τ s.now s'.now) (h : s.Alike f τ s') :
    policy.band s' = policy.band s := by
  cases policy with
  | lfuLru =>
    change Except.ok (s'.profile.accesses.toNat : Int) = Except.ok (s.profile.accesses.toNat : Int)
    rw [h.profile.accesses]
  | percentileLfu p =>
    obtain ⟨l, hcounts, hcounts'⟩ := h.counts
    rw [band, band, h.profile.accesses, hcounts.percentile_eq hcounts']
  | ghostLru window => rw [band, band, isReturning_alike hf h]
  | largestFirst => rw [band, band, sizeClass_alike h]
  | ageGated p => simp only [band, ages_alike htime h p]

/-- The composite policies order the objects of a band by their latest requests. -/
lemma timeless (policy : Composite) :
    policy.scorer.Timeless policy.band fun b profile => banded b profile.lastAccess where
  priority_eq := policy.scorer_priority
  band_eq := policy.band_alike
  place_lt := fun _ _ => banded_lt_iff

end Composite

/-- Every policy of the catalogue compares times and does not count them. -/
lemma PolicySettings.exists_timeless {settings : PolicySettings} {scorer : Scorer}
    (h : settings.scorer = .ok scorer) : ∃ band place, scorer.Timeless band place := by
  rw [PolicySettings.scorer] at h
  cases hpolicy : settings.policy with
  | lru =>
    rw [hpolicy] at h
    obtain rfl := Except.ok.inj h
    exact ⟨_, _, Textbook.timeless .lru⟩
  | mru =>
    rw [hpolicy] at h
    obtain rfl := Except.ok.inj h
    exact ⟨_, _, Textbook.timeless .mru⟩
  | fifo =>
    rw [hpolicy] at h
    obtain rfl := Except.ok.inj h
    exact ⟨_, _, Textbook.timeless .fifo⟩
  | lfu =>
    rw [hpolicy] at h
    obtain rfl := Except.ok.inj h
    exact ⟨_, _, Textbook.timeless .lfu⟩
  | lfuLru =>
    rw [hpolicy] at h
    obtain rfl := Except.ok.inj h
    exact ⟨_, _, Composite.timeless .lfuLru⟩
  | percentileLfu =>
    rw [hpolicy] at h
    obtain ⟨p, -, rfl⟩ := map_eq_ok.mp h
    exact ⟨_, _, Composite.timeless (.percentileLfu p)⟩
  | ghostLru =>
    rw [hpolicy] at h
    obtain rfl := Except.ok.inj h
    exact ⟨_, _, Composite.timeless (.ghostLru _)⟩
  | largestFirst =>
    rw [hpolicy] at h
    obtain rfl := Except.ok.inj h
    exact ⟨_, _, Composite.timeless .largestFirst⟩
  | ageGated =>
    rw [hpolicy] at h
    obtain ⟨p, -, rfl⟩ := map_eq_ok.mp h
    exact ⟨_, _, Composite.timeless (.ageGated p)⟩

end CacheSim
