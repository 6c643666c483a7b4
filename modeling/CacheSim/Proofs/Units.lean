import CacheSim.Proofs.GhostList
import CacheSim.Proofs.Matching
import CacheSim.Proofs.RankTree.Ranks
import CacheSim.Proofs.Scoring
import CacheSim.Proofs.Textbook.Precedence

/-!
# Sizes in another unit

Sizes, capacities, budgets and windows are numbers of bytes.  If all of them are multiplied by the
same positive factor, nothing can be told from comparing them: an object comes back within the
window if it did before, and its size has the same rank in the population.  So no policy of the
catalogue gives it another priority.

* `Word.Multiple`: a word that is so many times another one;
* `GhostLog.Scaled`: two logs of the same ghosts in different units; they give the same answers, and
  records keep them so;
* `Scene.Scaled`: what a policy is shown in different units;
* `PolicySettings.Scaled.priority_eq`: the policies do not see the unit.
-/

namespace CacheSim

variable {factor : Nat}

/-! ## Multiples -/

namespace Word

variable {a b a' b' s s' : UInt64}

/-- The second word is `factor` times the first one. -/
def Multiple (factor : Nat) (a a' : UInt64) : Prop :=
  a'.toNat = factor * a.toNat

lemma multiple_zero (factor : Nat) : Multiple factor 0 0 :=
  (Nat.mul_zero factor).symm

lemma Multiple.le_iff (hfactor : 0 < factor) (ha : Multiple factor a a')
    (hb : Multiple factor b b') : a' ≤ b' ↔ a ≤ b := by
  rw [UInt64.le_iff_toNat_le, UInt64.le_iff_toNat_le, ha, hb]
  exact Nat.mul_le_mul_left_iff hfactor

lemma Multiple.lt_iff (hfactor : 0 < factor) (ha : Multiple factor a a')
    (hb : Multiple factor b b') : a' < b' ↔ a < b := by
  rw [UInt64.lt_iff_toNat_lt, UInt64.lt_iff_toNat_lt, ha, hb]
  exact Nat.mul_lt_mul_left hfactor

lemma Multiple.add (ha : Multiple factor a a') (hb : Multiple factor b b')
    (hs : Word.add a b = .ok s) (hs' : Word.add a' b' = .ok s') : Multiple factor s s' := by
  rw [Word.add_eq_ok] at hs hs'
  rw [Multiple, ← hs', ha, hb, ← hs, Nat.mul_add]

lemma Multiple.sub (ha : Multiple factor a a') (hb : Multiple factor b b')
    (hs : Word.sub a b = .ok s) (hs' : Word.sub a' b' = .ok s') : Multiple factor s s' := by
  rw [Word.sub_eq_ok] at hs hs'
  rw [Multiple] at ha hb
  rw [ha, hb, hs, Nat.mul_add] at hs'
  exact (Nat.add_left_cancel hs').symm

/-- A word is once itself. -/
lemma multiple_one : Multiple 1 a a' ↔ a' = a := by
  rw [Multiple, Nat.one_mul, UInt64.toNat_inj]

end Word

/-! ## Features and ghosts -/

/-- The features of an object, with its size in another unit. -/
structure Profile.Scaled (factor : Nat) (p p' : Profile) : Prop where
  accesses : p'.accesses = p.accesses
  lastAccess : p'.lastAccess = p.lastAccess
  entered : p'.entered = p.entered
  size : Word.Multiple factor p.size p'.size

variable {p p' : Profile} {size size' : UInt64}

lemma Profile.Scaled.start (now : UInt64) (hsize : Word.Multiple factor size size') :
    (Profile.start now size).Scaled factor (.start now size') :=
  ⟨rfl, rfl, rfl, hsize⟩

lemma Profile.Scaled.touch (h : p.Scaled factor p') (now : UInt64) :
    (p.touch now).Scaled factor (p'.touch now) where
  accesses := by rw [Profile.touch, Profile.touch, h.accesses]
  lastAccess := rfl
  entered := h.entered
  size := h.size

lemma Profile.Scaled.age_eq (h : p.Scaled factor p') (now : UInt64) : p'.age now = p.age now := by
  rw [Profile.age, Profile.age, h.entered]

/-- A ghost, with its size in another unit. -/
structure Ghost.Scaled (factor : Nat) (ghost ghost' : Ghost) : Prop where
  id : ghost'.id = ghost.id
  size : Word.Multiple factor ghost.size ghost'.size
  accesses : ghost'.accesses = ghost.accesses
  age : ghost'.age = ghost.age

namespace GhostLog

/-- A log of ghosts, with its budget and their sizes in another unit. -/
structure Scaled (factor : Nat) (log log' : GhostLog) : Prop where
  valid : log.Valid
  valid' : log'.Valid
  budget : Word.Multiple factor log.budget log'.budget
  ghosts : List.Forall₂ (Ghost.Scaled factor) log.toList log'.toList

variable {log log' log₁ log₁' : GhostLog} {ghosts ghosts' : List Ghost} {ghost ghost' : Ghost}
variable {window window' passed passed' : UInt64}

lemma scaled_empty {budget budget' : UInt64} (h : Word.Multiple factor budget budget') :
    Scaled factor (empty budget) (empty budget') :=
  ⟨valid_empty budget, valid_empty budget', h, .nil⟩

lemma Scaled.clear (h : Scaled factor log log') : Scaled factor log.clear log'.clear :=
  ⟨valid_clear log, valid_clear log', h.budget, .nil⟩

lemma sizes_scaled (h : List.Forall₂ (Ghost.Scaled factor) ghosts ghosts') :
    sizes ghosts' = factor * sizes ghosts := by
  induction h with
  | nil => rfl
  | cons hghost _ ih =>
    rw [sizes_cons, sizes_cons, hghost.size, ih, Nat.mul_add]

/-- The bytes that are remembered are counted in the same units. -/
lemma Scaled.totalSize (h : Scaled factor log log') :
    Word.Multiple factor log.totalSize log'.totalSize := by
  rw [Word.Multiple, h.valid.totalSize_eq, h.valid'.totalSize_eq]
  exact sizes_scaled h.ghosts

/-- The same objects are remembered. -/
lemma Scaled.contains_eq (h : Scaled factor log log') (id : UInt64) :
    log'.contains id = log.contains id := by
  have hids : log'.toList.map Ghost.id = log.toList.map Ghost.id :=
    map_eq_of_forall₂ Ghost.id h.ghosts fun _ _ hghost => hghost.id
  have hany := congrArg (List.any · fun id' => id' == id) hids
  rw [List.any_map, List.any_map] at hany
  rw [h.valid.contains_eq, h.valid'.contains_eq]
  exact hany

section Positive

variable (hfactor : 0 < factor)
include hfactor

lemma newest_scaled (budget : Nat) (h : List.Forall₂ (Ghost.Scaled factor) ghosts ghosts') :
    List.Forall₂ (Ghost.Scaled factor) (newest budget ghosts)
      (newest (factor * budget) ghosts') := by
  refine fittingEnd_rel h fun later later' hlater => ?_
  change sizes later' ≤ factor * budget ↔ sizes later ≤ budget
  rw [sizes_scaled hlater, Nat.mul_le_mul_left_iff hfactor]

/-- The same ghost is recorded in both units. -/
lemma Scaled.record (h : Scaled factor log log') (hghost : ghost.Scaled factor ghost')
    (hrecord : log.record ghost = .ok log₁) (hrecord' : log'.record ghost' = .ok log₁') :
    Scaled factor log₁ log₁' := by
  obtain ⟨hlist, hbudget⟩ := h.valid.toList_record hrecord
  obtain ⟨hlist', hbudget'⟩ := h.valid'.toList_record hrecord'
  refine ⟨(h.valid.record hrecord).1, (h.valid'.record hrecord').1, ?_, ?_⟩
  · rw [hbudget, hbudget']
    exact h.budget
  · rw [hlist, hlist', h.budget]
    refine newest_scaled hfactor _
      (List.rel_append (List.rel_filter ?_ h.ghosts) (.cons hghost .nil))
    intro ghost₁ ghost₁' h₁
    dsimp only
    rw [h₁.id, hghost.id]

/-- A search stops at the same ghost, as long as the bytes can be counted in both units. -/
lemma scan_scaled (id : UInt64) (h : List.Forall₂ (Ghost.Scaled factor) ghosts ghosts')
    (hwindow : Word.Multiple factor window window')
    (hpassed : Word.Multiple factor passed passed')
    (hroom : passed'.toNat + sizes ghosts' < 2 ^ 64) :
    scan id window' passed' ghosts' = scan id window passed ghosts := by
  induction h generalizing passed passed' with
  | nil => rfl
  | @cons ghost ghost' older older' hghost holder ih =>
    rw [sizes_cons] at hroom
    rw [scan, scan, hghost.id]
    simp only [hwindow.le_iff hfactor hpassed]
    split
    · rfl
    · split
      · rfl
      · have hle : passed.toNat + ghost.size.toNat ≤ factor * (passed.toNat + ghost.size.toNat) :=
          Nat.le_mul_of_pos_left _ hfactor
        rw [Nat.mul_add, ← hpassed, ← hghost.size] at hle
        obtain ⟨next, hnext⟩ := Word.exists_add
          (show passed.toNat + ghost.size.toNat < UInt64.size by change _ < 2 ^ 64; omega)
        obtain ⟨next', hnext'⟩ := Word.exists_add
          (show passed'.toNat + ghost'.size.toNat < UInt64.size by change _ < 2 ^ 64; omega)
        rw [hnext, hnext']
        have hsum := Word.add_eq_ok.mp hnext'
        exact ih (hpassed.add hghost.size hnext hnext') (by omega)

/-- The same objects have been evicted within a window. -/
lemma Scaled.withinLast_eq (h : Scaled factor log log') (id : UInt64)
    (hwindow : Word.Multiple factor window window') :
    log'.withinLast id window' = log.withinLast id window := by
  rw [h.valid.withinLast_eq, h.valid'.withinLast_eq]
  refine scan_scaled hfactor id (List.forall₂_reverse_iff.mpr h.ghosts) hwindow
    (Word.multiple_zero factor) ?_
  have hbytes : sizes log'.toList.reverse = log'.bytes := (log'.toList.reverse_perm.map _).sum_nat
  have hlt := log'.totalSize.toNat_lt
  rw [hbytes, ← h.valid'.totalSize_eq]
  simpa using hlt

end Positive

end GhostLog

/-! ## Policies -/

/-- What a policy is shown, with all sizes in another unit. -/
structure Scene.Scaled (factor : Nat) (s s' : Scene) : Prop where
  now : s'.now = s.now
  id : s'.id = s.id
  profile : s.profile.Scaled factor s'.profile
  counts : ∃ l, s.counts.Holds l ∧ s'.counts.Holds l
  entered : ∃ l, s.entered.Holds l ∧ s'.entered.Holds l
  sizes : ∃ l l', s.sizes.Holds l ∧ s'.sizes.Holds l' ∧ List.Forall₂ (Word.Multiple factor) l l'
  ghosts : s.ghosts.Scaled factor s'.ghosts

/-- The same policy, with its parameter in another unit if it is a number of bytes. -/
inductive Composite.Scaled (factor : Nat) : Composite → Composite → Prop where
  | lfuLru : Scaled factor .lfuLru .lfuLru
  | percentileLfu (p : Float) : Scaled factor (.percentileLfu p) (.percentileLfu p)
  | ghostLru {window window' : Option UInt64} :
      Option.Rel (Word.Multiple factor) window window' →
      Scaled factor (.ghostLru window) (.ghostLru window')
  | largestFirst : Scaled factor .largestFirst .largestFirst
  | ageGated (p : Float) : Scaled factor (.ageGated p) (.ageGated p)

/-- Settings of a policy, with the window in another unit. -/
structure PolicySettings.Scaled (factor : Nat) (s s' : PolicySettings) : Prop where
  policy : s'.policy = s.policy
  countPercentile : s'.countPercentile = s.countPercentile
  agePercentile : s'.agePercentile = s.agePercentile
  ghostWindow : Option.Rel (Word.Multiple factor) s.ghostWindow s'.ghostWindow

variable {s s' : Scene}

lemma Textbook.key_scaled (policy : Textbook) (h : p.Scaled factor p') :
    policy.key p' = policy.key p := by
  cases policy <;> simp only [Textbook.key, h.accesses, h.lastAccess, h.entered]

/-- As many members of the population are smaller. -/
lemma rank_sizes_scaled (hfactor : 0 < factor) {l l' : List UInt64}
    (hl : List.Forall₂ (Word.Multiple factor) l l') (hsize : Word.Multiple factor size size') :
    l'.countP (fun a => compare a size' == .lt) = l.countP fun a => compare a size == .lt := by
  induction hl with
  | nil => rfl
  | @cons a a' _ _ ha _ ih =>
    have hlt : (compare a' size' == .lt) = (compare a size == .lt) := by
      rw [Bool.eq_iff_iff, beq_iff_eq, beq_iff_eq, Std.compare_eq_lt, Std.compare_eq_lt,
        ha.lt_iff hfactor hsize]
    rw [List.countP_cons, List.countP_cons, ih, hlt]

lemma Textbook.priority_scaled (policy : Textbook) (h : s.Scaled factor s') :
    policy.scorer.priority s' = policy.scorer.priority s := by
  rw [Textbook.scorer_priority, Textbook.scorer_priority, policy.key_scaled h.profile]

section Positive

variable (hfactor : 0 < factor)
include hfactor

lemma isReturning_scaled (h : s.Scaled factor s') {window window' : Option UInt64}
    (hwindow : Option.Rel (Word.Multiple factor) window window') :
    Scorer.isReturning window' s' = Scorer.isReturning window s := by
  cases hwindow with
  | none =>
    change Except.ok (s'.ghosts.contains s'.id) = Except.ok (s.ghosts.contains s.id)
    rw [h.id, h.ghosts.contains_eq]
  | some hbytes =>
    change s'.ghosts.withinLast s'.id _ = s.ghosts.withinLast s.id _
    rw [h.id, h.ghosts.withinLast_eq hfactor _ hbytes]

lemma sizeClass_scaled (h : s.Scaled factor s') :
    Scorer.sizeClass s'.sizes s'.profile.size = Scorer.sizeClass s.sizes s.profile.size := by
  obtain ⟨l, l', hsizes, hsizes', hl⟩ := h.sizes
  rw [Scorer.sizeClass, Scorer.sizeClass, hsizes.rank_eq, hsizes'.rank_eq,
    rank_sizes_scaled hfactor hl h.profile.size, hsizes.size_eq, hsizes'.size_eq, hl.length_eq]

lemma Composite.Scaled.band_eq {policy policy' : Composite} (hpolicy : policy.Scaled factor policy')
    (h : s.Scaled factor s') : policy'.band s' = policy.band s := by
  cases hpolicy with
  | lfuLru => rw [band, band, h.profile.accesses]
  | percentileLfu p =>
    obtain ⟨l, hcounts, hcounts'⟩ := h.counts
    rw [band, band, h.profile.accesses, hcounts.percentile_eq hcounts']
  | ghostLru hwindow => rw [band, band, isReturning_scaled hfactor h hwindow]
  | largestFirst => rw [band, band, sizeClass_scaled hfactor h]
  | ageGated p =>
    obtain ⟨l, hentered, hentered'⟩ := h.entered
    rw [band, band, h.now, h.profile.age_eq, Scene.ages, Scene.ages, Ages.percentile,
      Ages.percentile, h.now, hentered.percentile_eq hentered']

lemma Composite.Scaled.priority_eq {policy policy' : Composite}
    (hpolicy : policy.Scaled factor policy') (h : s.Scaled factor s') :
    policy'.scorer.priority s' = policy.scorer.priority s := by
  rw [scorer_priority, scorer_priority, hpolicy.band_eq hfactor h, h.profile.lastAccess]

/-- No policy of the catalogue sees the unit. -/
lemma PolicySettings.Scaled.priority_eq {settings settings' : PolicySettings}
    (hsettings : settings.Scaled factor settings') {scorer scorer' : Scorer}
    (hscorer : settings.scorer = .ok scorer) (hscorer' : settings'.scorer = .ok scorer')
    (h : s.Scaled factor s') : scorer'.priority s' = scorer.priority s := by
  rw [PolicySettings.scorer] at hscorer
  rw [PolicySettings.scorer, hsettings.policy, hsettings.countPercentile,
    hsettings.agePercentile] at hscorer'
  have hsame : ∀ {x x' : Scorer}, x'.priority s' = x.priority s →
      (Except.ok x : Except SetupError Scorer) = .ok scorer →
      (Except.ok x' : Except SetupError Scorer) = .ok scorer' →
      scorer'.priority s' = scorer.priority s := by
    rintro _ _ heq ⟨⟩ ⟨⟩
    exact heq
  cases hpolicy : settings.policy <;> rw [hpolicy] at hscorer hscorer'
  case lru => exact hsame (Textbook.lru.priority_scaled h) hscorer hscorer'
  case mru => exact hsame (Textbook.mru.priority_scaled h) hscorer hscorer'
  case fifo => exact hsame (Textbook.fifo.priority_scaled h) hscorer hscorer'
  case lfu => exact hsame (Textbook.lfu.priority_scaled h) hscorer hscorer'
  case lfuLru => exact hsame (Composite.Scaled.lfuLru.priority_eq hfactor h) hscorer hscorer'
  case percentileLfu =>
    obtain ⟨p, hp, rfl⟩ := map_eq_ok.mp hscorer
    obtain ⟨p', hp', rfl⟩ := map_eq_ok.mp hscorer'
    obtain rfl := Except.ok.inj (hp.symm.trans hp')
    exact (Composite.Scaled.percentileLfu p).priority_eq hfactor h
  case ghostLru =>
    exact hsame ((Composite.Scaled.ghostLru hsettings.ghostWindow).priority_eq hfactor h) hscorer
      hscorer'
  case largestFirst =>
    exact hsame (Composite.Scaled.largestFirst.priority_eq hfactor h) hscorer hscorer'
  case ageGated =>
    obtain ⟨p, hp, rfl⟩ := map_eq_ok.mp hscorer
    obtain ⟨p', hp', rfl⟩ := map_eq_ok.mp hscorer'
    obtain rfl := Except.ok.inj (hp.symm.trans hp')
    exact (Composite.Scaled.ageGated p).priority_eq hfactor h

end Positive

end CacheSim
