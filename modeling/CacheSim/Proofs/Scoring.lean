import CacheSim.Policy
import CacheSim.Proofs.GhostLog

/-!
# Bands and priorities

The composite policies put an object into a band and order the objects of a band by the times of
their latest requests.  `Composite.band` is the band alone; it is a small number for every scene.
So are the priorities: whatever a policy of the catalogue is shown, it answers with an integer of
less than 128 bits, provided that the ghosts it may look at are counted right.

* `Composite.scorer_priority`: a composite priority is the time of the latest request in its band;
* `PolicySettings.safe_of_scorer`: no policy of the catalogue ever fails to give a priority.
-/

namespace CacheSim

/-- The policies that divide the objects into bands. -/
inductive Composite where
  | lfuLru
  | percentileLfu (p : Float)
  | ghostLru (window : Option UInt64)
  | largestFirst
  | ageGated (p : Float)

namespace Composite

/-- The scorer of a policy. -/
def scorer : Composite → Scorer
  | lfuLru => .lfuLru
  | percentileLfu p => .percentileLfu p
  | ghostLru window => .ghostLru window
  | largestFirst => .largestFirst
  | ageGated p => .ageGated p

/-- The band of the object of a scene. -/
def band (scene : Scene) : Composite → Except Fault Int
  | lfuLru => .ok scene.profile.accesses.toNat
  | percentileLfu p => .ok (if scene.profile.accesses < scene.counts.percentile p then 0 else 1)
  | ghostLru window =>
    (fun returning => if returning then 1 else 0) <$> Scorer.isReturning window scene
  | largestFirst =>
    .ok (Scorer.sizeClasses - 1 - Scorer.sizeClass scene.sizes scene.profile.size)
  | ageGated p =>
    .ok (if scene.ages.percentile p ≤ scene.profile.age scene.now then 0 else 1)

variable {policy : Composite} {scene : Scene} {b b' : Int} {t t' : UInt64}

lemma scorer_priority (policy : Composite) (scene : Scene) :
    policy.scorer.priority scene =
      (fun b => banded b scene.profile.lastAccess) <$> policy.band scene := by
  cases policy with
  | ghostLru window =>
    change (Scorer.isReturning window scene >>= _) = _ <$> _ <$> Scorer.isReturning window scene
    cases Scorer.isReturning window scene <;> rfl
  | _ => rfl

lemma band_range (h : policy.band scene = .ok b) : 0 ≤ b ∧ b < 2 ^ 32 := by
  cases policy with
  | lfuLru =>
    have hlt := scene.profile.accesses.toNat_lt
    obtain rfl := Except.ok.inj h
    omega
  | percentileLfu p =>
    obtain rfl := Except.ok.inj h
    split <;> decide
  | ghostLru window =>
    obtain ⟨returning, -, rfl⟩ := map_eq_ok.mp h
    cases returning <;> decide
  | largestFirst =>
    have hle : Scorer.sizeClass scene.sizes scene.profile.size ≤ 9 := Nat.min_le_right _ _
    have hclasses : (Scorer.sizeClasses : Int) = 10 := rfl
    obtain rfl := Except.ok.inj h
    omega
  | ageGated p =>
    obtain rfl := Except.ok.inj h
    split <;> decide

/-- The only thing that a policy has to search is the ghosts. -/
lemma exists_band (policy : Composite) (h : scene.ghosts.Valid) :
    ∃ b, policy.band scene = .ok b := by
  cases policy with
  | ghostLru window =>
    have hfound : ∃ returning, Scorer.isReturning window scene = .ok returning := by
      cases window with
      | none => exact ⟨_, rfl⟩
      | some bytes => exact h.exists_withinLast scene.id bytes
    obtain ⟨returning, hreturning⟩ := hfound
    exact ⟨_, map_eq_ok.mpr ⟨returning, hreturning, rfl⟩⟩
  | _ => exact ⟨_, rfl⟩

end Composite

/-! ## Priorities in range -/

namespace Scorer

/-- The ghosts being counted right, a scorer gives every object a priority, and that is a signed
integer of 128 bits. -/
def Safe (scorer : Scorer) : Prop :=
  ∀ scene : Scene, scene.ghosts.Valid →
    ∃ p : Int, scorer.priority scene = .ok p ∧ -2 ^ 127 ≤ p ∧ p < 2 ^ 127

lemma safe_of_word {scorer : Scorer} (time : Scene → UInt64)
    (h : ∀ scene, scorer.priority scene = .ok ((time scene).toNat : Int) ∨
      scorer.priority scene = .ok (-((time scene).toNat : Int))) : scorer.Safe := by
  intro scene _
  have hlt := (time scene).toNat_lt
  rcases h scene with hp | hp
  · exact ⟨_, hp, by omega, by omega⟩
  · exact ⟨_, hp, by omega, by omega⟩

lemma safe_composite (policy : Composite) : policy.scorer.Safe := by
  intro scene hghosts
  obtain ⟨b, hband⟩ := policy.exists_band hghosts
  obtain ⟨hlow, hhigh⟩ := Composite.band_range hband
  have hlt := scene.profile.lastAccess.toNat_lt
  have hpriority := policy.scorer_priority scene
  rw [hband] at hpriority
  refine ⟨banded b scene.profile.lastAccess, hpriority, ?_⟩
  rw [banded_eq]
  omega

end Scorer

/-- No policy of the catalogue ever fails to give a priority. -/
lemma PolicySettings.safe_of_scorer {settings : PolicySettings} {scorer : Scorer}
    (h : settings.scorer = .ok scorer) : scorer.Safe := by
  rw [PolicySettings.scorer] at h
  cases hpolicy : settings.policy with
  | lru =>
    rw [hpolicy] at h
    obtain rfl := Except.ok.inj h
    exact Scorer.safe_of_word _ fun scene => Or.inl rfl
  | mru =>
    rw [hpolicy] at h
    obtain rfl := Except.ok.inj h
    exact Scorer.safe_of_word _ fun scene => Or.inr rfl
  | fifo =>
    rw [hpolicy] at h
    obtain rfl := Except.ok.inj h
    exact Scorer.safe_of_word _ fun scene => Or.inl rfl
  | lfu =>
    rw [hpolicy] at h
    obtain rfl := Except.ok.inj h
    exact Scorer.safe_of_word (fun scene => scene.profile.accesses.toUInt64) fun scene =>
      Or.inl (by rw [UInt32.toNat_toUInt64]; rfl)
  | lfuLru =>
    rw [hpolicy] at h
    obtain rfl := Except.ok.inj h
    exact Scorer.safe_composite .lfuLru
  | percentileLfu =>
    rw [hpolicy] at h
    obtain ⟨p, -, rfl⟩ := map_eq_ok.mp h
    exact Scorer.safe_composite (.percentileLfu p)
  | ghostLru =>
    rw [hpolicy] at h
    obtain rfl := Except.ok.inj h
    exact Scorer.safe_composite (.ghostLru _)
  | largestFirst =>
    rw [hpolicy] at h
    obtain rfl := Except.ok.inj h
    exact Scorer.safe_composite .largestFirst
  | ageGated =>
    rw [hpolicy] at h
    obtain ⟨p, -, rfl⟩ := map_eq_ok.mp h
    exact Scorer.safe_composite (.ageGated p)

end CacheSim
