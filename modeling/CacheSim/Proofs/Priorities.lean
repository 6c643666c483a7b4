import CacheSim.Proofs.GhostCalls
import CacheSim.Proofs.RankTree.Calls
import CacheSim.Proofs.Scoring

/-!
# Priorities in 128 bits

Priorities are integers, and scorers compute them without regard to any bounds.  A machine computes
them in signed words of 128 bits, where a step may leave the range or divide by zero.  Here the nine
scorers are evaluated in such words, step by step: no step ever fails, and the result is the
priority itself.

That bands and times do not run into each other makes the order of priorities lexicographic.  Which
band an object is in is told from its features; a size class depends on the part of the population
that lies below the size.

* `Scene.possible_of_calls`: what calls have led to can be shown to a scorer;
* `PolicySettings.wide`: the priority of an object in words of 128 bits;
* `compare_banded`: priorities are compared by bands first, then by times;
* `Scorer.sizeClass_eq_zero`, `Scorer.sizeClass_eq_last`: the classes at both ends;
* `exact_priorities`: what is computed is exact, its order is lexicographic, and where bands lie.
-/

namespace CacheSim

/-! ## Signed words of 128 bits -/

namespace Wide

/-- An integer that is a signed word of 128 bits. -/
def check (x : Int) : Option Int :=
  if -2 ^ 127 ≤ x ∧ x < 2 ^ 127 then some x else none

/-- The negative of a word. -/
def neg (a : Int) : Option Int :=
  check (-a)

/-- The sum of two words. -/
def add (a b : Int) : Option Int :=
  check (a + b)

/-- The difference of two words. -/
def sub (a b : Int) : Option Int :=
  check (a - b)

/-- The product of two words. -/
def mul (a b : Int) : Option Int :=
  check (a * b)

/-- The quotient of two words, rounded towards zero.  There is none by zero. -/
def div (a b : Int) : Option Int :=
  if b = 0 then none else check (a.tdiv b)

/-- The priority at offset `time` of a band. -/
def banded (band : Int) (time : UInt64) : Option Int := do
  let base ← mul band (2 ^ 64)
  add base time.toNat

/-- The band of a size in a population: larger classes of sizes come first. -/
def sizeBand (sizes : RankTree UInt64) (size : UInt64) : Option Int := do
  let scaled ← mul (sizes.rank size) Scorer.sizeClasses
  let tenths ← div scaled (max sizes.size 1 : Nat)
  let last ← sub Scorer.sizeClasses 1
  sub last (min tenths last)

variable {a b x : Int}

lemma check_eq (hlow : -2 ^ 127 ≤ x) (hhigh : x < 2 ^ 127) : check x = some x :=
  if_pos ⟨hlow, hhigh⟩

/-- A quotient of numbers that are not negative is no larger than the dividend. -/
lemma div_natCast {m n : Nat} (hn : 0 < n) (hm : (m : Int) < 2 ^ 127) :
    div m n = some ((m / n : Nat) : Int) := by
  have hle : m / n ≤ m := Nat.div_le_self m n
  rw [div, if_neg (by omega), ← Int.ofNat_tdiv]
  generalize m / n = q at hle ⊢
  exact check_eq (by omega) (by omega)

end Wide

/-- The band of the object of a scene in words of 128 bits.  Only size classes are computed. -/
def Composite.wideBand (scene : Scene) : Composite → Option Int
  | largestFirst => Wide.sizeBand scene.sizes scene.profile.size
  | policy => (policy.band scene).toOption

/-- The priority of the object of a scene in words of 128 bits. -/
def Composite.wide (policy : Composite) (scene : Scene) : Option Int := do
  let band ← policy.wideBand scene
  Wide.banded band scene.profile.lastAccess

/-- The priority of the object of a scene in words of 128 bits. -/
def PolicySettings.wide (settings : PolicySettings) (scene : Scene) : Option Int :=
  match settings.policy with
  | .lru => Wide.check scene.profile.lastAccess.toNat
  | .mru => Wide.neg scene.profile.lastAccess.toNat
  | .fifo => Wide.check scene.profile.entered.toNat
  | .lfu => Wide.check scene.profile.accesses.toNat
  | .lfuLru => Composite.lfuLru.wide scene
  | .percentileLfu => (Composite.percentileLfu settings.countPercentile).wide scene
  | .ghostLru => (Composite.ghostLru settings.ghostWindow).wide scene
  | .largestFirst => Composite.largestFirst.wide scene
  | .ageGated => (Composite.ageGated settings.agePercentile).wide scene

/-- What a scorer may be shown: ghosts and sizes that are kept as they should, and no more sizes
than can be counted. -/
structure Scene.Possible (scene : Scene) : Prop where
  ghosts : scene.ghosts.Valid
  sizes : scene.sizes.Valid
  few : scene.sizes.size < UInt64.size

/-- The part of a population that lies strictly below a size; none of it does if there is no
population. -/
def shareBelow (sizes : List UInt64) (size : UInt64) : ℚ :=
  (sizes.countP fun other => decide (other < size) : ℚ) / sizes.length

/-- Where the band of an object may lie. -/
def Composite.Allows (scene : Scene) (b : Int) : Composite → Prop
  | lfuLru => b = scene.profile.accesses.toNat
  | percentileLfu _ | ghostLru _ | ageGated _ => b = 0 ∨ b = 1
  | largestFirst => 0 ≤ b ∧ b ≤ 9

variable {scene scene' : Scene} {policy : Composite} {b b' : Int} {t t' size size' : UInt64}
variable {sizes sizes' : RankTree UInt64}

/-- Sizes and ghosts can be shown to a scorer whatever calls have led to them. -/
lemma Scene.possible_of_calls {sizeCalls : List (RankTree.Call UInt64)} {budget : UInt64}
    {ghostCalls : List GhostLog.Call}
    (hsizes : scene.sizes = sizeCalls.foldl RankTree.Call.perform ∅)
    (hghosts : ghostCalls.foldlM GhostLog.perform (.empty budget) = .ok scene.ghosts)
    (hfew : scene.sizes.size < UInt64.size) : scene.Possible where
  ghosts := (GhostLog.kept_of_run hghosts).valid
  sizes := hsizes ▸ (RankTree.toList_after_calls sizeCalls).1
  few := hfew

/-! ## The order of priorities -/

/-- Priorities are compared by bands first, then by times. -/
lemma compare_banded :
    compare (banded b t) (banded b' t') = (compare b b').then (compare t t') := by
  have hlt : banded b t < banded b' t' ↔ b < b' ∨ b = b' ∧ t < t' := by
    rw [banded_lt_banded_iff, UInt64.lt_iff_toNat_lt]
  have hgt : banded b' t' < banded b t ↔ b' < b ∨ b' = b ∧ t' < t := by
    rw [banded_lt_banded_iff, UInt64.lt_iff_toNat_lt]
  cases hb : compare b b' with
  | lt =>
    rw [Std.compare_eq_lt] at hb
    exact Std.compare_eq_lt.mpr (hlt.mpr (Or.inl hb))
  | gt =>
    rw [Std.compare_eq_gt] at hb
    exact Std.compare_eq_gt.mpr (hgt.mpr (Or.inl hb))
  | eq =>
    obtain rfl := Std.LawfulEqOrd.eq_of_compare hb
    change _ = compare t t'
    cases ht : compare t t' with
    | lt =>
      rw [Std.compare_eq_lt] at ht
      exact Std.compare_eq_lt.mpr (hlt.mpr (Or.inr ⟨rfl, ht⟩))
    | gt =>
      rw [Std.compare_eq_gt] at ht
      exact Std.compare_eq_gt.mpr (hgt.mpr (Or.inr ⟨rfl, ht⟩))
    | eq =>
      obtain rfl := Std.LawfulEqOrd.eq_of_compare ht
      exact Std.ReflCmp.compare_self

/-! ## Size classes -/

lemma RankTree.Valid.rank_eq_below (h : sizes.Valid) (size : UInt64) :
    sizes.rank size = sizes.toList.countP fun other => decide (other < size) := by
  rw [h.rank_eq]
  refine List.countP_congr fun other _ => ?_
  rw [beq_iff_eq, Std.compare_eq_lt, decide_eq_true_eq]

namespace Scorer

/-- A larger size is in no smaller class. -/
lemma sizeClass_le (h : sizes.Valid) (h' : sizes'.Valid)
    (hsame : sizes.toList.Perm sizes'.toList) (hle : size ≤ size') :
    sizeClass sizes size ≤ sizeClass sizes' size' := by
  have hsize : sizes.size = sizes'.size := by
    rw [h.size_eq, h'.size_eq, hsame.length_eq]
  have hrank : sizes.rank size ≤ sizes'.rank size' := by
    rw [h.rank_eq_below, h'.rank_eq_below, hsame.countP_eq]
    refine List.countP_mono_left fun other _ hother => ?_
    rw [decide_eq_true_eq] at hother ⊢
    exact UInt64.lt_of_lt_of_le hother hle
  rw [sizeClass, sizeClass, hsize]
  exact min_le_min_right _ (Nat.div_le_div_right (Nat.mul_le_mul_right _ hrank))

/-- A size with nothing below it is in the first class. -/
lemma sizeClass_eq_zero (h : sizes.Valid) (hleast : ∀ other ∈ sizes.toList, size ≤ other) :
    sizeClass sizes size = 0 := by
  have hrank : sizes.rank size = 0 := by
    rw [h.rank_eq_below, List.countP_eq_zero]
    intro other hother
    rw [decide_eq_true_eq, UInt64.not_lt]
    exact hleast other hother
  rw [sizeClass, hrank, Nat.zero_mul, Nat.zero_div, Nat.zero_min]

/-- A size with nine tenths of the population below it is in the last class. -/
lemma sizeClass_eq_last (h : sizes.Valid) (hshare : 9 / 10 ≤ shareBelow sizes.toList size) :
    sizeClass sizes size = sizeClasses - 1 := by
  rw [shareBelow, ← h.rank_eq_below, ← h.size_eq] at hshare
  have hpos : 0 < sizes.size := by
    refine Nat.pos_of_ne_zero fun hzero => ?_
    rw [hzero, Nat.cast_zero, div_zero] at hshare
    norm_num at hshare
  have htenths : 9 * sizes.size ≤ sizes.rank size * sizeClasses := by
    rw [div_le_div_iff₀ (by norm_num) (by exact_mod_cast hpos)] at hshare
    exact_mod_cast hshare
  rw [sizeClass, Nat.max_eq_left hpos]
  exact Nat.min_eq_right ((Nat.le_div_iff_mul_le hpos).mpr htenths)

end Scorer

/-! ## Exact evaluation -/

lemma Wide.banded_eq (hlow : 0 ≤ b) (hhigh : b < 2 ^ 32) (t : UInt64) :
    Wide.banded b t = some (CacheSim.banded b t) := by
  have hlt := t.toNat_lt
  have hbase : Wide.mul b (2 ^ 64) = some (b * 2 ^ 64) := check_eq (by omega) (by omega)
  have hsum : Wide.add (b * 2 ^ 64) t.toNat = some (b * 2 ^ 64 + t.toNat) :=
    check_eq (by omega) (by omega)
  rw [Wide.banded, hbase]
  exact hsum

lemma Wide.sizeBand_eq (h : sizes.Valid) (hfew : sizes.size < UInt64.size) (size : UInt64) :
    Wide.sizeBand sizes size =
      some (Scorer.sizeClasses - 1 - Scorer.sizeClass sizes size : Int) := by
  have hrank : sizes.rank size < 2 ^ 64 := by
    rw [h.rank_eq_below]
    exact Nat.lt_of_le_of_lt List.countP_le_length (h.size_eq ▸ hfew)
  have hscaled : Wide.mul (sizes.rank size) Scorer.sizeClasses =
      some ((sizes.rank size * Scorer.sizeClasses : Nat) : Int) := by
    rw [Wide.mul, ← Int.natCast_mul, Scorer.sizeClasses]
    exact check_eq (by omega) (by omega)
  have htenths := Wide.div_natCast (m := sizes.rank size * Scorer.sizeClasses)
    (n := max sizes.size 1) (Nat.le_max_right _ _) (by rw [Scorer.sizeClasses]; omega)
  have hlast : Wide.sub Scorer.sizeClasses 1 = some (9 : Int) := rfl
  have hband : Wide.sub 9
      (min ((sizes.rank size * Scorer.sizeClasses / max sizes.size 1 : Nat) : Int) 9) =
        some (Scorer.sizeClasses - 1 - Scorer.sizeClass sizes size : Int) := by
    rw [Scorer.sizeClass, Scorer.sizeClasses, Nat.cast_min]
    generalize sizes.rank size * 10 / max sizes.size 1 = tenths
    exact Wide.check_eq (by omega) (by omega)
  simp only [Wide.sizeBand, hscaled, htenths, hlast, hband, Option.bind_eq_bind, Option.bind_some]

namespace Composite

lemma allows_of_band (h : policy.band scene = .ok b) : policy.Allows scene b := by
  cases policy with
  | lfuLru => exact (Except.ok.inj h).symm
  | percentileLfu p =>
    obtain rfl := Except.ok.inj h
    rw [Allows]
    split
    · exact Or.inl rfl
    · exact Or.inr rfl
  | ghostLru window =>
    obtain ⟨returning, -, rfl⟩ := map_eq_ok.mp h
    cases returning
    · exact Or.inl rfl
    · exact Or.inr rfl
  | largestFirst =>
    have hle : Scorer.sizeClass scene.sizes scene.profile.size ≤ 9 := Nat.min_le_right _ _
    have hclasses : (Scorer.sizeClasses : Int) = 10 := rfl
    obtain rfl := Except.ok.inj h
    rw [Allows]
    omega
  | ageGated p =>
    obtain rfl := Except.ok.inj h
    rw [Allows]
    split
    · exact Or.inl rfl
    · exact Or.inr rfl

/-- A band is a word of 128 bits. -/
lemma wideBand_eq (hscene : scene.Possible) (h : policy.band scene = .ok b) :
    policy.wideBand scene = some b := by
  cases policy with
  | largestFirst =>
    rw [← Except.ok.inj h]
    exact Wide.sizeBand_eq hscene.sizes hscene.few _
  | lfuLru | percentileLfu | ghostLru | ageGated => exact congrArg Except.toOption h

/-- An object has a band, and its priority is computed exactly. -/
lemma exists_wide (policy : Composite) (hscene : scene.Possible) :
    ∃ b, policy.band scene = .ok b ∧
      policy.scorer.priority scene = .ok (banded b scene.profile.lastAccess) ∧
      policy.wide scene = some (banded b scene.profile.lastAccess) := by
  obtain ⟨b, hband⟩ := policy.exists_band hscene.ghosts
  obtain ⟨hlow, hhigh⟩ := band_range hband
  refine ⟨b, hband, ?_, ?_⟩
  · rw [policy.scorer_priority, hband]
    rfl
  · rw [wide, wideBand_eq hscene hband]
    exact Wide.banded_eq hlow hhigh _

end Composite

/-- Every policy of the catalogue computes its priorities exactly. -/
lemma PolicySettings.exists_wide {settings : PolicySettings} {scorer : Scorer}
    (h : settings.scorer = .ok scorer) (hscene : scene.Possible) :
    ∃ p, scorer.priority scene = .ok p ∧ settings.wide scene = some p := by
  have hcomposite : ∀ policy : Composite, scorer = policy.scorer →
      settings.wide scene = policy.wide scene →
      ∃ p, scorer.priority scene = .ok p ∧ settings.wide scene = some p := by
    rintro policy rfl hwide
    obtain ⟨b, -, hpriority, hexact⟩ := policy.exists_wide hscene
    exact ⟨_, hpriority, hwide.trans hexact⟩
  obtain ⟨policy, countPercentile, agePercentile, ghostWindow⟩ := settings
  rw [PolicySettings.scorer] at h
  cases policy with
  | lru | mru =>
    have hlt := scene.profile.lastAccess.toNat_lt
    obtain rfl := Except.ok.inj h
    exact ⟨_, rfl, Wide.check_eq (by omega) (by omega)⟩
  | fifo =>
    have hlt := scene.profile.entered.toNat_lt
    obtain rfl := Except.ok.inj h
    exact ⟨_, rfl, Wide.check_eq (by omega) (by omega)⟩
  | lfu =>
    have hlt := scene.profile.accesses.toNat_lt
    obtain rfl := Except.ok.inj h
    exact ⟨_, rfl, Wide.check_eq (by omega) (by omega)⟩
  | lfuLru =>
    obtain rfl := Except.ok.inj h
    exact hcomposite .lfuLru rfl rfl
  | percentileLfu =>
    obtain ⟨p, hp, rfl⟩ := map_eq_ok.mp h
    rw [checkFraction] at hp
    split at hp
    · obtain rfl := Except.ok.inj hp
      exact hcomposite (.percentileLfu countPercentile) rfl rfl
    · cases hp
  | ghostLru =>
    obtain rfl := Except.ok.inj h
    exact hcomposite (.ghostLru ghostWindow) rfl rfl
  | largestFirst =>
    obtain rfl := Except.ok.inj h
    exact hcomposite .largestFirst rfl rfl
  | ageGated =>
    obtain ⟨p, hp, rfl⟩ := map_eq_ok.mp h
    rw [checkFraction] at hp
    split at hp
    · obtain rfl := Except.ok.inj hp
      exact hcomposite (.ageGated agePercentile) rfl rfl
    · cases hp

/-- **Priorities are exact, and their order is lexicographic.**  For any two scenes:

* every policy of the catalogue gives a priority, and computing it in signed words of 128 bits
  neither leaves the range nor divides by zero and gives the same;
* under a composite policy the priorities are compared as the bands are, and within a band as the
  times of the latest requests are; the band is the access count, one of two, or one of ten;
* in a population of sizes a larger size is in no higher band, a size with nothing below it is in
  band 9, and a size with at least nine tenths of the population below it is in band 0. -/
theorem exact_priorities (h : scene.Possible) (h' : scene'.Possible) :
    (∀ (settings : PolicySettings) scorer, settings.scorer = .ok scorer →
      ∃ p, scorer.priority scene = .ok p ∧ settings.wide scene = some p) ∧
    (∀ policy : Composite, ∃ b b' p p',
      policy.band scene = .ok b ∧ policy.band scene' = .ok b' ∧
      policy.scorer.priority scene = .ok p ∧ policy.scorer.priority scene' = .ok p' ∧
      compare p p' =
        (compare b b').then (compare scene.profile.lastAccess scene'.profile.lastAccess) ∧
      policy.Allows scene b ∧ policy.Allows scene' b') ∧
    ∃ b b', Composite.largestFirst.band scene = .ok b ∧
      Composite.largestFirst.band scene' = .ok b' ∧
      (scene.sizes.toList.Perm scene'.sizes.toList → scene.profile.size ≤ scene'.profile.size →
        b' ≤ b) ∧
      ((∀ size ∈ scene.sizes.toList, scene.profile.size ≤ size) → b = 9) ∧
      (9 / 10 ≤ shareBelow scene.sizes.toList scene.profile.size → b = 0) := by
  refine ⟨fun settings scorer hscorer => settings.exists_wide hscorer h, fun policy => ?_, ?_⟩
  · obtain ⟨b, hband, hpriority, -⟩ := policy.exists_wide h
    obtain ⟨b', hband', hpriority', -⟩ := policy.exists_wide h'
    exact ⟨b, b', _, _, hband, hband', hpriority, hpriority', compare_banded,
      Composite.allows_of_band hband, Composite.allows_of_band hband'⟩
  · have hclasses : (Scorer.sizeClasses : Int) = 10 := rfl
    refine ⟨_, _, rfl, rfl, fun hsame hle => ?_, fun hleast => ?_, fun hshare => ?_⟩
    · have hclass := Scorer.sizeClass_le h.sizes h'.sizes hsame hle
      omega
    · rw [Scorer.sizeClass_eq_zero h.sizes hleast]
      rfl
    · rw [Scorer.sizeClass_eq_last h.sizes hshare]
      rfl

/-- The largest count and the latest time, in view of no population at all, and an object that is
larger than nine tenths of a population it is not in. -/
theorem exact_priorities_at_extremes :
    let sizes : RankTree UInt64 :=
      ([10, 20, 30, 30, 30, 40, 50, 60, 70, 80].map .insert).foldl RankTree.Call.perform ∅
    let scene : Scene := ⟨5, 1, ⟨0xFFFFFFFF, 0xFFFFFFFFFFFFFFFF, 7, 9⟩, ∅, ∅, ∅, .empty 100⟩
    let scene' : Scene := ⟨5, 1, ⟨1, 0, 75, 9⟩, ∅, ∅, sizes, .empty 100⟩
    scene.Possible ∧ scene'.Possible ∧ 9 / 10 ≤ shareBelow sizes.toList 75 ∧
      PolicySettings.scorer { policy := .lfuLru } = .ok .lfuLru ∧
      PolicySettings.wide { policy := .lfuLru } scene = some (2 ^ 96 - 1) ∧
      Composite.largestFirst.band scene = .ok 9 ∧ Composite.largestFirst.band scene' = .ok 0 := by
  intro sizes scene scene'
  have h : scene.Possible :=
    @Scene.possible_of_calls scene [] 100 [] rfl rfl (by decide)
  have h' : scene'.Possible :=
    @Scene.possible_of_calls scene' _ 100 [] rfl rfl (by decide)
  have hshare : 9 / 10 ≤ shareBelow sizes.toList 75 := by
    have hlist : sizes.toList = [10, 20, 30, 30, 30, 40, 50, 60, 70, 80] :=
      (RankTree.toList_after_calls _).2.2.trans (by decide)
    have hcount : (sizes.toList.countP fun other => decide (other < 75)) = 9 := by
      rw [hlist]
      rfl
    rw [shareBelow, hcount, hlist]
    norm_num
  obtain ⟨hexact, -, b, -, hband, -, -, hleast, -⟩ := exact_priorities h h'
  obtain ⟨-, -, b', -, hband', -, -, -, hlast⟩ := exact_priorities h' h
  obtain ⟨p, hp, hwide⟩ := hexact { policy := .lfuLru } .lfuLru rfl
  have hlargest : banded 0xFFFFFFFF 0xFFFFFFFFFFFFFFFF = 2 ^ 96 - 1 := by
    rw [banded_eq]
    decide
  obtain rfl : p = 2 ^ 96 - 1 := (Except.ok.inj hp).symm.trans hlargest
  rw [hleast (fun _ hmem => absurd hmem List.not_mem_nil)] at hband
  rw [hlast hshare] at hband'
  exact ⟨h, h', hshare, rfl, hwide, hband, hband'⟩

end CacheSim
