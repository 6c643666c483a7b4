import CacheSim.Proofs.RankTree.Treap
import CacheSim.Proofs.Rounding
import CacheSim.Sampling

/-!
# What a permutation of the words is good for

The hash is a permutation of the 64-bit words.  Trees and samples rely on that.  The weights of
nodes are the hashes of their numbers, so different numbers have different weights.  A sample looks
at the low 24 bits of the hash of an object.  Every pattern of these bits is that of `2 ^ 40` words,
and it still is after a permutation, so a sample keeps `2 ^ 40` objects for every pattern that it
admits.

* `RankTree.weight_eq_iff_uid_eq`: nodes are told apart by their weights;
* `Sample.ncard_keeps`: how many objects a sample keeps;
* `Sample.threshold_le_of_new`: no ratio asks for more patterns than there are;
* `words_permuted`: the hash as a permutation, and both uses of it.
-/

namespace CacheSim

variable {α : Type}

/-! ## Weights -/

namespace RankTree

variable [Ord α] [Std.TransOrd α] [Std.LawfulEqOrd α] {calls calls' : List (Call α)}
  {node node' : RankNode α}

/-- Nodes of any two multisets have the same weight only if their numbers are the same word. -/
lemma weight_eq_iff_word_eq (hnode : node ∈ (calls.foldl Call.perform ∅).liveNodes)
    (hnode' : node' ∈ (calls'.foldl Call.perform ∅).liveNodes) :
    node.weight = node'.weight ↔ UInt64.ofNat node.key.uid = UInt64.ofNat node'.key.uid := by
  obtain ⟨s, hs⟩ := (toList_after_calls calls).1
  obtain ⟨s', hs'⟩ := (toList_after_calls calls').1
  rw [hs.weight_eq node hnode, hs'.weight_eq node' hnode', RankKey.weight_eq_iff]

/-- While there are no more insertions than words, every number is a word. -/
lemma uid_lt_of_calls (hfew : calls.countP Call.isInsert ≤ 2 ^ 64)
    (hnode : node ∈ (calls.foldl Call.perform ∅).liveNodes) : node.key.uid < 2 ^ 64 := by
  obtain ⟨s, hs⟩ := (toList_after_calls calls).1
  have hlt := hs.node_uid_lt node hnode
  rw [nextUid_after_calls] at hlt
  exact hlt.trans_le hfew

lemma weight_eq_iff_uid_eq (hfew : calls.countP Call.isInsert ≤ 2 ^ 64)
    (hfew' : calls'.countP Call.isInsert ≤ 2 ^ 64)
    (hnode : node ∈ (calls.foldl Call.perform ∅).liveNodes)
    (hnode' : node' ∈ (calls'.foldl Call.perform ∅).liveNodes) :
    node.weight = node'.weight ↔ node.key.uid = node'.key.uid := by
  rw [weight_eq_iff_word_eq hnode hnode', ← RankKey.weight_eq_iff,
    RankKey.weight_eq_iff_of_lt (uid_lt_of_calls hfew hnode) (uid_lt_of_calls hfew' hnode')]

end RankTree

/-! ## Counting words -/

/-- Of `m * k` numbers in a row, `t * k` leave a remainder below `t` on division by `m`. -/
lemma count_mod_lt {m t : Nat} (h : t ≤ m) (k : Nat) :
    Nat.count (fun n => n % m < t) (m * k) = t * k := by
  have hperiod : Nat.count (fun n => n % m < t) m = t := by
    have hfilter : {n ∈ Finset.range m | n % m < t} = Finset.range t := by
      ext n
      simp only [Finset.mem_filter, Finset.mem_range]
      constructor
      · rintro ⟨hn, hmod⟩
        rwa [Nat.mod_eq_of_lt hn] at hmod
      · intro hn
        have hlt := hn.trans_le h
        exact ⟨hlt, (Nat.mod_eq_of_lt hlt).symm ▸ hn⟩
    rw [Nat.count_eq_card_filter_range, hfilter, Finset.card_range]
  induction k with
  | zero => rfl
  | succ k ih =>
    have hshift : ∀ n, (m * k + n) % m = n % m := Nat.mul_add_mod m k
    simp only [Nat.mul_succ, Nat.count_add, ih, hshift, hperiod]

/-- As many words have a property as numbers below `2 ^ 64` have it. -/
lemma ncard_words (p : Nat → Prop) [DecidablePred p] :
    {w : UInt64 | p w.toNat}.ncard = Nat.count p (2 ^ 64) := by
  have himage : UInt64.toNat '' {w | p w.toNat} = {n ∈ Finset.range (2 ^ 64) | p n} := by
    ext n
    simp only [Set.mem_image, Set.mem_ofPred_eq, Finset.coe_filter, Finset.mem_range]
    constructor
    · rintro ⟨w, hw, rfl⟩
      exact ⟨w.toNat_lt, hw⟩
    · rintro ⟨hlt, hn⟩
      exact ⟨UInt64.ofNat n, by rwa [UInt64.toNat_ofNat_of_lt' hlt], UInt64.toNat_ofNat_of_lt' hlt⟩
  rw [← Set.ncard_image_of_injective _ fun _ _ => UInt64.toNat_inj.mp, himage,
    Set.ncard_coe_finset, Nat.count_eq_card_filter_range]

/-- Of all words, `t * k` leave a remainder below `t` on division by a `k`-th part of `2 ^ 64`. -/
lemma ncard_words_mod_lt {m t k : Nat} (hwords : m * k = 2 ^ 64) (h : t ≤ m) :
    {w : UInt64 | w.toNat % m < t}.ncard = t * k := by
  rw [ncard_words fun n => n % m < t, ← hwords, count_mod_lt h]

/-! ## Samples -/

namespace Sample

/-- An object is in a sample if the low 24 bits of its hash are below the threshold. -/
lemma keeps_iff (s : Sample) (id : UInt64) :
    s.keeps id = true ↔ (splitMix id).toNat % 2 ^ 24 < s.threshold.toNat := by
  rw [keeps, decide_eq_true_iff, UInt64.lt_iff_toNat_lt, UInt64.toNat_and,
    show (modulus - 1).toNat = 2 ^ 24 - 1 from rfl, Nat.and_two_pow_sub_one_eq_mod]

/-- As many objects are in a sample as words have low bits below the threshold, since the hash is a
permutation. -/
lemma ncard_keeps {s : Sample} (h : s.threshold.toNat ≤ 2 ^ 24) :
    {id | s.keeps id}.ncard = s.threshold.toNat * 2 ^ 40 := by
  set low := {w : UInt64 | w.toNat % 2 ^ 24 < s.threshold.toNat}
  have hpreimage : {id | s.keeps id} = Set.preimage splitMix low :=
    Set.ext fun id => s.keeps_iff id
  have hrange : low ⊆ Set.range splitMix :=
    splitMix_bijective.surjective.range_eq ▸ Set.subset_univ low
  rw [hpreimage, Set.ncard_preimage_of_injective_subset_range splitMix_injective hrange]
  exact ncard_words_mod_lt (by norm_num) h

/-- A ratio is at most one, so its share of the patterns and the half that is added to it are at
most `2 ^ 24 + 1 / 2`, which is a float.  Rounding stops there. -/
lemma rounded_share_le {ratio : Float} (h : isRatio ratio = true) :
    ((ratio * modulus.toFloat + 0.5).toUInt64.toNat : ℚ) ≤ 2 ^ 24 + 1 / 2 := by
  rw [isRatio, Bool.and_eq_true, decide_eq_true_eq, decide_eq_true_eq] at h
  have hmodulus : UpTo (2 ^ 24) modulus.toFloat.toModel.unpack :=
    Or.inr ⟨2 ^ 52, -28, by decide, rfl, ⟨by decide, by decide, Or.inl le_rfl⟩, by norm_num⟩
  have hhalf : UpTo (1 / 2) (0.5 : Float).toModel.unpack :=
    Or.inr ⟨2 ^ 52, -53, by decide, rfl, ⟨by decide, by decide, Or.inl le_rfl⟩, by norm_num⟩
  have hwhole : IsFloat (2 ^ 24) := by
    rw [show (2 : ℚ) ^ 24 = (1 : Nat) * 2 ^ (24 : Int) by norm_num]
    exact isFloat_of_range (by decide) (by decide) (by decide)
  have hbound : IsFloat (2 ^ 24 + 1 / 2) := by
    rw [show (2 : ℚ) ^ 24 + 1 / 2 = (2 ^ 25 + 1 : Nat) * 2 ^ (-1 : Int) by norm_num]
    exact isFloat_of_range (by decide) (by decide) (by decide)
  have hshare := (upTo_one h.1 h.2).mul hmodulus hwhole (by norm_num)
  exact (hshare.add hhalf hbound le_rfl).toNat_toUInt64_le

/-- No ratio asks for more patterns than there are, since the half is cut off. -/
lemma threshold_le_of_new {ratio : Float} {s : Sample} (h : Sample.new ratio = .ok s) :
    s.threshold.toNat ≤ 2 ^ 24 := by
  rw [Sample.new] at h
  split at h
  · next hratio =>
    obtain rfl := Except.ok.inj h
    have hlt : ((ratio * modulus.toFloat + 0.5).toUInt64.toNat : ℚ) < (2 ^ 24 + 1 : Nat) :=
      (rounded_share_le hratio).trans_lt (by norm_num)
    exact Nat.lt_succ_iff.mp (by exact_mod_cast hlt)
  · cases h

end Sample

/-- **The hash is a permutation of the words.**  So in ranked multisets, after any calls, two nodes
share a weight only if their numbers are the same word; as long as there are no more insertions than
words, this means the same number.  And a sample whose threshold is at most `2 ^ 24`, as that of
every ratio is, keeps exactly `2 ^ 40` objects for every unit of the threshold. -/
theorem words_permuted [Ord α] [Std.TransOrd α] [Std.LawfulEqOrd α] :
    Function.Bijective splitMix ∧
    (∀ calls calls' : List (RankTree.Call α),
      ∀ node ∈ (calls.foldl RankTree.Call.perform ∅).liveNodes,
      ∀ node' ∈ (calls'.foldl RankTree.Call.perform ∅).liveNodes,
        (node.weight = node'.weight ↔
          UInt64.ofNat node.key.uid = UInt64.ofNat node'.key.uid) ∧
        (calls.countP RankTree.Call.isInsert ≤ 2 ^ 64 →
          calls'.countP RankTree.Call.isInsert ≤ 2 ^ 64 →
          (node.weight = node'.weight ↔ node.key.uid = node'.key.uid))) ∧
    (∀ s : Sample, s.threshold.toNat ≤ 2 ^ 24 →
      {id | s.keeps id}.ncard = s.threshold.toNat * 2 ^ 40) ∧
    ∀ (ratio : Float) (s : Sample), Sample.new ratio = .ok s → s.threshold.toNat ≤ 2 ^ 24 := by
  refine ⟨splitMix_bijective, fun calls calls' node hnode node' hnode' => ⟨?_, ?_⟩,
    fun s => Sample.ncard_keeps, fun ratio s => Sample.threshold_le_of_new⟩
  · exact RankTree.weight_eq_iff_word_eq hnode hnode'
  · exact fun hfew hfew' => RankTree.weight_eq_iff_uid_eq hfew hfew' hnode hnode'

/-- A repeated number, whose two occurrences differ in weight, and a sample of one object in ten. -/
theorem words_permuted_in_tenth_sample :
    let calls : List (RankTree.Call Int) := [.insert 7, .insert 7]
    let s : Sample := ⟨0.1, 1677722⟩
    calls.countP RankTree.Call.isInsert ≤ 2 ^ 64 ∧
    (∃ node ∈ (calls.foldl RankTree.Call.perform ∅).liveNodes,
      ∃ node' ∈ (calls.foldl RankTree.Call.perform ∅).liveNodes,
        node.key = ⟨7, 0⟩ ∧ node'.key = ⟨7, 1⟩ ∧ node.weight ≠ node'.weight) ∧
    Sample.new 0.1 = .ok s ∧ s.threshold.toNat ≤ 2 ^ 24 ∧
    {id | s.keeps id}.ncard = 1677722 * 2 ^ 40 := by
  intro calls s
  obtain ⟨-, hweights, hsamples, hratios⟩ := words_permuted (α := Int)
  have hfew : calls.countP RankTree.Call.isInsert ≤ 2 ^ 64 := by decide
  have hnew : Sample.new 0.1 = .ok s := rfl
  have hkeys : ((calls.foldl RankTree.Call.perform ∅).liveNodes.map RankNode.key).Perm
      [⟨7, 0⟩, ⟨7, 1⟩] :=
    RankTree.map_key_liveNodes _ ▸ RankTree.liveKeys_after_calls calls
  obtain ⟨node, hnode, hkey⟩ := List.mem_map.mp
    (hkeys.mem_iff.mpr List.mem_cons_self)
  obtain ⟨node', hnode', hkey'⟩ := List.mem_map.mp
    (hkeys.mem_iff.mpr (List.mem_cons_of_mem _ List.mem_cons_self))
  refine ⟨hfew, ⟨node, hnode, node', hnode', hkey, hkey', fun heq => ?_⟩, hnew,
    hratios 0.1 s hnew, hsamples s (hratios 0.1 s hnew)⟩
  have huid := ((hweights calls calls node hnode node' hnode').2 hfew hfew).mp heq
  rw [hkey, hkey'] at huid
  exact absurd huid (by decide)

end CacheSim
