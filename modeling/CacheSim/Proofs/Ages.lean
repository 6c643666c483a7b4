import CacheSim.Ages
import CacheSim.Proofs.RankTree.Calls

/-!
# Percentiles of ages

No list of ages is ever kept: an age at a percentile is computed from the time of entry at the
mirrored percentile.  What enters later is younger, so the ascending times of entry give the ages in
descending order.  Members that enter after the clock all have age zero, and members that enter at
the same time have the same age; such ties do not matter, since lists of ages in order are equal if
they have the same members.

* `Ages.inOrder_eq_reverse`: the ages in ascending order are those of the times in reverse;
* `Ages.mirrored_after_calls`: the percentile of a population that any calls have led to, read off
  the list of its ages.
-/

namespace CacheSim

/-- What enters later is younger. -/
lemma Word.monus_le_monus {now a b : UInt64} (h : a ≤ b) : monus now b ≤ monus now a := by
  rw [UInt64.le_iff_toNat_le] at h ⊢
  rw [toNat_monus, toNat_monus]
  omega

namespace Ages

/-- The ages at `now` of members that entered at the given times, in ascending order. -/
def inOrder (now : UInt64) (times : List UInt64) : List UInt64 :=
  (times.map (Word.monus now)).mergeSort

variable {entered : RankTree UInt64} {times : List UInt64} {now age : UInt64} {i : Nat}

lemma pairwise_inOrder (now : UInt64) (times : List UInt64) :
    (inOrder now times).Pairwise (· ≤ ·) :=
  List.pairwise_mergeSort' (· ≤ ·) _

/-- The ages in ascending order are those of the times of entry in reverse. -/
lemma inOrder_eq_reverse (now : UInt64) (htimes : times.Pairwise (· ≤ ·)) :
    inOrder now times = (times.map (Word.monus now)).reverse := by
  have hreverse : (times.map (Word.monus now)).reverse.Pairwise (· ≤ ·) := by
    rw [List.pairwise_reverse, List.pairwise_map]
    exact htimes.imp Word.monus_le_monus
  have hperm : (inOrder now times).Perm (times.map (Word.monus now)).reverse :=
    (List.mergeSort_perm _ _).trans (List.reverse_perm _).symm
  exact hperm.eq_of_pairwise (fun _ _ _ _ hab hba => UInt64.le_antisymm hab hba)
    (pairwise_inOrder now times) hreverse

/-- The age of the member at a position stands at the mirrored position among the ages. -/
lemma getElem?_inOrder (now : UInt64) (htimes : times.Pairwise (· ≤ ·)) (hi : i < times.length) :
    (inOrder now times)[times.length - 1 - i]? = (times[i]?).map (Word.monus now) := by
  have hmirror : times.length - 1 - (times.length - 1 - i) = i := by omega
  rw [inOrder_eq_reverse now htimes,
    List.getElem?_reverse (by rw [List.length_map]; omega), List.length_map, hmirror,
    List.getElem?_map]

/-- Every age lies between the smallest and the largest one. -/
lemma between_of_mem (hage : age ∈ inOrder now times) :
    ∃ youngest oldest, (inOrder now times).head? = some youngest ∧
      (inOrder now times).getLast? = some oldest ∧ youngest ≤ age ∧ age ≤ oldest := by
  have hsorted := pairwise_inOrder now times
  have hne := List.ne_nil_of_mem hage
  refine ⟨_, _, List.head?_eq_some_head hne, List.getLast?_eq_some_getLast hne, ?_, ?_⟩
  · exact hsorted.rel_head hage
  · exact hsorted.rel_getLast hage

/-- **The percentile of an age is read off the list of all ages.**  After any calls to the ranked
times of entry, at any time and for any float: where the times hold `n` members and the mirrored
percentile is taken at position `i` among them, the answer is the age at position `n - 1 - i` in
ascending order.  So it is the age of a member, and lies between the smallest and the largest age.
Without members it is the time itself. -/
theorem mirrored_after_calls (calls : List (RankTree.Call UInt64)) (now : UInt64) (p : Float) :
    let ages : Ages := ⟨calls.foldl RankTree.Call.perform ∅, now⟩
    let times := calls.foldl RankTree.Call.list []
    (times = [] → ages.percentile p = now) ∧
      (times ≠ [] →
        (inOrder now times)[times.length - 1 -
            quantileIndex (clampUnit (1.0 - p)) times.length]? = some (ages.percentile p) ∧
          (∃ time ∈ times, ages.percentile p = Word.monus now time) ∧
          ∃ youngest oldest, (inOrder now times).head? = some youngest ∧
            (inOrder now times).getLast? = some oldest ∧
            youngest ≤ ages.percentile p ∧ ages.percentile p ≤ oldest) := by
  intro ages times
  obtain ⟨hvalid, hascending, hlist⟩ :
      ages.entered.Valid ∧ RankTree.Ascending times ∧ ages.entered.toList = times :=
    RankTree.toList_after_calls calls
  have hholds : ages.entered.Holds times := ⟨hvalid, List.Perm.of_eq hlist⟩
  have htimes : times.Pairwise (· ≤ ·) := hascending.imp Std.isLE_compare.mp
  refine ⟨fun hnil => ?_, fun hne => ?_⟩
  · rw [hnil] at hholds
    rw [percentile, hholds.percentile_nil]
    exact UInt64.toNat_inj.mp (Word.toNat_monus now 0)
  · set q := clampUnit (1.0 - p)
    have hposition : times[quantileIndex q times.length]? = some (ages.entered.percentile q) := by
      rw [← hlist, ← hvalid.size_eq]
      exact hholds.percentile_eq_getElem hne q
    have hage : (inOrder now times)[times.length - 1 - quantileIndex q times.length]? =
        some (ages.percentile p) := by
      rw [getElem?_inOrder now htimes (quantileIndex_lt q (List.length_pos_iff.mpr hne)),
        hposition]
      rfl
    exact ⟨hage, ⟨_, hholds.percentile_mem hne q, rfl⟩,
      between_of_mem (List.mem_of_getElem? hage)⟩

/-- Two members enter at the same time and two after the clock. -/
theorem mirrored_with_later_members :
    let calls : List (RankTree.Call UInt64) :=
      [.insert 40, .insert 10, .insert 10, .insert 60, .insert 55, .insert 7, .remove 7]
    let ages : Ages := ⟨calls.foldl RankTree.Call.perform ∅, 50⟩
    let times := calls.foldl RankTree.Call.list []
    times = [10, 10, 40, 55, 60] ∧ times ≠ [] ∧ inOrder 50 times = [0, 0, 10, 40, 40] ∧
      ages.percentile 0.5 = 10 ∧ ∃ time ∈ times, ages.percentile 0.5 = Word.monus 50 time := by
  intro calls ages times
  have htimes : times = [10, 10, 40, 55, 60] := by decide
  have hne : times ≠ [] := by simp [htimes]
  have hages : inOrder 50 times = [0, 0, 10, 40, 40] := by
    rw [inOrder_eq_reverse 50 (by rw [htimes]; decide), htimes]
    decide
  have hindex : quantileIndex (clampUnit (1.0 - 0.5)) times.length = 2 := by
    rw [htimes]
    decide +kernel
  obtain ⟨hposition, hmember, -⟩ := (mirrored_after_calls calls 50 0.5).2 hne
  change (inOrder 50 times)[times.length - 1 -
      quantileIndex (clampUnit (1.0 - 0.5)) times.length]? = some (ages.percentile 0.5) at hposition
  rw [hindex, hages, htimes] at hposition
  exact ⟨htimes, hne, hages, (Option.some.inj hposition).symm, hmember⟩

end Ages
end CacheSim
