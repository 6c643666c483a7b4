import CacheSim.Proofs.Cache.Scaled

/-!
# The unit of size does not matter

A run is the same whether sizes are counted in bytes or in any other unit.  Everything that is
compared with a size is a size itself: the free room, the capacity, the budget for ghosts, the
window of the ghosts, and the sizes of the population.

* `Cache.same_in_other_units`: a run in a larger unit, compared with the run in a smaller one.
-/

namespace CacheSim
namespace Cache

variable {factor : Nat} {c c' : Cache} {scorer scorer' : Scorer}

/-- The same objects are stored, with sizes in another unit. -/
lemma Scaled.stored (hs : Scaled factor c c') (id : ObjectId) :
    Option.Rel (fun object object' => object'.ticket = object.ticket ∧
      object'.size.toNat = factor * object.size.toNat) c.stored[id]? c'.stored[id]? := by
  cases hstored : c.stored[id]? with
  | none =>
    rw [(hs.stored_eq_none_iff id).mpr hstored]
    exact .none
  | some object =>
    rw [hs.lockstep.stored_eq, Option.map_eq_some_iff] at hstored
    obtain ⟨x, hx, rfl⟩ := hstored
    obtain ⟨x', hx', hrel⟩ := hs.roster.residents.forth id x hx
    rw [hs.lockstep'.stored_of_resident hx']
    exact .some ⟨hrel.ticket, hrel.profile.size⟩

/-- **The unit of size does not matter.**  Take any policy of the catalogue, a cache in which sizes
count, and any calls to it; then multiply the capacity, the budget for ghosts, the window of the
policy and the size of every request by the same factor.  If no counter overflows then, none did
before, and

* every call is answered as before: the same hits, and the same victims in the same order;
* the same objects are stored, under the same tickets; their sizes, and the bytes of all of them,
  are multiplied by the factor;
* the same misses, evictions and bypasses are counted, and the bytes that were requested and missed
  are multiplied by the factor;
* the same ghosts are remembered; their sizes, and the bytes of all of them, are multiplied by the
  factor. -/
theorem same_in_other_units {settings settings' : PolicySettings} (hfactor : 1 ≤ factor)
    (hsettings : settings.Scaled factor settings') (hscorer : settings.scorer = .ok scorer)
    (hscorer' : settings'.scorer = .ok scorer') {capacity capacity' budget budget' : UInt64}
    (hcapacity : capacity'.toNat = factor * capacity.toNat)
    (hbudget : budget'.toNat = factor * budget.toNat) {calls calls' : List Call}
    (hcalls : List.Forall₂ (Call.Scaled factor false) calls calls') {answers : List Answer}
    (hrun' : runCalls perform (new capacity' (.empty scorer' budget') false) calls' =
      .ok (answers, c')) :
    ∃ c, runCalls perform (new capacity (.empty scorer budget) false) calls = .ok (answers, c) ∧
      (∀ id : ObjectId, Option.Rel (fun object object' => object'.ticket = object.ticket ∧
        object'.size.toNat = factor * object.size.toNat) c.stored[id]? c'.stored[id]?) ∧
      c'.occupied.toNat = factor * c.occupied.toNat ∧
      c'.tally.counts = c.tally.counts.scale factor ∧
      List.Forall₂ (Ghost.Scaled factor) c.roster.ghosts.toList c'.roster.ghosts.toList ∧
      c'.roster.ghosts.totalSize.toNat = factor * c.roster.ghosts.totalSize.toNat := by
  have hagree : Agree factor (fun _ => True) (fun _ p p' => p' = p) scorer scorer' :=
    agree_of_priority_eq fun _ _ _ _ _ _ hscene =>
      hsettings.priority_eq hfactor hscorer hscorer' hscene
  obtain ⟨c, hrun, hend, hcounts⟩ := run_scaled (PolicySettings.safe_of_scorer hscorer)
    (PolicySettings.safe_of_scorer hscorer') keepsOrder_same hagree hfactor hcapacity hbudget
    (fun _ _ _ _ _ => trivial) hcalls hrun'
  exact ⟨c, hrun, hend.stored, hend.occupied, hcounts, hend.roster.ghosts.ghosts,
    hend.roster.ghosts.totalSize⟩

/-- Sizes counted in threes.  The ghost of object 1 is just outside the window when it comes back,
before and after, and so object 1 is evicted again and object 4 is not. -/
theorem same_in_threes :
    ∃ answers c c', runCalls perform (new 6 (.empty (.ghostLru (some 6)) 30) false)
        [.request ⟨0, 1, 3⟩, .request ⟨0, 2, 3⟩, .request ⟨0, 3, 3⟩, .request ⟨0, 4, 3⟩,
          .request ⟨0, 1, 3⟩, .request ⟨0, 4, 3⟩, .request ⟨0, 5, 3⟩] = .ok (answers, c') ∧
      runCalls perform (new 2 (.empty (.ghostLru (some 2)) 10) false)
        [.request ⟨0, 1, 1⟩, .request ⟨0, 2, 1⟩, .request ⟨0, 3, 1⟩, .request ⟨0, 4, 1⟩,
          .request ⟨0, 1, 1⟩, .request ⟨0, 4, 1⟩, .request ⟨0, 5, 1⟩] = .ok (answers, c) ∧
      answers.map Answer.victims = [[], [], [⟨0, 1⟩], [⟨1, 2⟩], [⟨2, 3⟩], [], [⟨4, 1⟩]] ∧
      c'.tally.counts = c.tally.counts.scale 3 ∧
      c'.roster.ghosts.totalSize.toNat = 3 * c.roster.ghosts.totalSize.toNat := by
  have hends : (fun done : List Answer × Cache => done.1.map Answer.victims) <$>
      runCalls perform (new 6 (.empty (.ghostLru (some 6)) 30) false)
        [.request ⟨0, 1, 3⟩, .request ⟨0, 2, 3⟩, .request ⟨0, 3, 3⟩, .request ⟨0, 4, 3⟩,
          .request ⟨0, 1, 3⟩, .request ⟨0, 4, 3⟩, .request ⟨0, 5, 3⟩] =
      .ok [[], [], [⟨0, 1⟩], [⟨1, 2⟩], [⟨2, 3⟩], [], [⟨4, 1⟩]] := by
    cbv
  obtain ⟨⟨answers, c'⟩, hrun', hvictims⟩ := map_eq_ok.mp hends
  have hsettings : PolicySettings.Scaled 3 { policy := .ghostLru, ghostWindow := some 2 }
      { policy := .ghostLru, ghostWindow := some 6 } :=
    ⟨rfl, rfl, rfl, .some rfl⟩
  have hcalls : List.Forall₂ (Call.Scaled 3 false)
      [.request ⟨0, 1, 1⟩, .request ⟨0, 2, 1⟩, .request ⟨0, 3, 1⟩, .request ⟨0, 4, 1⟩,
        .request ⟨0, 1, 1⟩, .request ⟨0, 4, 1⟩, .request ⟨0, 5, 1⟩]
      [.request ⟨0, 1, 3⟩, .request ⟨0, 2, 3⟩, .request ⟨0, 3, 3⟩, .request ⟨0, 4, 3⟩,
        .request ⟨0, 1, 3⟩, .request ⟨0, 4, 3⟩, .request ⟨0, 5, 3⟩] := by
    repeat first | exact .nil | refine .cons (.request rfl rfl) ?_
  obtain ⟨c, hrun, -, -, hcounts, -, htotal⟩ := same_in_other_units (by decide) hsettings rfl rfl
    (show (6 : UInt64).toNat = 3 * (2 : UInt64).toNat from rfl)
    (show (30 : UInt64).toNat = 3 * (10 : UInt64).toNat from rfl) hcalls hrun'
  exact ⟨answers, c, c', hrun', hrun, hvictims, hcounts, htotal⟩

end Cache
end CacheSim
