import CacheSim.Proofs.RankTree.Multiset

/-!
# Free slots are left alone

A slot that has been given back keeps its node, with links that lead somewhere.  That no operation
follows them is said by putting anything at all into the free slots: an operation on an arena
`RankArena.Spares` the free slots when it has a result, has the same one whatever is in them, and
leaves it there.  A slot that is given back on the way is filled as soon as it is free.

Splitting, inserting and erasing spare the free slots of a stored tree.  Each has the root that the
same operation on shapes has, whatever is in the free slots; and after it the slots of the tree hold
what the shape says, and the others what they held before.
-/

namespace CacheSim

variable {α : Type}

namespace RankArena

/-- The arena with other nodes in some of its slots. -/
def fill (slots : List Nat) (junk : Nat → RankNode α) (a : RankArena α) : RankArena α :=
  { a with nodes := a.nodes.mapIdx fun i node => if i ∈ slots then junk i else node }

/-- Gives a slot back, and puts another node into it. -/
def releaseOver (junk : Nat → RankNode α) (a : RankArena α) (slot : Nat) : RankArena α :=
  (a.release slot).fill [slot] junk

/-- A step has a result, which does not depend on what is in free slots, and leaves that there.  The
step is given the way in which it has to give slots back. -/
def Spares {β : Type} (a : RankArena α)
    (step : (RankArena α → Nat → RankArena α) → RankArena α → Option (β × RankArena α)) : Prop :=
  ∃ b a', step release a = some (b, a') ∧
    ∀ junk, step (releaseOver junk) (a.fill a.free junk) = some (b, a'.fill a'.free junk)

variable {a a₀ : RankArena α} {slots slots' : List Nat} {junk : Nat → RankNode α}
  {nodes nodes' : Array (RankNode α)} {i : Nat}

lemma getElem?_fill : (a.fill slots junk).nodes[i]? =
    if i ∈ slots then a.nodes[i]?.map fun _ => junk i else a.nodes[i]? := by
  rw [fill, Array.getElem?_mapIdx]
  split <;> simp

lemma sameBut_fill : SameBut slots a.nodes (a.fill slots junk).nodes :=
  ⟨Array.size_mapIdx, fun _ hi => getElem?_fill.trans (if_neg hi)⟩

lemma fill_fill : (a.fill slots junk).fill slots' junk = a.fill (slots' ++ slots) junk := by
  simp only [fill, RankArena.mk.injEq, and_true]
  refine Array.ext_getElem? fun i => ?_
  simp only [Array.getElem?_mapIdx, List.mem_append]
  grind

lemma releases_releaseOver (junk : Nat → RankNode α) : RankShape.Releases (releaseOver junk) a :=
  fun slot => sameBut_fill (a := a.release slot)

/-- What is in free slots does not matter where the others are determined. -/
lemma eq_fill {free : List Nat} (hagree : ∀ i ∈ slots, nodes'[i]? = nodes[i]?)
    (hsame : SameBut slots a₀.nodes nodes)
    (hsame' : SameBut slots (a₀.fill free junk).nodes nodes') (hapart : ∀ i ∈ slots, i ∉ free) :
    (⟨nodes', a₀.free⟩ : RankArena α) = fill free junk ⟨nodes, a₀.free⟩ := by
  rw [fill, RankArena.mk.injEq]
  refine ⟨Array.ext_getElem? fun i => ?_, rfl⟩
  change _ = (fill free junk ⟨nodes, a₀.free⟩).nodes[i]?
  rw [getElem?_fill]
  by_cases hi : i ∈ slots
  · rw [if_neg (hapart i hi), hagree i hi]
  · rw [hsame'.get i hi, hsame.get i hi, getElem?_fill]

/-- A step spares free slots if, whatever is in them, it changes slots of its own only, and
determines what is there. -/
lemma spares_of_stored {β : Type}
    {step : (RankArena α → Nat → RankArena α) → RankArena α → Option (β × RankArena α)}
    (b : β) (a₀ : RankArena α) (slots : List Nat) (P : Array (RankNode α) → Prop)
    (hP : ∀ nodes nodes', P nodes → P nodes' → ∀ i ∈ slots, nodes'[i]? = nodes[i]?)
    (hapart : ∀ i ∈ slots, i ∉ a₀.free)
    (hstep : ∃ nodes', step release a = some (b, ⟨nodes', a₀.free⟩) ∧ P nodes' ∧
      SameBut slots a₀.nodes nodes')
    (hjunk : ∀ junk, ∃ nodes', step (releaseOver junk) (a.fill a.free junk) =
        some (b, ⟨nodes', a₀.free⟩) ∧ P nodes' ∧
      SameBut slots (a₀.fill a₀.free junk).nodes nodes') : a.Spares step := by
  obtain ⟨nodes, hnodes, hPnodes, hsame⟩ := hstep
  refine ⟨b, _, hnodes, fun junk => ?_⟩
  obtain ⟨nodes', hnodes', hPnodes', hsame'⟩ := hjunk junk
  rw [hnodes', eq_fill (hP _ _ hPnodes hPnodes') hsame hsame' hapart]

end RankArena

namespace RankShape

variable [Ord α] {s t : RankShape α} {k : RankItem α} {a : RankArena α} {junk : Nat → RankNode α}

omit [Ord α] in
lemma Stored.fill (h : s.Stored a.nodes) (hapart : s.slots.Disjoint a.free)
    (junk : Nat → RankNode α) : s.Stored (a.fill a.free junk).nodes :=
  h.frame RankArena.sameBut_fill fun _ hi hmem => hapart hi hmem

lemma Stored.spares_split (h : s.Stored a.nodes) (hnodup : (s.slots ++ a.free).Nodup)
    (pivot : RankKey α) : a.Spares fun _ a => a.split pivot s.link := by
  obtain ⟨hslots, -, hapart⟩ := List.nodup_append'.mp hnodup
  refine RankArena.spares_of_stored ((s.split pivot).1.link, (s.split pivot).2.link) a s.slots
    (fun nodes => (s.split pivot).1.Stored nodes ∧ (s.split pivot).2.Stored nodes)
    (fun nodes nodes' hP hP' i hi => ?_) (fun i hi hmem => hapart hi hmem) ?_ fun junk => ?_
  · rw [← slots_split pivot s, List.mem_append] at hi
    exact hi.elim (hP.1.get_eq hP'.1 i) (hP.2.get_eq hP'.2 i)
  · obtain ⟨nodes', hsplit, hl, hr, hsame⟩ := h.exists_split a.free hslots pivot
    exact ⟨nodes', hsplit, ⟨hl, hr⟩, hsame⟩
  · obtain ⟨nodes', hsplit, hl, hr, hsame⟩ :=
      (h.fill hapart junk).exists_split a.free hslots pivot
    exact ⟨nodes', hsplit, ⟨hl, hr⟩, hsame⟩

omit [Ord α] in
lemma Stored.spares_merge (hs : s.Stored a.nodes) (ht : t.Stored a.nodes)
    (hnodup : (s.slots ++ t.slots ++ a.free).Nodup) :
    a.Spares fun _ a => a.merge s.link t.link := by
  obtain ⟨hslots, -, hapart⟩ := List.nodup_append'.mp hnodup
  obtain ⟨hs', ht'⟩ := List.disjoint_append_left.mp hapart
  refine RankArena.spares_of_stored (s.merge t).link a (s.slots ++ t.slots) (s.merge t).Stored
    (fun nodes nodes' hP hP' i hi => hP.get_eq hP' i (slots_merge s t ▸ hi))
    (fun i hi hmem => hapart hi hmem) (hs.exists_merge a.free ht hslots) fun junk => ?_
  exact (hs.fill hs' junk).exists_merge a.free (ht.fill ht' junk) hslots

lemma Stored.spares_graft (h : s.Stored a.nodes) (hk : a.nodes[k.slot]? = some (.single k.key))
    (hnodup : (k.slot :: s.slots ++ a.free).Nodup) :
    a.Spares fun _ a => a.graft k.key k.slot s.link := by
  obtain ⟨hslots, -, hapart⟩ := List.nodup_append'.mp hnodup
  refine RankArena.spares_of_stored (s.insert k).link a (k.slot :: s.slots) (s.insert k).Stored
    (fun nodes nodes' hP hP' i hi => ?_) (fun i hi hmem => hapart hi hmem)
    (h.exists_graft a.free hk hslots) fun junk => ?_
  · exact hP.get_eq hP' i ((slots_insert_perm k s).mem_iff.mpr hi)
  · have hk' : (a.fill a.free junk).nodes[k.slot]? = some (.single k.key) := by
      rw [RankArena.getElem?_fill, if_neg fun hmem => hapart List.mem_cons_self hmem, hk]
    exact (h.fill (List.disjoint_of_disjoint_cons_left hapart) junk).exists_graft a.free hk' hslots

lemma freed_fill (key : RankKey α) (s : RankShape α) :
    s.freed (RankArena.releaseOver junk) key (a.fill a.free junk) =
      (s.freed RankArena.release key a).fill (s.freed RankArena.release key a).free junk := by
  rw [freed, freed]
  cases s.slotOf? key with
  | none => rfl
  | some slot => exact RankArena.fill_fill (a := a.release slot)

lemma Stored.spares_erase (h : s.Stored a.nodes) (hnodup : (s.slots ++ a.free).Nodup)
    (key : RankKey α) : a.Spares fun release a => a.eraseWith release key s.link := by
  obtain ⟨hslots, -, hapart⟩ := List.nodup_append'.mp hnodup
  refine RankArena.spares_of_stored (s.erase key).link (s.freed RankArena.release key a)
    (s.erase key).slots (s.erase key).Stored (fun nodes nodes' hP hP' => hP.get_eq hP') ?_
    (h.exists_eraseWith hslots releases_release key) fun junk => ?_
  · -- the slot that is given back is no longer one of the tree
    rw [freed]
    cases hslot : s.slotOf? key with
    | none => exact fun i hi hmem => hapart ((slots_erase_sublist key s).subset hi) hmem
    | some slot =>
      have hperm := slots_erase_perm hslot
      intro i hi hmem
      rcases List.mem_cons.mp hmem with rfl | hmem
      · exact (List.nodup_cons.mp (hperm.nodup_iff.mp hslots)).1 hi
      · exact hapart (hperm.mem_iff.mpr (List.mem_cons_of_mem _ hi)) hmem
  · have hfill := (h.fill hapart junk).exists_eraseWith hslots
      (RankArena.releases_releaseOver junk) key
    rw [freed_fill] at hfill
    exact hfill

end RankShape

/-! ## What the operations on a multiset do to its arena -/

namespace RankTree

variable [Ord α] {t : RankTree α} {s : RankShape α}

lemma Shaped.spares_split (h : t.Shaped s) (pivot : RankKey α) :
    t.arena.Spares fun _ a => a.split pivot t.root := by
  rw [h.root]
  exact h.stored.spares_split h.nodup_slots pivot

/-- The two parts of a tree are joined. -/
lemma Shaped.spares_merge (h : t.Shaped s) (pivot : RankKey α) :
    ∃ l r a, t.arena.split pivot t.root = some ((l, r), a) ∧
      a.Spares fun _ a => a.merge l r := by
  obtain ⟨hslots, -, -⟩ := List.nodup_append'.mp h.nodup_slots
  obtain ⟨nodes', hsplit, hl, hr, -⟩ := h.stored.exists_split t.arena.free hslots pivot
  refine ⟨_, _, _, h.root ▸ hsplit, hl.spares_merge hr ?_⟩
  rw [RankShape.slots_split]
  exact h.nodup_slots

/-- The next key is put into the tree once it has a slot. -/
lemma Shaped.spares_graft (h : t.Shaped s) (v : α) :
    ∃ slot a, t.arena.alloc ⟨v, t.nextUid⟩ = some (slot, a) ∧
      a.Spares fun _ a => a.graft ⟨v, t.nextUid⟩ slot t.root := by
  obtain ⟨nodes', halloc, hnew, hstored, -⟩ := h.exists_alloc v
  refine ⟨_, _, halloc, ?_⟩
  rw [h.root]
  exact hstored.spares_graft (k := t.newItem v) hnew h.nodup_nextSlot

lemma Shaped.spares_erase (h : t.Shaped s) (key : RankKey α) :
    t.arena.Spares fun release a => a.eraseWith release key t.root := by
  rw [h.root]
  exact h.stored.spares_erase h.nodup_slots key

end RankTree
end CacheSim
