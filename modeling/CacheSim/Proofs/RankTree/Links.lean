import CacheSim.Proofs.RankTree.Shape

/-!
# An arena does what its shape does

A tree is `RankShape.Stored` in an array when every one of its nodes is in its slot, with its
weight and with links to the roots of its subtrees.  An operation on an arena that is given the
roots of stored trees comes to an end, gives the root of the tree that the same operation on shapes
gives, and stores it.  The trees must not share slots.  Slots of other trees are left as they are
(`SameBut`), which is what lets a subtree stay stored while its sibling is being changed.

* `RankShape.exists_join`: a node whose links are set is the root of the joined tree;
* `RankShape.Stored.exists_split`, `RankShape.Stored.exists_merge`,
  `RankShape.Stored.exists_eraseWith`: the recursions, one node at a time;
* `RankShape.Stored.exists_graft`, `RankArena.exists_alloc`: the two parts of an insertion.
-/

namespace CacheSim

variable {α : Type}

/-- A step that has a result is followed by the rest. -/
lemma bind_of_some {β γ : Type} {x : Option β} {f : β → Option γ} {b : β} {y : Option γ}
    (h : x = some b) (hrest : f b = y) : (x >>= f) = y := by
  rw [h]
  exact hrest

/-! ## Slots that stay as they are -/

/-- Outside of some slots two arrays of nodes are the same. -/
structure SameBut (slots : List Nat) (nodes nodes' : Array (RankNode α)) : Prop where
  size_eq : nodes'.size = nodes.size
  get : ∀ i, i ∉ slots → nodes'[i]? = nodes[i]?

namespace SameBut

variable {slots slots' : List Nat} {nodes nodes' nodes'' : Array (RankNode α)}

lemma refl (slots : List Nat) (nodes : Array (RankNode α)) : SameBut slots nodes nodes :=
  ⟨rfl, fun _ _ => rfl⟩

lemma mono (h : SameBut slots nodes nodes') (hsub : slots ⊆ slots') :
    SameBut slots' nodes nodes' :=
  ⟨h.size_eq, fun i hi => h.get i fun hmem => hi (hsub hmem)⟩

lemma trans (h : SameBut slots nodes nodes') (h' : SameBut slots nodes' nodes'') :
    SameBut slots nodes nodes'' :=
  ⟨h'.size_eq.trans h.size_eq, fun i hi => (h'.get i hi).trans (h.get i hi)⟩

end SameBut

namespace RankShape

/-- Every node of a tree is in its slot, with its weight and the slots of its subtrees. -/
def Stored (nodes : Array (RankNode α)) : RankShape α → Prop
  | leaf => True
  | node l k c r =>
    nodes[k.slot]? = some ⟨k.key, k.key.weight, c, l.link, r.link⟩ ∧
      l.Stored nodes ∧ r.Stored nodes

variable {s t l r : RankShape α} {k k' : RankItem α} {c : Nat} {slots : List Nat}
  {nodes nodes' : Array (RankNode α)} {a : RankArena α}

/-- Only the slots of a tree matter for it. -/
lemma Stored.congr (h : t.Stored nodes) (hsame : ∀ i ∈ t.slots, nodes'[i]? = nodes[i]?) :
    t.Stored nodes' := by
  induction t with
  | leaf => trivial
  | node l k c r ihl ihr =>
    obtain ⟨hk, hl, hr⟩ := h
    simp only [slots_node, List.mem_append, List.mem_cons] at hsame
    exact ⟨(hsame _ (Or.inr (Or.inl rfl))).trans hk, ihl hl fun i hi => hsame i (Or.inl hi),
      ihr hr fun i hi => hsame i (Or.inr (Or.inr hi))⟩

/-- A tree stays stored while other slots are changed. -/
lemma Stored.frame (h : t.Stored nodes) (hsame : SameBut slots nodes nodes')
    (hdisjoint : ∀ i ∈ t.slots, i ∉ slots) : t.Stored nodes' :=
  h.congr fun i hi => hsame.get i (hdisjoint i hi)

/-- A tree that is stored tells what is in its slots. -/
lemma Stored.get_eq (h : t.Stored nodes) (h' : t.Stored nodes') :
    ∀ i ∈ t.slots, nodes'[i]? = nodes[i]? := by
  induction t with
  | leaf => exact fun _ hi => absurd hi List.not_mem_nil
  | node l k c r ihl ihr =>
    obtain ⟨hk, hl, hr⟩ := h
    obtain ⟨hk', hl', hr'⟩ := h'
    intro i hi
    rw [slots_node, List.mem_append, List.mem_cons] at hi
    rcases hi with hi | rfl | hi
    · exact ihl hl hl' i hi
    · rw [hk, hk']
    · exact ihr hr hr' i hi

lemma nodup_node : (node l k c r).slots.Nodup ↔
    l.slots.Nodup ∧ r.slots.Nodup ∧ k.slot ∉ l.slots ∧ k.slot ∉ r.slots ∧
      ∀ i ∈ l.slots, i ∉ r.slots := by
  rw [slots_node, List.nodup_append, List.nodup_cons]
  grind

/-! ## One node -/

lemma Stored.countOf_link {free : List Nat} (h : t.Stored nodes) :
    RankArena.countOf ⟨nodes, free⟩ t.link = some t.count := by
  cases t with
  | leaf => rfl
  | node l k c r => rw [link, RankArena.countOf, h.1, Option.map_some, count]

/-- A node whose links are set is the root of the joined tree. -/
lemma exists_join {node : RankNode α} {free : List Nat} (change : RankNode α → RankNode α)
    (hnode : nodes[k.slot]? = some node)
    (hchange : change node = ⟨k.key, k.key.weight, c, l.link, r.link⟩)
    (hl : l.Stored nodes) (hr : r.Stored nodes) (hkl : k.slot ∉ l.slots)
    (hkr : k.slot ∉ r.slots) :
    ∃ nodes', RankArena.relink ⟨nodes, free⟩ k.slot change = some ⟨nodes', free⟩ ∧
      (l.join k r).Stored nodes' ∧ SameBut [k.slot] nodes nodes' := by
  have hlt : k.slot < nodes.size := (Array.getElem?_eq_some_iff.mp hnode).1
  set nodes' := nodes.setIfInBounds k.slot
    ⟨k.key, k.key.weight, 1 + l.count + r.count, l.link, r.link⟩ with hnodes'
  have hsame : SameBut [k.slot] nodes nodes' := by
    refine ⟨Array.size_setIfInBounds, fun i hi => ?_⟩
    have hne : k.slot ≠ i := fun heq => hi (List.mem_singleton.mpr heq.symm)
    rw [hnodes', Array.getElem?_setIfInBounds_ne hne]
  refine ⟨nodes', ?_, ⟨Array.getElem?_setIfInBounds_self_of_lt hlt, ?_, ?_⟩, hsame⟩
  · simp only [RankArena.relink, hnode, Option.bind_eq_bind, Option.bind_some, hchange,
      hl.countOf_link, hr.countOf_link, RankArena.put, if_pos hlt, ← hnodes']
  · exact hl.frame hsame fun i hi hmem => hkl (List.mem_singleton.mp hmem ▸ hi)
  · exact hr.frame hsame fun i hi hmem => hkr (List.mem_singleton.mp hmem ▸ hi)

/-! A subtree is replaced in two steps: first slots apart from the root and from the other subtree
are changed, then the root is linked to what is stored there now. -/

section Replace

variable {free : List Nat} (ht : (node l k c r).Stored nodes) (hsame : SameBut slots nodes nodes')
  (hk : k.slot ∉ slots)
include ht hsame hk

lemma Stored.replace_right (hkl : k.slot ∉ l.slots) (hl : ∀ i ∈ l.slots, i ∉ slots)
    (hs : s.Stored nodes') (hks : k.slot ∉ s.slots) :
    ∃ nodes'', RankArena.relink ⟨nodes', free⟩ k.slot
        (fun node => { node with right := s.link }) = some ⟨nodes'', free⟩ ∧
      (l.join k s).Stored nodes'' ∧ SameBut [k.slot] nodes' nodes'' ∧
      SameBut (k.slot :: slots) nodes nodes'' := by
  obtain ⟨nodes'', hrelink, hjoined, hroot⟩ :=
    exists_join (fun node => { node with right := s.link }) ((hsame.get _ hk).trans ht.1) rfl
      (ht.2.1.frame hsame hl) hs hkl hks
  exact ⟨nodes'', hrelink, hjoined, hroot,
    (hsame.mono (List.subset_cons_self _ _)).trans (hroot.mono (by simp))⟩

lemma Stored.replace_left (hkr : k.slot ∉ r.slots) (hr : ∀ i ∈ r.slots, i ∉ slots)
    (hs : s.Stored nodes') (hks : k.slot ∉ s.slots) :
    ∃ nodes'', RankArena.relink ⟨nodes', free⟩ k.slot
        (fun node => { node with left := s.link }) = some ⟨nodes'', free⟩ ∧
      (s.join k r).Stored nodes'' ∧ SameBut [k.slot] nodes' nodes'' ∧
      SameBut (k.slot :: slots) nodes nodes'' := by
  obtain ⟨nodes'', hrelink, hjoined, hroot⟩ :=
    exists_join (fun node => { node with left := s.link }) ((hsame.get _ hk).trans ht.1) rfl
      hs (ht.2.2.frame hsame hr) hks hkr
  exact ⟨nodes'', hrelink, hjoined, hroot,
    (hsame.mono (List.subset_cons_self _ _)).trans (hroot.mono (by simp))⟩

end Replace

/-! ## The recursions -/

/-- Trees that share no slots are joined to one tree in the same slots. -/
lemma Stored.exists_merge (free : List Nat) (hs : s.Stored nodes) (ht : t.Stored nodes)
    (hnodup : (s.slots ++ t.slots).Nodup) :
    ∃ nodes', RankArena.merge ⟨nodes, free⟩ s.link t.link =
        some ((s.merge t).link, ⟨nodes', free⟩) ∧
      (s.merge t).Stored nodes' ∧ SameBut (s.slots ++ t.slots) nodes nodes' := by
  induction s, t using merge_induction with
  | left t => exact ⟨nodes, RankArena.merge.eq_1 _ _, ht, SameBut.refl _ _⟩
  | right l k c r =>
    exact ⟨nodes, RankArena.merge.eq_2 _ _ (Option.some_ne_none _), hs, SameBut.refl _ _⟩
  | first l k c r l' k' c' r' hweight ih =>
    obtain ⟨hrest, hkl, hk, hl⟩ : (r.slots ++ (node l' k' c' r').slots).Nodup ∧
        k.slot ∉ l.slots ∧ k.slot ∉ r.slots ++ (node l' k' c' r').slots ∧
        ∀ i ∈ l.slots, i ∉ r.slots ++ (node l' k' c' r').slots := by
      rw [slots_node, List.append_assoc, List.cons_append, List.nodup_append,
        List.nodup_cons] at hnodup
      grind
    obtain ⟨nodes₁, hmerge, hmerged, hsame₁⟩ := ih hs.2.2 ht hrest
    obtain ⟨nodes₂, hrelink, hjoined, -, hsame₂⟩ :=
      hs.replace_right hsame₁ hk hkl hl hmerged (slots_merge r _ ▸ hk)
    rw [merge_node, if_pos hweight]
    refine ⟨nodes₂, ?_, hjoined, hsame₂.mono (by simp [slots_node])⟩
    rw [link, link, RankArena.merge.eq_3]
    refine bind_of_some hs.1 (bind_of_some ht.1 ?_)
    rw [if_pos hweight]
    exact bind_of_some hmerge (bind_of_some hrelink rfl)
  | second l k c r l' k' c' r' hweight ih =>
    obtain ⟨hrest, hkr, hk, hr⟩ : ((node l k c r).slots ++ l'.slots).Nodup ∧
        k'.slot ∉ r'.slots ∧ k'.slot ∉ (node l k c r).slots ++ l'.slots ∧
        ∀ i ∈ r'.slots, i ∉ (node l k c r).slots ++ l'.slots := by
      rw [slots_node (l := l'), ← List.append_assoc, List.nodup_append, List.nodup_cons] at hnodup
      grind
    obtain ⟨nodes₁, hmerge, hmerged, hsame₁⟩ := ih hs ht.2.1 hrest
    obtain ⟨nodes₂, hrelink, hjoined, -, hsame₂⟩ :=
      ht.replace_left hsame₁ hk hkr hr hmerged (slots_merge _ l' ▸ hk)
    rw [merge_node, if_neg hweight]
    refine ⟨nodes₂, ?_, hjoined, hsame₂.mono ?_⟩
    · rw [link, link, RankArena.merge.eq_3]
      refine bind_of_some hs.1 (bind_of_some ht.1 ?_)
      rw [if_neg hweight]
      exact bind_of_some hmerge (bind_of_some hrelink rfl)
    · rw [slots_node (l := l')]
      intro i hi
      grind

variable [Ord α]

/-- A tree is split into two trees in the same slots. -/
lemma Stored.exists_split (free : List Nat) (ht : t.Stored nodes) (hnodup : t.slots.Nodup)
    (pivot : RankKey α) :
    ∃ nodes', RankArena.split pivot ⟨nodes, free⟩ t.link =
        some (((t.split pivot).1.link, (t.split pivot).2.link), ⟨nodes', free⟩) ∧
      (t.split pivot).1.Stored nodes' ∧ (t.split pivot).2.Stored nodes' ∧
      SameBut t.slots nodes nodes' := by
  induction t with
  | leaf => exact ⟨nodes, RankArena.split.eq_1 pivot _, trivial, trivial, SameBut.refl _ _⟩
  | node l k c r ihl ihr =>
    obtain ⟨hl, hr, hkl, hkr, hlr⟩ := nodup_node.mp hnodup
    by_cases hbefore : k.key.before pivot = true
    · obtain ⟨nodes₁, hsplit, hbelow, habove, hsame₁⟩ := ihr ht.2.2 hr
      obtain ⟨hk₁, hk₂⟩ : k.slot ∉ (r.split pivot).1.slots ∧ k.slot ∉ (r.split pivot).2.slots := by
        rwa [← slots_split pivot r, List.mem_append, not_or] at hkr
      obtain ⟨nodes₂, hrelink, hjoined, hroot, hsame₂⟩ :=
        ht.replace_right hsame₁ hkr hkl hlr hbelow hk₁
      rw [RankShape.split, if_pos hbefore]
      refine ⟨nodes₂, ?_, hjoined, habove.frame hroot ?_, hsame₂.mono (by simp [slots_node])⟩
      · rw [link, RankArena.split]
        refine bind_of_some ht.1 ?_
        rw [if_pos hbefore]
        exact bind_of_some hsplit (bind_of_some hrelink rfl)
      · exact fun i hi hmem => hk₂ (List.mem_singleton.mp hmem ▸ hi)
    · obtain ⟨nodes₁, hsplit, hbelow, habove, hsame₁⟩ := ihl ht.2.1 hl
      obtain ⟨hk₁, hk₂⟩ : k.slot ∉ (l.split pivot).1.slots ∧ k.slot ∉ (l.split pivot).2.slots := by
        rwa [← slots_split pivot l, List.mem_append, not_or] at hkl
      obtain ⟨nodes₂, hrelink, hjoined, hroot, hsame₂⟩ :=
        ht.replace_left hsame₁ hkl hkr (fun i hi hmem => hlr i hmem hi) habove hk₂
      rw [RankShape.split, if_neg hbefore]
      refine ⟨nodes₂, ?_, hbelow.frame hroot ?_, hjoined, hsame₂.mono (by simp [slots_node])⟩
      · rw [link, RankArena.split]
        refine bind_of_some ht.1 ?_
        rw [if_neg hbefore]
        exact bind_of_some hsplit (bind_of_some hrelink rfl)
      · exact fun i hi hmem => hk₁ (List.mem_singleton.mp hmem ▸ hi)

/-! ## Erasure

On the way to a key nodes are only read.  All changes to the tree are made in the arena in which the
slot of the key has been given back. -/

section Erasure

variable {release : RankArena α → Nat → RankArena α} {key : RankKey α}

/-- The arena after the slot of a key has been given back, if the key is found. -/
def freed (release : RankArena α → Nat → RankArena α) (key : RankKey α) (a : RankArena α)
    (t : RankShape α) : RankArena α :=
  (t.slotOf? key).elim a (release a)

/-- Giving a slot back may change what is in it, but no other slot. -/
def Releases (release : RankArena α → Nat → RankArena α) (a : RankArena α) : Prop :=
  ∀ slot, SameBut [slot] a.nodes (release a slot).nodes

omit [Ord α] in
lemma releases_release : Releases RankArena.release a :=
  fun _ => SameBut.refl _ _

lemma Releases.sameBut (h : Releases release a) (key : RankKey α) (t : RankShape α) :
    SameBut t.slots a.nodes (t.freed release key a).nodes := by
  rw [freed]
  cases hslot : t.slotOf? key with
  | none => exact SameBut.refl _ _
  | some slot =>
    refine (h slot).mono fun i hi => ?_
    rw [List.mem_singleton.mp hi]
    exact slot_mem_of_slotOf? hslot

/-- A key is erased.  Once its slot has been given back, only what is left of the tree is
changed. -/
lemma Stored.exists_eraseWith (ht : t.Stored a.nodes) (hnodup : t.slots.Nodup)
    (hrelease : Releases release a) (key : RankKey α) :
    ∃ nodes', RankArena.eraseWith release key a t.link =
        some ((t.erase key).link, ⟨nodes', (t.freed release key a).free⟩) ∧
      (t.erase key).Stored nodes' ∧
      SameBut (t.erase key).slots (t.freed release key a).nodes nodes' := by
  induction t with
  | leaf => exact ⟨a.nodes, RankArena.eraseWith.eq_1 release key a, trivial, SameBut.refl _ _⟩
  | node l k c r ihl ihr =>
    obtain ⟨hl, hr, hkl, hkr, hlr⟩ := nodup_node.mp hnodup
    rw [link, RankArena.eraseWith, RankShape.erase, freed, slotOf?]
    by_cases hbelow : key.before k.key = true
    · obtain ⟨nodes₁, herase, herased, hsame₁⟩ := ihl ht.2.1 hl
      have hsub := (slots_erase_sublist key l).subset
      obtain ⟨nodes₂, hrelink, hjoined, hroot, -⟩ :=
        ht.replace_left ((hrelease.sameBut key l).trans (hsame₁.mono hsub)) hkl hkr
          (fun i hmem hi => hlr i hi hmem) herased fun hmem => hkl (hsub hmem)
      rw [if_pos hbelow, if_pos hbelow]
      refine ⟨nodes₂, bind_of_some ht.1 ?_, hjoined,
        (hsame₁.mono ?_).trans (hroot.mono (by simp [slots_join]))⟩
      · rw [if_pos hbelow]
        exact bind_of_some herase (bind_of_some hrelink rfl)
      · rw [slots_join]
        exact List.subset_append_left _ _
    · rw [if_neg hbelow, if_neg hbelow]
      by_cases habove : k.key.before key = true
      · obtain ⟨nodes₁, herase, herased, hsame₁⟩ := ihr ht.2.2 hr
        have hsub := (slots_erase_sublist key r).subset
        obtain ⟨nodes₂, hrelink, hjoined, hroot, -⟩ :=
          ht.replace_right ((hrelease.sameBut key r).trans (hsame₁.mono hsub)) hkr hkl hlr herased
            fun hmem => hkr (hsub hmem)
        rw [if_pos habove, if_pos habove]
        refine ⟨nodes₂, bind_of_some ht.1 ?_, hjoined,
          (hsame₁.mono ?_).trans (hroot.mono (by simp [slots_join]))⟩
        · rw [if_neg hbelow, if_pos habove]
          exact bind_of_some herase (bind_of_some hrelink rfl)
        · rw [slots_join]
          exact fun i hi => List.mem_append_right _ (List.mem_cons_of_mem _ hi)
      · -- the slot is given back, and the subtrees are joined in what that leaves
        have hslot : ∀ i ∈ l.slots ++ r.slots, i ∉ [k.slot] := by
          intro i hi hmem
          rw [List.mem_singleton.mp hmem] at hi
          exact (List.mem_append.mp hi).elim hkl hkr
        have hleft := ht.2.1.frame (hrelease k.slot) fun i hi => hslot i (List.mem_append_left _ hi)
        have hright :=
          ht.2.2.frame (hrelease k.slot) fun i hi => hslot i (List.mem_append_right _ hi)
        obtain ⟨nodes₁, hmerge, hmerged, hsame₁⟩ :=
          hleft.exists_merge (release a k.slot).free hright
            (List.nodup_append'.mpr ⟨hl, hr, hlr⟩)
        rw [if_neg habove, if_neg habove]
        refine ⟨nodes₁, bind_of_some ht.1 ?_, hmerged, slots_merge l r ▸ hsame₁⟩
        rw [if_neg hbelow, if_neg habove]
        exact hmerge

end Erasure

/-! ## Insertion -/

/-- A key in a slot of its own is joined to a tree. -/
lemma Stored.exists_graft (free : List Nat) (ht : t.Stored nodes)
    (hk : nodes[k.slot]? = some (.single k.key)) (hnodup : (k.slot :: t.slots).Nodup) :
    ∃ nodes', RankArena.graft ⟨nodes, free⟩ k.key k.slot t.link =
        some ((t.insert k).link, ⟨nodes', free⟩) ∧
      (t.insert k).Stored nodes' ∧ SameBut (k.slot :: t.slots) nodes nodes' := by
  obtain ⟨hkt, ht'⟩ := List.nodup_cons.mp hnodup
  obtain ⟨nodes₁, hsplit, hbelow, habove, hsame₁⟩ := ht.exists_split free ht' k.key
  have hslots := slots_split k.key t
  set below := (t.split k.key).1
  set above := (t.split k.key).2
  have hsingle : (single k).Stored nodes₁ := ⟨(hsame₁.get _ hkt).trans hk, trivial, trivial⟩
  -- the two parts and the new slot are apart, since the parts share out the slots of `t`
  have hapart : (below.slots ++ [k.slot] ++ above.slots).Nodup := by
    rw [List.append_assoc, List.singleton_append, List.perm_middle.nodup_iff, hslots]
    exact hnodup
  obtain ⟨nodes₂, hmerge₁, hlower, hsame₂⟩ :=
    hbelow.exists_merge free hsingle (List.nodup_append.mp hapart).1
  have habove' : above.Stored nodes₂ :=
    habove.frame hsame₂ fun i hi hmem => (List.nodup_append'.mp hapart).2.2 hmem hi
  obtain ⟨nodes₃, hmerge₂, hstored, hsame₃⟩ :=
    hlower.exists_merge free habove' (by rwa [slots_merge])
  have hsub : below.slots ++ [k.slot] ++ above.slots ⊆ k.slot :: t.slots := by
    rw [List.append_assoc, List.singleton_append, ← hslots]
    exact List.perm_middle.subset
  refine ⟨nodes₃, bind_of_some hsplit (bind_of_some hmerge₁ hmerge₂), hstored, ?_⟩
  refine ((hsame₁.mono (List.subset_cons_self _ _)).trans (hsame₂.mono ?_)).trans (hsame₃.mono ?_)
  · exact fun i hi => hsub (List.mem_append_left _ hi)
  · rwa [slots_merge]

end RankShape

namespace RankArena

variable {a : RankArena α}

/-- The slot that the next key gets. -/
def nextSlot (a : RankArena α) : Nat :=
  a.free.headD a.nodes.size

/-- A key gets a slot that is free or new, and the other slots stay as they are. -/
lemma exists_alloc (hfree : ∀ i ∈ a.free, i < a.nodes.size) (k : RankKey α) :
    ∃ nodes', a.alloc k = some (a.nextSlot, ⟨nodes', a.free.tail⟩) ∧
      nodes'[a.nextSlot]? = some (.single k) ∧
      (∀ i, i ≠ a.nextSlot → nodes'[i]? = a.nodes[i]?) ∧
      nodes'.size = if a.free = [] then a.nodes.size + 1 else a.nodes.size := by
  obtain ⟨nodes, _ | ⟨slot, free⟩⟩ := a
  · refine ⟨nodes.push (.single k), rfl, Array.getElem?_push_size, fun i hi => ?_, by simp⟩
    exact (Array.getElem?_push ..).trans (if_neg hi)
  · have hlt : slot < nodes.size := hfree slot List.mem_cons_self
    refine ⟨nodes.setIfInBounds slot (.single k), ?_, Array.getElem?_setIfInBounds_self_of_lt hlt,
      fun i hi => Array.getElem?_setIfInBounds_ne (Ne.symm hi), by simp⟩
    simp only [alloc, put, if_pos hlt, Option.bind_eq_bind, Option.bind_some, nextSlot,
      List.headD_cons, List.tail_cons]

end RankArena

end CacheSim
