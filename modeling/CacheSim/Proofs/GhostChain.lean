import CacheSim.GhostLog
import CacheSim.Proofs.Tables

/-!
# The chain of ghosts

A log finds its ghosts in the order of time by following neighbours.  `GhostLog.Linked` says that
the neighbours are right: the newer neighbour of a filed ghost is in the next larger place that is
in use, the older one in the next smaller place, and the chain begins and ends at the least and the
greatest place.  When a ghost is taken out or put in, the links around it are set one by one; that
this mends the chain at either end and in the middle is one lemma on orders, since no place at all
may stand for the end of the chain.

* `Adjacent.flip`: what is next in one order is next in the other one, seen from there;
* `GhostLog.Linked.unlink`, `GhostLog.Linked.link`: the chain is mended;
* `GhostLog.Linked.toList_eq`, `GhostLog.Linked.newestFirst_eq`: following neighbours leads through
  all ghosts in the order of their places, or back.
-/

namespace CacheSim

/-! ## Neighbours in an order -/

/-- A place comes after another one in an order.  Every place comes after no place. -/
def After (lt : Nat → Nat → Prop) (a : Option Nat) (q : Nat) : Prop :=
  ∀ x ∈ a, lt x q

/-- What is next to a place in an order of the places in use: the first one after it, or no place
if there is none after it.  The first of all is next to no place. -/
def Adjacent (lt : Nat → Nat → Prop) (used : Nat → Prop) (a : Option Nat) : Option Nat → Prop
  | none => ∀ q, used q → ¬ After lt a q
  | some p => (used p ∧ After lt a p) ∧ ∀ q, used q → After lt a q → q = p ∨ lt p q

section Order

variable {lt : Nat → Nat → Prop} {used used' : Nat → Prop}
variable {a a' b b' first last : Option Nat} {p q : Nat}

lemma after_none (q : Nat) : After lt none q :=
  fun _ hx => absurd hx (Option.not_mem_none _)

lemma after_some : After lt (some p) q ↔ lt p q := by
  simp [After]

/-- Only the places after it count. -/
lemma Adjacent.congr (h : Adjacent lt used a b)
    (hsame : ∀ q, used q ∧ After lt a q ↔ used' q ∧ After lt a' q) : Adjacent lt used' a' b := by
  cases b with
  | none =>
    intro q hq hafter
    obtain ⟨hq', hafter'⟩ := (hsame q).mpr ⟨hq, hafter⟩
    exact h q hq' hafter'
  | some p =>
    refine ⟨(hsame p).mp h.1, fun q hq hafter => ?_⟩
    obtain ⟨hq, hafter⟩ := (hsame q).mpr ⟨hq, hafter⟩
    exact h.2 q hq hafter

variable [IsStrictTotalOrder Nat lt]

/-- What is next to a place is in use and is another one. -/
lemma Adjacent.in_use (h : Adjacent lt used a b) : ∀ x ∈ b, used x ∧ a ≠ some x := by
  rintro x rfl
  refine ⟨h.1.1, ?_⟩
  rintro rfl
  exact irrefl_of lt x (after_some.mp h.1.2)

lemma Adjacent.unique (h : Adjacent lt used a b) (h' : Adjacent lt used a b') : b = b' := by
  cases b with
  | none =>
    cases b' with
    | none => rfl
    | some p => exact absurd h'.1.2 (h p h'.1.1)
  | some p =>
    cases b' with
    | none => exact absurd h.1.2 (h' p h.1.1)
    | some p' =>
      rcases h.2 p' h'.1.1 h'.1.2 with rfl | hlt
      · rfl
      · rcases h'.2 p h.1.1 h.1.2 with rfl | hlt'
        · rfl
        · exact absurd hlt' (asymm_of lt hlt)

/-- What is next in one order is next in the other one, seen from there. -/
lemma Adjacent.flip (h : Adjacent lt used a b) (ha : ∀ x ∈ a, used x) :
    Adjacent (Function.swap lt) used b a := by
  -- between the two there is no place in use
  have hnone : ∀ q, used q → After lt a q → ¬ After (Function.swap lt) b q := by
    intro q hq hafter hbefore
    cases b with
    | none => exact h q hq hafter
    | some p =>
      have hlt : lt q p := hbefore p rfl
      rcases h.2 q hq hafter with rfl | hlt'
      · exact irrefl_of lt q hlt
      · exact asymm_of lt hlt hlt'
  cases a with
  | none => exact fun q hq => hnone q hq (after_none q)
  | some x =>
    refine ⟨⟨ha x rfl, ?_⟩, fun q hq hbefore => ?_⟩
    · rintro p rfl
      exact h.1.2 x rfl
    · rcases trichotomous_of lt q x with hlt | rfl | hlt
      · exact Or.inr hlt
      · exact Or.inl rfl
      · exact absurd hbefore (hnone q hq (after_some.mpr hlt))

/-- A place between two neighbours goes out of use: they become neighbours of each other. -/
lemma Adjacent.erase (h : Adjacent lt used a b) (ha : ∀ x ∈ a, used x) (hne : a ≠ some p)
    (hused : used p) (hfirst : Adjacent (Function.swap lt) used (some p) first)
    (hlast : Adjacent lt used (some p) last) :
    Adjacent lt (fun q => used q ∧ q ≠ p) a (if first = a then last else b) := by
  have hp : ∀ x ∈ some p, used x := by
    rintro x ⟨⟩
    exact hused
  have hnext : Adjacent lt used first (some p) := hfirst.flip hp
  split
  · next heq =>
    subst heq
    refine hlast.congr fun q => ?_
    rw [after_some]
    constructor
    · rintro ⟨hq, hlt⟩
      refine ⟨⟨hq, ?_⟩, fun x hx => trans_of lt (hnext.1.2 x hx) hlt⟩
      rintro rfl
      exact irrefl_of lt q hlt
    · rintro ⟨⟨hq, hqp⟩, hafter⟩
      exact ⟨hq, (hnext.2 q hq hafter).resolve_left hqp⟩
  · next hother =>
    -- only one place has `p` next to it
    have hb : b ≠ some p := by
      rintro rfl
      exact hother (hfirst.unique (h.flip ha))
    cases b with
    | none => exact fun q hq => h q hq.1
    | some b =>
      exact ⟨⟨⟨h.1.1, fun heq => hb (congrArg some heq)⟩, h.1.2⟩, fun q hq => h.2 q hq.1⟩

/-- A place after all others comes into use: it is next to the one that was the last. -/
lemma Adjacent.insert (h : Adjacent lt used a b) (ha : ∀ x ∈ a, used x)
    (hp : ∀ q, used q → lt q p) (hlast : ∀ x ∈ last, used x) (hnone : Adjacent lt used last none) :
    Adjacent lt (fun q => p = q ∨ used q) a (if last = a then some p else b) := by
  split
  · next heq =>
    subst heq
    refine ⟨⟨Or.inl rfl, fun x hx => hp x (ha x hx)⟩, fun q hq hafter => ?_⟩
    exact hq.imp Eq.symm fun hq => absurd hafter (hnone q hq)
  · next hother =>
    cases b with
    | none =>
      have hend := h.flip ha
      exact absurd ((hnone.flip hlast).unique hend) hother
    | some b =>
      refine ⟨⟨Or.inr h.1.1, h.1.2⟩, fun q hq hafter => ?_⟩
      rcases hq with rfl | hq
      · exact Or.inr (hp b h.1.1)
      · exact h.2 q hq hafter

end Order

namespace GhostLog

variable {log log' : GhostLog} {ghost : Ghost} {node : GhostNode} {a a' b : Option Nat}
variable {place p n : Nat}

/-! ## The chain -/

/-- The ghosts by place. -/
def ghosts (log : GhostLog) : Std.TreeMap Nat Ghost :=
  log.nodes.map fun _ node => node.ghost

/-- The newer neighbour of the ghost at a place.  Without a place it is the oldest ghost. -/
def newer? (log : GhostLog) : Option Nat → Option Nat
  | none => log.head
  | some place => log.nodes[place]?.bind GhostNode.newer

/-- The older neighbour of the ghost at a place.  Without a place it is the newest ghost. -/
def older? (log : GhostLog) : Option Nat → Option Nat
  | none => log.tail
  | some place => log.nodes[place]?.bind GhostNode.older

/-- The neighbours of a ghost are those in the order of the places. -/
structure Linked (log : GhostLog) : Prop where
  newer : ∀ a, (∀ x ∈ a, x ∈ log.nodes) → Adjacent (· < ·) (· ∈ log.nodes) a (log.newer? a)
  older : ∀ a, (∀ x ∈ a, x ∈ log.nodes) → Adjacent (· > ·) (· ∈ log.nodes) a (log.older? a)

lemma getElem?_ghosts (log : GhostLog) (p : Nat) :
    log.ghosts[p]? = log.nodes[p]?.map GhostNode.ghost :=
  Std.TreeMap.getElem?_map

lemma getElem?_ghosts_eq_some : log.ghosts[p]? = some ghost ↔
    ∃ node, log.nodes[p]? = some node ∧ node.ghost = ghost := by
  rw [getElem?_ghosts, Option.map_eq_some_iff]

lemma mem_ghosts : p ∈ log.ghosts ↔ p ∈ log.nodes :=
  Std.TreeMap.mem_map

lemma linked_of_isEmpty (hnodes : log.nodes = ∅) (hhead : log.head = none)
    (htail : log.tail = none) : log.Linked := by
  have hempty : ∀ q, q ∉ log.nodes := by
    rw [hnodes]
    exact fun q => Std.TreeMap.not_mem_emptyc
  have hends : ∀ a : Option Nat, (∀ x ∈ a, x ∈ log.nodes) → a = none := by
    intro a ha
    exact Option.eq_none_iff_forall_not_mem.mpr fun x hx => hempty x (ha x hx)
  refine ⟨fun a ha => ?_, fun a ha => ?_⟩
  · rw [hends a ha, newer?, hhead]
    exact fun q hq => absurd hq (hempty q)
  · rw [hends a ha, older?, htail]
    exact fun q hq => absurd hq (hempty q)

/-! ## Setting a link -/

lemma mem_setNewer : p ∈ (log.setNewer a b).nodes ↔ p ∈ log.nodes := by
  cases a with
  | none => rfl
  | some x => exact Std.TreeMap.mem_modify

lemma mem_setOlder : p ∈ (log.setOlder a b).nodes ↔ p ∈ log.nodes := by
  cases a with
  | none => rfl
  | some x => exact Std.TreeMap.mem_modify

lemma getElem?_modify {f : GhostNode → GhostNode} {x : Nat} :
    (log.nodes.modify x f)[p]? = if x = p then log.nodes[p]?.map f else log.nodes[p]? := by
  rw [Std.TreeMap.getElem?_modify]
  simp only [Std.compare_eq_iff_eq]
  split
  · next heq => rw [heq]
  · rfl

lemma ghosts_setNewer (p : Nat) : (log.setNewer a b).ghosts[p]? = log.ghosts[p]? := by
  cases a with
  | none => rfl
  | some x =>
    rw [getElem?_ghosts, getElem?_ghosts, setNewer, getElem?_modify]
    split
    · rw [Option.map_map]
      rfl
    · rfl

lemma ghosts_setOlder (p : Nat) : (log.setOlder a b).ghosts[p]? = log.ghosts[p]? := by
  cases a with
  | none => rfl
  | some x =>
    rw [getElem?_ghosts, getElem?_ghosts, setOlder, getElem?_modify]
    split
    · rw [Option.map_map]
      rfl
    · rfl

lemma newer?_setNewer (ha : ∀ x ∈ a, x ∈ log.nodes) :
    (log.setNewer a b).newer? a' = if a = a' then b else log.newer? a' := by
  cases a with
  | none => cases a' <;> rfl
  | some x =>
    cases a' with
    | none => rfl
    | some p =>
      obtain ⟨node, hnode⟩ := Table.mem_iff_exists.mp (ha x rfl)
      rw [setNewer, newer?, getElem?_modify, newer?]
      simp only [Option.some.injEq]
      split
      · next heq =>
        subst heq
        rw [hnode]
        rfl
      · rfl

lemma newer?_setOlder : (log.setOlder a b).newer? a' = log.newer? a' := by
  cases a with
  | none => cases a' <;> rfl
  | some x =>
    cases a' with
    | none => rfl
    | some p =>
      rw [setOlder, newer?, getElem?_modify, newer?]
      split
      · cases log.nodes[p]? <;> rfl
      · rfl

lemma older?_setOlder (ha : ∀ x ∈ a, x ∈ log.nodes) :
    (log.setOlder a b).older? a' = if a = a' then b else log.older? a' := by
  cases a with
  | none => cases a' <;> rfl
  | some x =>
    cases a' with
    | none => rfl
    | some p =>
      obtain ⟨node, hnode⟩ := Table.mem_iff_exists.mp (ha x rfl)
      rw [setOlder, older?, getElem?_modify, older?]
      simp only [Option.some.injEq]
      split
      · next heq =>
        subst heq
        rw [hnode]
        rfl
      · rfl

lemma older?_setNewer : (log.setNewer a b).older? a' = log.older? a' := by
  cases a with
  | none => cases a' <;> rfl
  | some x =>
    cases a' with
    | none => rfl
    | some p =>
      rw [setNewer, older?, getElem?_modify, older?]
      split
      · cases log.nodes[p]? <;> rfl
      · rfl

/-- What a log does not know by its links stays as it is. -/
lemma kept_setNewer :
    (log.setNewer a b).nextPlace = log.nextPlace ∧ (log.setNewer a b).budget = log.budget := by
  cases a <;> exact ⟨rfl, rfl⟩

lemma kept_setOlder :
    (log.setOlder a b).nextPlace = log.nextPlace ∧ (log.setOlder a b).budget = log.budget := by
  cases a <;> exact ⟨rfl, rfl⟩

/-! ## Taking a ghost out -/

lemma kept_unlink : (log.unlink place node).nextPlace = log.nextPlace ∧
    (log.unlink place node).budget = log.budget := by
  rw [unlink, kept_setOlder.1, kept_setOlder.2, kept_setNewer.1, kept_setNewer.2]
  exact ⟨rfl, rfl⟩

lemma mem_unlink : p ∈ (log.unlink place node).nodes ↔ p ∈ log.nodes ∧ p ≠ place := by
  rw [unlink, mem_setOlder, mem_setNewer, Std.TreeMap.mem_erase, Ne, Std.compare_eq_iff_eq,
    and_comm, ne_comm]

lemma ghosts_unlink (p : Nat) :
    (log.unlink place node).ghosts[p]? = (log.ghosts.erase place)[p]? := by
  rw [unlink, ghosts_setOlder, ghosts_setNewer, getElem?_ghosts, Std.TreeMap.getElem?_erase,
    Std.TreeMap.getElem?_erase, getElem?_ghosts]
  split <;> rfl

/-- Every filed ghost has its neighbours. -/
lemma Linked.neighbours (h : log.Linked) (hnode : log.nodes[place]? = some node) :
    Adjacent (· < ·) (· ∈ log.nodes) (some place) node.newer ∧
      Adjacent (· > ·) (· ∈ log.nodes) (some place) node.older := by
  have hplace : ∀ x ∈ some place, x ∈ log.nodes := by
    rintro x ⟨⟩
    exact Table.mem_iff_exists.mpr ⟨node, hnode⟩
  have hnewer := h.newer _ hplace
  have holder := h.older _ hplace
  rw [newer?, hnode] at hnewer
  rw [older?, hnode] at holder
  exact ⟨hnewer, holder⟩

/-- What is next to a place stays when that place is erased. -/
lemma mem_erase_of_adjacent {lt : Nat → Nat → Prop} [IsStrictTotalOrder Nat lt]
    (h : Adjacent lt (· ∈ log.nodes) (some place) a) : ∀ x ∈ a, x ∈ log.nodes.erase place := by
  intro x hx
  obtain ⟨hused, hne⟩ := h.in_use x hx
  rw [Std.TreeMap.mem_erase, Ne, Std.compare_eq_iff_eq]
  exact ⟨fun heq => hne (congrArg some heq), hused⟩

/-- The newer neighbours after a ghost has been taken out. -/
lemma Linked.newer?_unlink (h : log.Linked) (hnode : log.nodes[place]? = some node)
    (ha : a ≠ some place) :
    (log.unlink place node).newer? a = if node.older = a then node.newer else log.newer? a := by
  obtain ⟨-, holder⟩ := h.neighbours hnode
  rw [unlink, newer?_setOlder, newer?_setNewer (mem_erase_of_adjacent holder)]
  congr 1
  cases a with
  | none => rfl
  | some x =>
    have hx : compare place x ≠ .eq := by
      rw [Ne, Std.compare_eq_iff_eq]
      exact fun heq => ha (congrArg some heq.symm)
    simp only [newer?, Std.TreeMap.getElem?_erase, if_neg hx]

/-- The older neighbours after a ghost has been taken out. -/
lemma Linked.older?_unlink (h : log.Linked) (hnode : log.nodes[place]? = some node)
    (ha : a ≠ some place) :
    (log.unlink place node).older? a = if node.newer = a then node.older else log.older? a := by
  obtain ⟨hnewer, -⟩ := h.neighbours hnode
  have hfiled := mem_erase_of_adjacent hnewer
  rw [unlink, older?_setOlder fun x hx => mem_setNewer.mpr (hfiled x hx), older?_setNewer]
  congr 1
  cases a with
  | none => rfl
  | some x =>
    have hx : compare place x ≠ .eq := by
      rw [Ne, Std.compare_eq_iff_eq]
      exact fun heq => ha (congrArg some heq.symm)
    simp only [older?, Std.TreeMap.getElem?_erase, if_neg hx]

/-- The chain is mended where a ghost is taken out. -/
lemma Linked.unlink (h : log.Linked) (hnode : log.nodes[place]? = some node) :
    (log.unlink place node).Linked := by
  obtain ⟨hnewer, holder⟩ := h.neighbours hnode
  have hplace : place ∈ log.nodes := Table.mem_iff_exists.mpr ⟨node, hnode⟩
  refine ⟨fun a ha => ?_, fun a ha => ?_⟩
  · have hused : ∀ x ∈ a, x ∈ log.nodes := fun x hx => (mem_unlink.mp (ha x hx)).1
    have hne : a ≠ some place := fun heq => (mem_unlink.mp (ha place heq)).2 rfl
    rw [h.newer?_unlink hnode hne]
    simp only [mem_unlink]
    exact (h.newer a hused).erase hused hne hplace holder hnewer
  · have hused : ∀ x ∈ a, x ∈ log.nodes := fun x hx => (mem_unlink.mp (ha x hx)).1
    have hne : a ≠ some place := fun heq => (mem_unlink.mp (ha place heq)).2 rfl
    rw [h.older?_unlink hnode hne]
    simp only [mem_unlink]
    exact (h.older a hused).erase hused hne hplace hnewer holder

/-! ## Putting a ghost in -/

lemma kept_link : (log.link ghost).nextPlace = log.nextPlace + 1 ∧
    (log.link ghost).budget = log.budget :=
  kept_setNewer

lemma mem_link : p ∈ (log.link ghost).nodes ↔ log.nextPlace = p ∨ p ∈ log.nodes := by
  change p ∈ (GhostLog.setNewer _ _ _).nodes ↔ _
  rw [mem_setNewer, Std.TreeMap.mem_insert, Std.compare_eq_iff_eq]

lemma ghosts_link (p : Nat) :
    (log.link ghost).ghosts[p]? = (log.ghosts.insert log.nextPlace ghost)[p]? := by
  change (GhostLog.setNewer _ _ _).ghosts[p]? = _
  rw [ghosts_setNewer, getElem?_ghosts, Std.TreeMap.getElem?_insert, Std.TreeMap.getElem?_insert,
    getElem?_ghosts]
  split <;> rfl

/-- The newer neighbours after a ghost has been put behind the newest one. -/
lemma newer?_link (htail : ∀ x ∈ log.tail, x ∈ log.nodes) :
    (log.link ghost).newer? a =
      if log.tail = a then some log.nextPlace
      else if a = some log.nextPlace then none else log.newer? a := by
  have hfiled : ∀ x ∈ log.tail,
      x ∈ log.nodes.insert log.nextPlace (⟨ghost, log.tail, none⟩ : GhostNode) :=
    fun x hx => Std.TreeMap.mem_insert.mpr (Or.inr (htail x hx))
  have hlinks : (log.link ghost).newer? a = GhostLog.newer? (setNewer { log with
      nodes := log.nodes.insert log.nextPlace ⟨ghost, log.tail, none⟩
      nextPlace := log.nextPlace + 1 } log.tail (some log.nextPlace)) a := by
    cases a <;> rfl
  rw [hlinks, newer?_setNewer hfiled]
  congr 1
  cases a with
  | none => rfl
  | some x =>
    simp only [newer?, Std.TreeMap.getElem?_insert, Std.compare_eq_iff_eq, Option.some.injEq,
      eq_comm (a := x)]
    split <;> rfl

/-- The older neighbours after a ghost has been put behind the newest one. -/
lemma older?_link :
    (log.link ghost).older? a =
      if a = none then some log.nextPlace
      else if a = some log.nextPlace then log.tail else log.older? a := by
  cases a with
  | none => rfl
  | some x =>
    change (GhostLog.setNewer _ _ _).older? (some x) = _
    rw [older?_setNewer]
    simp only [older?, Std.TreeMap.getElem?_insert, Std.compare_eq_iff_eq, Option.some.injEq,
      eq_comm (a := x), reduceCtorEq, if_false]
    split <;> rfl

/-- The chain is continued by a ghost that is put behind the newest one. -/
lemma Linked.link (h : log.Linked) (hnew : ∀ q ∈ log.nodes, q < log.nextPlace) :
    (log.link ghost).Linked := by
  have hlast := h.older none (by simp)
  have hnone : Adjacent (· < ·) (· ∈ log.nodes) log.tail none := hlast.flip (by simp)
  have htail : ∀ x ∈ log.tail, x ∈ log.nodes := fun x hx => (hlast.in_use x hx).1
  have hfresh : log.nextPlace ∉ log.nodes := fun hmem => Nat.lt_irrefl _ (hnew _ hmem)
  have hused : ∀ a, (∀ x ∈ a, x ∈ (log.link ghost).nodes) → a ≠ some log.nextPlace →
      ∀ x ∈ a, x ∈ log.nodes := by
    rintro _ ha hne x rfl
    exact (mem_link.mp (ha x rfl)).resolve_left fun heq => hne (congrArg some heq.symm)
  refine ⟨fun a ha => ?_, fun a ha => ?_⟩
  · rw [newer?_link htail]
    simp only [mem_link]
    by_cases hself : a = some log.nextPlace
    · -- nothing comes after the new place
      subst hself
      have hother : log.tail ≠ some log.nextPlace := fun heq => hfresh (htail _ heq)
      rw [if_neg hother, if_pos rfl]
      rintro q (rfl | hq) hafter
      · exact Nat.lt_irrefl _ (after_some.mp hafter)
      · exact Nat.lt_asymm (after_some.mp hafter) (hnew q hq)
    · rw [if_neg hself]
      have hfiled := hused a ha hself
      exact (h.newer a hfiled).insert hfiled hnew htail hnone
  · rw [older?_link]
    simp only [mem_link]
    split
    · next hends =>
      subst hends
      exact ⟨⟨Or.inl rfl, after_none _⟩, fun q hq _ => hq.imp Eq.symm (hnew q)⟩
    · next hends =>
      split
      · next hself =>
        -- every place comes after the new one, in this order
        subst hself
        refine hlast.congr fun q => ?_
        rw [after_some]
        constructor
        · exact fun hq => ⟨Or.inr hq.1, hnew q hq.1⟩
        · rintro ⟨rfl | hq, hlt⟩
          · exact absurd hlt (Nat.lt_irrefl _)
          · exact ⟨hq, after_none q⟩
      · next hself =>
        have hfiled := hused a ha hself
        obtain ⟨x, rfl⟩ := Option.ne_none_iff_exists'.mp hends
        refine (h.older (some x) hfiled).congr fun q => ?_
        rw [after_some]
        constructor
        · exact fun hq => ⟨Or.inr hq.1, hq.2⟩
        · rintro ⟨rfl | hq, hlt⟩
          · exact absurd hlt (Nat.lt_asymm (hnew x (hfiled x rfl)))
          · exact ⟨hq, hlt⟩

/-! ## Following the chain -/

/-- Following neighbours leads through all ghosts that come after a place. -/
lemma walk_eq (lt : Nat → Nat → Prop) [IsStrictTotalOrder Nat lt] {next : GhostNode → Option Nat}
    (hnext : ∀ p node, log.nodes[p]? = some node →
      Adjacent lt (· ∈ log.nodes) (some p) (next node))
    {entries : List (Nat × GhostNode)} (hsorted : entries.Pairwise fun e f => lt e.1 f.1)
    (hentries : ∀ e, e ∈ entries ↔ log.nodes[e.1]? = some e.2 ∧ After lt a e.1)
    (hstart : Adjacent lt (· ∈ log.nodes) a b) (hn : entries.length ≤ n) :
    log.walk next n b = entries.map fun e => e.2.ghost := by
  induction entries generalizing a b n with
  | nil =>
    have hb : b = none := by
      rw [Option.eq_none_iff_forall_not_mem]
      rintro p rfl
      obtain ⟨node, hnode⟩ := Table.mem_iff_exists.mp hstart.1.1
      exact absurd ((hentries (p, node)).mpr ⟨hnode, hstart.1.2⟩) List.not_mem_nil
    subst hb
    cases n <;> rfl
  | cons e entries ih =>
    obtain ⟨hfirst, hsorted⟩ := List.pairwise_cons.mp hsorted
    obtain ⟨he, hafter⟩ := (hentries e).mp List.mem_cons_self
    have hb : b = some e.1 := by
      refine hstart.unique ⟨⟨Table.mem_iff_exists.mpr ⟨_, he⟩, hafter⟩, fun q hq hlater => ?_⟩
      obtain ⟨node, hnode⟩ := Table.mem_iff_exists.mp hq
      rcases List.mem_cons.mp ((hentries (q, node)).mpr ⟨hnode, hlater⟩) with heq | hmem
      · exact Or.inl (congrArg Prod.fst heq)
      · exact Or.inr (hfirst _ hmem)
    obtain ⟨n, rfl⟩ := Nat.exists_eq_succ_of_ne_zero (show n ≠ 0 by rintro rfl; simp at hn)
    have hrest := ih hsorted (fun f => ?_) (hnext e.1 e.2 he) (Nat.le_of_succ_le_succ hn)
    · rw [hb, walk, Option.bind_some, he, List.map_cons, ← hrest]
    · -- after the first place come the places of the other entries
      rw [after_some]
      constructor
      · exact fun hf => ⟨((hentries f).mp (List.mem_cons_of_mem e hf)).1, hfirst f hf⟩
      · rintro ⟨hf, hlt⟩
        have hlater : After lt a f.1 := fun x hx => trans_of lt (hafter x hx) hlt
        rcases List.mem_cons.mp ((hentries f).mpr ⟨hf, hlater⟩) with rfl | hmem
        · exact absurd hlt (irrefl_of lt f.1)
        · exact hmem

lemma toList_ghosts (log : GhostLog) :
    log.ghosts.toList.map Prod.snd = log.nodes.toList.map fun e => e.2.ghost := by
  rw [ghosts, Std.TreeMap.toList_map, List.map_map]
  rfl

/-- Following the newer neighbours leads through all ghosts by their places, and ends there. -/
lemma Linked.walk_newer (h : log.Linked) (hn : log.nodes.size ≤ n) :
    log.walk GhostNode.newer n log.head = log.ghosts.toList.map Prod.snd := by
  rw [toList_ghosts]
  refine walk_eq (· < ·) (a := none) (fun p node hnode => (h.neighbours hnode).1) ?_ ?_
    (h.newer none (by simp)) ?_
  · exact Std.TreeMap.ordered_keys_toList.imp fun hlt => Std.compare_eq_lt.mp hlt
  · exact fun e => by simp [Table.mem_toList, after_none]
  · rw [Std.TreeMap.length_toList]
    exact hn

/-- Following the older neighbours leads through all ghosts the other way, and ends there. -/
lemma Linked.walk_older (h : log.Linked) (hn : log.nodes.size ≤ n) :
    log.walk GhostNode.older n log.tail = (log.ghosts.toList.map Prod.snd).reverse := by
  rw [toList_ghosts, ← List.map_reverse]
  refine walk_eq (· > ·) (a := none) (fun p node hnode => (h.neighbours hnode).2) ?_ ?_
    (h.older none (by simp)) ?_
  · rw [List.pairwise_reverse]
    exact Std.TreeMap.ordered_keys_toList.imp fun hlt => Std.compare_eq_lt.mp hlt
  · exact fun e => by simp [Table.mem_toList, after_none]
  · rw [List.length_reverse, Std.TreeMap.length_toList]
    exact hn

lemma Linked.toList_eq (h : log.Linked) : log.toList = log.ghosts.toList.map Prod.snd :=
  h.walk_newer (Nat.le_refl _)

lemma Linked.newestFirst_eq (h : log.Linked) : log.newestFirst = log.toList.reverse := by
  rw [h.toList_eq]
  exact h.walk_older (Nat.le_refl _)

/-- The ghosts are as many as the places in use. -/
lemma Linked.length_toList (h : log.Linked) : log.toList.length = log.nodes.size := by
  rw [h.toList_eq, toList_ghosts, List.length_map, Std.TreeMap.length_toList]

end GhostLog
end CacheSim
