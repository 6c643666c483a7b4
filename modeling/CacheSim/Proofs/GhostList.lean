import CacheSim.Proofs.Ends
import CacheSim.Proofs.GhostLog

/-!
# The log of ghosts as a list

A valid log is known by the list of its ghosts, oldest first.  A record takes the older ghost of the
object out of the list, puts the new one at its end, and drops the oldest ghosts until the others
are within the budget.  What is asked of a log can be answered from the list.

* `GhostLog.Valid.toList_record`: what a record does to the list;
* `GhostLog.Valid.contains_eq`: whether an object is remembered, told from the list;
* `GhostLog.Alike`: two logs with the same ghosts of objects that may be called otherwise; they
  give the same answers and stay alike.
-/

namespace CacheSim
namespace GhostLog

variable {log log' : GhostLog} {id window : UInt64} {ghost : Ghost} {place n : Nat}

lemma Linked.mem_toList (h : log.Linked) :
    ghost ∈ log.toList ↔ ∃ place : Nat, log.ghosts[place]? = some ghost := by
  simp only [h.toList_eq, List.mem_map, Prod.exists, Table.mem_toList, exists_eq_right]

/-- A ghost has one place only. -/
lemma Valid.place_unique (h : log.Valid) {place' : Nat} {ghost' : Ghost}
    (hghost : log.ghosts[place]? = some ghost) (hghost' : log.ghosts[place']? = some ghost')
    (hid : ghost.id = ghost'.id) : place = place' := by
  have hplace := (h.places_iff ghost.id place).mpr ⟨ghost, hghost, rfl⟩
  have hplace' := (h.places_iff ghost.id place').mpr ⟨ghost', hghost', hid.symm⟩
  rw [hplace, Option.some.injEq] at hplace'
  exact hplace'

/-- No object has two ghosts. -/
lemma Valid.nodup_ids (h : log.Valid) : (log.toList.map Ghost.id).Nodup := by
  rw [h.linked.toList_eq, List.map_map, List.Nodup, List.pairwise_map]
  refine List.Pairwise.imp_of_mem ?_ Std.TreeMap.distinct_keys_toList
  intro a b ha hb hne hid
  have hplace := h.place_unique (Table.mem_toList.mp ha) (Table.mem_toList.mp hb) hid
  exact hne (hplace ▸ Std.ReflCmp.compare_self)

/-- An object is remembered if there is a ghost of it. -/
lemma Valid.contains_eq (h : log.Valid) (id : UInt64) :
    log.contains id = log.toList.any fun ghost => ghost.id == id := by
  rw [Bool.eq_iff_iff, List.any_eq_true, contains, Std.TreeMap.contains_iff_mem,
    Table.mem_iff_exists]
  constructor
  · rintro ⟨place, hplace⟩
    obtain ⟨ghost, hghost, rfl⟩ := (h.places_iff id place).mp hplace
    exact ⟨ghost, h.linked.mem_toList.mpr ⟨place, hghost⟩, beq_self_eq_true _⟩
  · rintro ⟨ghost, hmem, hid⟩
    obtain ⟨place, hghost⟩ := h.linked.mem_toList.mp hmem
    exact ⟨place, (h.places_iff id place).mpr ⟨ghost, hghost, beq_iff_eq.mp hid⟩⟩

/-! ## Forgetting -/

/-- An object that is forgotten takes its ghost out of the list. -/
lemma Valid.toList_remove (h : log.Valid) (hremove : log.remove id = .ok log') :
    log'.toList = log.toList.filter (fun ghost => ghost.id != id) ∧
      log'.budget = log.budget := by
  cases hplace : log.places[id]? with
  | none =>
    rw [GhostLog.remove, hplace] at hremove
    obtain rfl := Except.ok.inj hremove
    refine ⟨(List.filter_eq_self.mpr fun ghost hmem => ?_).symm, rfl⟩
    obtain ⟨place, hghost⟩ := h.linked.mem_toList.mp hmem
    rw [bne_iff_ne]
    rintro rfl
    simp [(h.places_iff ghost.id place).mpr ⟨ghost, hghost, rfl⟩] at hplace
  | some place =>
    obtain ⟨ghost, hghost, rfl⟩ := (h.places_iff id place).mp hplace
    obtain ⟨node, hnode, rfl⟩ := getElem?_ghosts_eq_some.mp hghost
    rw [remove_eq_without hplace hnode rfl, map_eq_ok] at hremove
    obtain ⟨rest, -, rfl⟩ := hremove
    refine ⟨?_, kept_unlink.2⟩
    rw [(h.linked.without hnode rest).toList_eq, h.linked.toList_eq, toList_ghosts_without,
      Table.toList_erase_eq_filter, List.filter_map]
    refine congrArg _ (List.filter_congr fun e he => ?_)
    -- the ghosts of other objects are those in other places
    have hother := Table.mem_toList.mp he
    rw [Bool.eq_iff_iff, bne_iff_ne, Function.comp_apply, bne_iff_ne, not_iff_not,
      Std.compare_eq_iff_eq]
    constructor
    · rintro rfl
      rw [hother, Option.some.injEq] at hghost
      rw [hghost]
    · exact fun hid => h.place_unique hghost hother hid.symm

/-- No other ghost is one of the oldest object. -/
lemma Valid.toList_remove_oldest (h : log.Valid) {oldest : Ghost} {ghosts : List Ghost}
    (hlist : log.toList = oldest :: ghosts) (hremove : log.remove oldest.id = .ok log') :
    log'.toList = ghosts ∧ log'.budget = log.budget := by
  obtain ⟨hrest, hbudget⟩ := h.toList_remove hremove
  refine ⟨?_, hbudget⟩
  have hids := h.nodup_ids
  rw [hlist, List.map_cons, List.nodup_cons] at hids
  rw [hrest, hlist, List.filter_cons_of_neg (by simp)]
  refine List.filter_eq_self.mpr fun ghost hmem => ?_
  rw [bne_iff_ne]
  exact fun hid => hids.1 (hid ▸ List.mem_map_of_mem hmem)

/-- The chain begins with the first ghost of the list. -/
lemma head?_toList (log : GhostLog) :
    log.toList.head? = (log.head.bind (log.nodes[·]?)).map GhostNode.ghost := by
  cases hsize : log.nodes.size with
  | zero =>
    have hempty : log.nodes.isEmpty = true := by
      rw [Std.TreeMap.isEmpty_eq_size_eq_zero, hsize]
      rfl
    have hnone : log.head.bind (log.nodes[·]?) = none :=
      Option.bind_eq_none_iff.mpr fun _ _ => Std.TreeMap.getElem?_of_isEmpty hempty
    rw [toList, hsize, hnone]
    rfl
  | succ n =>
    rw [toList, hsize, walk]
    cases log.head.bind (log.nodes[·]?) <;> rfl

/-- The bytes of some ghosts. -/
def sizes (ghosts : List Ghost) : Nat :=
  (ghosts.map fun ghost => ghost.size.toNat).sum

@[simp] lemma sizes_nil : sizes [] = 0 := rfl

@[simp] lemma sizes_cons (ghost : Ghost) (ghosts : List Ghost) :
    sizes (ghost :: ghosts) = ghost.size.toNat + sizes ghosts := by
  rw [sizes, List.map_cons, List.sum_cons, sizes]

@[simp] lemma sizes_append (ghosts ghosts' : List Ghost) :
    sizes (ghosts ++ ghosts') = sizes ghosts + sizes ghosts' := by
  rw [sizes, List.map_append, List.sum_append, sizes, sizes]

lemma sizes_le_of_sublist {ghosts ghosts' : List Ghost} (h : ghosts.Sublist ghosts') :
    sizes ghosts ≤ sizes ghosts' :=
  (h.map _).sum_le_sum fun _ _ => Nat.zero_le _

/-- What is left of ghosts, listed oldest first, when the oldest are dropped until the others are
within a budget. -/
def newest (budget : Nat) (ghosts : List Ghost) : List Ghost :=
  fittingEnd (fun ghost => ghost.size.toNat) budget ghosts

lemma newest_cons (budget : Nat) (ghost : Ghost) (ghosts : List Ghost) :
    newest budget (ghost :: ghosts) =
      if sizes (ghost :: ghosts) ≤ budget then ghost :: ghosts else newest budget ghosts :=
  rfl

/-- A purge that may forget all ghosts leaves the newest ones that are within the budget. -/
lemma Valid.toList_purge (h : log.Valid) (hpurge : GhostLog.purge n log = .ok log')
    (hn : log.toList.length ≤ n) :
    log'.toList = newest log.budget.toNat log.toList ∧ log'.budget = log.budget := by
  induction n generalizing log with
  | zero =>
    obtain rfl := Except.ok.inj hpurge
    rw [List.eq_nil_of_length_eq_zero (Nat.le_zero.mp hn)]
    exact ⟨rfl, rfl⟩
  | succ n ih =>
    have htotal := h.totalSize_eq
    change _ = sizes log.toList at htotal
    rw [GhostLog.purge] at hpurge
    cases hlist : log.toList with
    | nil =>
      have hfits : log.totalSize ≤ log.budget := by
        rw [UInt64.le_iff_toNat_le, htotal, hlist]
        exact Nat.zero_le _
      rw [if_pos hfits] at hpurge
      obtain rfl := Except.ok.inj hpurge
      exact ⟨hlist, rfl⟩
    | cons oldest ghosts =>
      rw [newest_cons, ← hlist, ← htotal]
      split at hpurge
      · next hfits =>
        obtain rfl := Except.ok.inj hpurge
        rw [if_pos (UInt64.le_iff_toNat_le.mp hfits)]
        exact ⟨rfl, rfl⟩
      · next hover =>
        rw [if_neg (mt UInt64.le_iff_toNat_le.mpr hover)]
        have hhead := head?_toList log
        rw [hlist, List.head?_cons, eq_comm, Option.map_eq_some_iff] at hhead
        obtain ⟨node, hnode, rfl⟩ := hhead
        rw [hnode] at hpurge
        obtain ⟨log₁, hremove, hmore⟩ := bind_eq_ok.mp hpurge
        obtain ⟨_, hremove', h₁, -⟩ := h.remove node.ghost.id
        obtain rfl := Except.ok.inj (hremove.symm.trans hremove')
        obtain ⟨hothers, hbudget⟩ := h.toList_remove_oldest hlist hremove
        rw [hlist, List.length_cons] at hn
        obtain ⟨hnewest, hbudget'⟩ := ih h₁ hmore (by rw [hothers]; omega)
        rw [hnewest, hothers, hbudget]
        exact ⟨rfl, hbudget'.trans hbudget⟩

/-! ## Remembering -/

/-- A ghost that is filed is the newest one. -/
lemma Valid.toList_append (h : log.Valid) (happend : log.append ghost = .ok log') :
    log'.toList = log.toList ++ [ghost] ∧ log'.budget = log.budget := by
  obtain ⟨total, -, rfl⟩ := append_eq_ok.mp happend
  refine ⟨?_, kept_link.2⟩
  rw [(h.linked_followedBy ghost total).toList_eq, h.linked.toList_eq, toList_ghosts_followedBy,
    Table.toList_insert_last, List.map_append]
  · rfl
  · intro e he
    rw [Std.compare_eq_lt]
    exact h.place_lt _ _ (Table.mem_toList.mp he)

/-- A record replaces the older ghost of the object, and keeps the newest ghosts within the
budget. -/
lemma Valid.toList_record (h : log.Valid) (hrecord : log.record ghost = .ok log') :
    log'.toList = newest log.budget.toNat
        (log.toList.filter (fun ghost' => ghost'.id != ghost.id) ++ [ghost]) ∧
      log'.budget = log.budget := by
  obtain ⟨log₁, log₂, hremove, happend, hpurge⟩ := record_eq_ok.mp hrecord
  obtain ⟨_, hremove', h₁, hnew, -⟩ := h.remove ghost.id
  obtain rfl := Except.ok.inj (hremove.symm.trans hremove')
  obtain ⟨hlist₁, hbudget₁⟩ := h.toList_remove hremove
  obtain ⟨hlist₂, hbudget₂⟩ := h₁.toList_append happend
  have h₂ := (h₁.append hnew happend).1
  obtain ⟨hlist, hbudget⟩ := h₂.toList_purge hpurge (Nat.le_of_eq h₂.linked.length_toList)
  rw [hlist, hlist₂, hlist₁, hbudget₂, hbudget₁]
  exact ⟨rfl, hbudget.trans (hbudget₂.trans hbudget₁)⟩

/-- What is left within a budget is within it. -/
lemma sizes_newest_le (budget : Nat) (ghosts : List Ghost) :
    sizes (newest budget ghosts) ≤ budget :=
  sum_fittingEnd_le _ budget ghosts

/-- A log is within its budget after every record. -/
lemma Valid.totalSize_record_le (h : log.Valid) (hrecord : log.record ghost = .ok log') :
    log'.totalSize ≤ log'.budget := by
  obtain ⟨hlist, hbudget⟩ := h.toList_record hrecord
  have htotal := (h.record hrecord).1.totalSize_eq
  change _ = sizes log'.toList at htotal
  rw [UInt64.le_iff_toNat_le, htotal, hlist, hbudget]
  exact sizes_newest_le _ _

end GhostLog

/-! ## Logs under other names -/

/-- Two ghosts of one object that is called `f id` where it is called `id`.  Their ages are the same
if ages are to be kept. -/
structure Ghost.Alike (f : UInt64 → UInt64) (ages : Prop) (ghost ghost' : Ghost) : Prop where
  id : ghost'.id = f ghost.id
  size : ghost'.size = ghost.size
  accesses : ghost'.accesses = ghost.accesses
  age : ages → ghost'.age = ghost.age

/-- The ghost of an object under another name. -/
def Ghost.rename (f : UInt64 → UInt64) (ghost : Ghost) : Ghost :=
  { ghost with id := f ghost.id }

/-- If ages are kept, nothing but the names differs. -/
lemma Ghost.Alike.eq_rename {f : UInt64 → UInt64} {ages : Prop} {ghost ghost' : Ghost}
    (h : ghost.Alike f ages ghost') (hages : ages) : ghost' = ghost.rename f := by
  obtain ⟨hid, hsize, haccesses, hage⟩ := h
  cases ghost'
  simp only at hid hsize haccesses hage
  rw [Ghost.rename, hid, hsize, haccesses, hage hages]

namespace GhostLog

/-- Two logs with the same ghosts in the same order. -/
structure Alike (f : UInt64 → UInt64) (ages : Prop) (log log' : GhostLog) : Prop where
  valid : log.Valid
  valid' : log'.Valid
  budget : log'.budget = log.budget
  ghosts : List.Forall₂ (Ghost.Alike f ages) log.toList log'.toList

variable {f : UInt64 → UInt64} {ages : Prop} {log log' : GhostLog} {ghosts ghosts' : List Ghost}

lemma alike_empty (budget : UInt64) : Alike f ages (empty budget) (empty budget) :=
  ⟨valid_empty budget, valid_empty budget, rfl, .nil⟩

lemma alike_clear (h : log'.budget = log.budget) : Alike f ages log.clear log'.clear :=
  ⟨valid_clear log, valid_clear log', h, .nil⟩

lemma sizes_alike (h : List.Forall₂ (Ghost.Alike f ages) ghosts ghosts') :
    sizes ghosts' = sizes ghosts := by
  induction h with
  | nil => rfl
  | cons hghost _ ih =>
    rw [sizes_cons, sizes_cons, hghost.size, ih]

lemma newest_alike (budget : Nat) (h : List.Forall₂ (Ghost.Alike f ages) ghosts ghosts') :
    List.Forall₂ (Ghost.Alike f ages) (newest budget ghosts) (newest budget ghosts') := by
  refine fittingEnd_rel h fun later later' hlater => ?_
  change sizes later' ≤ budget ↔ sizes later ≤ budget
  rw [sizes_alike hlater]

section Injective

variable (hf : Function.Injective f)
include hf

/-- Records of ghosts that are alike keep the logs alike. -/
lemma Alike.record (h : Alike f ages log log') {ghost ghost' : Ghost} {log₁ log₁' : GhostLog}
    (hghost : ghost.Alike f ages ghost') (hrecord : log.record ghost = .ok log₁)
    (hrecord' : log'.record ghost' = .ok log₁') : Alike f ages log₁ log₁' := by
  obtain ⟨hlist, hbudget⟩ := h.valid.toList_record hrecord
  obtain ⟨hlist', hbudget'⟩ := h.valid'.toList_record hrecord'
  refine ⟨(h.valid.record hrecord).1, (h.valid'.record hrecord').1,
    hbudget'.trans (h.budget.trans hbudget.symm), ?_⟩
  rw [hlist, hlist', h.budget]
  refine newest_alike _ (List.rel_append (List.rel_filter ?_ h.ghosts) (.cons hghost .nil))
  intro ghost₁ ghost₁' h₁
  change (_ != _) = true ↔ (_ != _) = true
  rw [bne_iff_ne, bne_iff_ne, h₁.id, hghost.id, hf.ne_iff]

lemma any_alike (id : UInt64) (h : List.Forall₂ (Ghost.Alike f ages) ghosts ghosts') :
    (ghosts'.any fun ghost => ghost.id == f id) = ghosts.any fun ghost => ghost.id == id := by
  induction h with
  | nil => rfl
  | @cons ghost _ _ _ hghost _ ih =>
    have hname : (f ghost.id == f id) = (ghost.id == id) := by
      rw [Bool.eq_iff_iff, beq_iff_eq, beq_iff_eq, hf.eq_iff]
    rw [List.any_cons, List.any_cons, ih, hghost.id, hname]

/-- The same objects are remembered. -/
lemma Alike.contains_eq (h : Alike f ages log log') (id : UInt64) :
    log'.contains (f id) = log.contains id := by
  rw [h.valid.contains_eq, h.valid'.contains_eq, any_alike hf id h.ghosts]

lemma scan_alike (id window passed : UInt64)
    (h : List.Forall₂ (Ghost.Alike f ages) ghosts ghosts') :
    scan (f id) window passed ghosts' = scan id window passed ghosts := by
  induction h generalizing passed with
  | nil => rfl
  | cons hghost _ ih =>
    rw [scan, scan, hghost.id, hghost.size]
    simp only [hf.eq_iff, ih]

/-- The same objects have been evicted within a window. -/
lemma Alike.withinLast_eq (h : Alike f ages log log') (id window : UInt64) :
    log'.withinLast (f id) window = log.withinLast id window := by
  rw [h.valid.withinLast_eq, h.valid'.withinLast_eq]
  exact scan_alike hf id window 0 (List.forall₂_reverse_iff.mpr h.ghosts)

end Injective

end GhostLog
end CacheSim
