import CacheSim.Proofs.GhostChain
import CacheSim.Proofs.Runs

/-!
# The log of ghosts keeps its books

A log files its ghosts by place, links them to their neighbours, finds them by object, and keeps
count of their bytes.  `GhostLog.Valid` says that these agree.  In a valid log nothing is ever taken
away from the count that is not in it, so the one step that can leave the range of a word is the
addition of a new ghost.

* `GhostLog.Valid.remove`, `GhostLog.Valid.append`, `GhostLog.Valid.purge`: the parts of a record;
* `GhostLog.Valid.record`, `GhostLog.Valid.record_ok_or_overflow`: a record adds at most the bytes
  of its ghost, and fails only if these cannot be counted;
* `GhostLog.Valid.exists_withinLast`: a search passes over no more bytes than are counted.
-/

namespace CacheSim
namespace GhostLog

/-- The bytes of all ghosts. -/
def bytes (log : GhostLog) : Nat :=
  (log.toList.map fun ghost => ghost.size.toNat).sum

/-- The places, the ghosts, their neighbours and the count of bytes agree. -/
structure Valid (log : GhostLog) : Prop where
  /-- An object has the place of its ghost. -/
  places_iff : ∀ (id : UInt64) place, log.places[id]? = some place ↔
    ∃ ghost, log.ghosts[place]? = some ghost ∧ ghost.id = id
  /-- The next place is a new one. -/
  place_lt : ∀ (place : Nat) ghost, log.ghosts[place]? = some ghost → place < log.nextPlace
  /-- The chain leads through all places. -/
  linked : log.Linked
  totalSize_eq : log.totalSize.toNat = log.bytes

variable {log log' : GhostLog} {id window passed : UInt64} {ghost : Ghost} {node : GhostNode}
variable {place n : Nat}

lemma Linked.bytes_eq (h : log.Linked) :
    log.bytes = (log.ghosts.toList.map fun e => e.2.size.toNat).sum := by
  rw [bytes, h.toList_eq, List.map_map]
  rfl

lemma valid_empty (budget : UInt64) : (empty budget).Valid where
  places_iff := fun id place => by simp [empty, getElem?_ghosts]
  place_lt := fun place ghost h => by simp [empty, getElem?_ghosts] at h
  linked := linked_of_isEmpty rfl rfl rfl
  totalSize_eq := rfl

lemma valid_clear (log : GhostLog) : log.clear.Valid where
  places_iff := fun id place => by simp [clear, getElem?_ghosts]
  place_lt := fun place ghost h => by simp [clear, getElem?_ghosts] at h
  linked := linked_of_isEmpty rfl rfl rfl
  totalSize_eq := rfl

/-! ## Forgetting -/

/-- A log without the ghost at a place. -/
def without (log : GhostLog) (place : Nat) (node : GhostNode) (rest : UInt64) : GhostLog :=
  { log.unlink place node with
    places := log.places.erase node.ghost.id
    totalSize := rest }

lemma toList_ghosts_without (rest : UInt64) :
    (log.without place node rest).ghosts.toList = (log.ghosts.erase place).toList :=
  (Std.TreeMap.Equiv.of_forall_constGet?_eq ghosts_unlink).toList_eq

lemma Linked.without (h : log.Linked) (hnode : log.nodes[place]? = some node) (rest : UInt64) :
    (log.without place node rest).Linked :=
  have hlinked := h.unlink hnode
  ⟨hlinked.newer, hlinked.older⟩

lemma Linked.bytes_without (h : log.Linked) (hnode : log.nodes[place]? = some node)
    (rest : UInt64) :
    log.bytes = node.ghost.size.toNat + (log.without place node rest).bytes := by
  have hghost := getElem?_ghosts_eq_some.mpr ⟨node, hnode, rfl⟩
  have hperm := (Table.toList_erase_of_getElem? hghost).map fun e => e.2.size.toNat
  rw [h.bytes_eq, (h.without hnode rest).bytes_eq, toList_ghosts_without, hperm.sum_nat,
    List.map_cons, List.sum_cons]

lemma Valid.without (h : log.Valid) (hnode : log.nodes[place]? = some node) {rest : UInt64}
    (hrest : log.totalSize.toNat = node.ghost.size.toNat + rest.toNat) :
    (log.without place node rest).Valid where
  places_iff := fun id' place' => by
    have hghost := getElem?_ghosts_eq_some.mpr ⟨node, hnode, rfl⟩
    have hplace := (h.places_iff node.ghost.id place).mpr ⟨node.ghost, hghost, rfl⟩
    change (log.places.erase node.ghost.id)[id']? = _ ↔
      ∃ ghost, (log.unlink place node).ghosts[place']? = _ ∧ _
    simp only [ghosts_unlink, Table.getElem?_erase_eq_some, h.places_iff]
    constructor
    · rintro ⟨hne, ghost', hghost', rfl⟩
      refine ⟨ghost', ⟨?_, hghost'⟩, rfl⟩
      rintro rfl
      rw [hghost, Option.some.injEq] at hghost'
      exact hne (hghost' ▸ rfl)
    · rintro ⟨ghost', ⟨hne, hghost'⟩, rfl⟩
      refine ⟨?_, ghost', hghost', rfl⟩
      -- an object has one place only
      intro heq
      have hplace' := (h.places_iff ghost'.id place').mpr ⟨ghost', hghost', rfl⟩
      rw [← heq, hplace] at hplace'
      exact hne (Option.some.inj hplace')
  place_lt := fun place' ghost' hghost' => by
    change place' < (log.unlink place node).nextPlace
    rw [kept_unlink.1]
    have hsame := (ghosts_unlink place').symm.trans hghost'
    exact h.place_lt place' ghost' (Table.getElem?_erase_eq_some.mp hsame).2
  linked := h.linked.without hnode rest
  totalSize_eq := by
    have hbytes := h.linked.bytes_without hnode rest
    have htotal := h.totalSize_eq
    change rest.toNat = _
    omega

lemma remove_eq_without (hplace : log.places[id]? = some place)
    (hnode : log.nodes[place]? = some node) (hid : node.ghost.id = id) :
    log.remove id = log.without place node <$> Word.sub log.totalSize node.ghost.size := by
  subst hid
  rw [GhostLog.remove, hplace]
  simp only [hnode]
  cases Word.sub log.totalSize node.ghost.size <;> rfl

/-- An object can always be forgotten. -/
lemma Valid.remove (h : log.Valid) (id : UInt64) :
    ∃ log', log.remove id = .ok log' ∧ log'.Valid ∧ log'.places[id]? = none ∧
      log'.totalSize.toNat ≤ log.totalSize.toNat := by
  cases hplace : log.places[id]? with
  | none =>
    refine ⟨log, ?_, h, hplace, Nat.le_refl _⟩
    rw [GhostLog.remove, hplace]
  | some place =>
    obtain ⟨ghost, hghost, rfl⟩ := (h.places_iff id place).mp hplace
    obtain ⟨node, hnode, rfl⟩ := getElem?_ghosts_eq_some.mp hghost
    have hle : node.ghost.size.toNat ≤ log.totalSize.toNat := by
      rw [h.totalSize_eq, h.linked.bytes_without hnode 0]
      exact Nat.le_add_right _ _
    obtain ⟨rest, hrest⟩ := Word.exists_sub hle
    have hsum := Word.sub_eq_ok.mp hrest
    refine ⟨log.without place node rest, ?_, h.without hnode hsum, ?_, ?_⟩
    · rw [remove_eq_without hplace hnode rfl, hrest]
      rfl
    · exact Std.TreeMap.getElem?_erase_self
    · change rest.toNat ≤ _
      omega

lemma Valid.purge (h : log.Valid) (n : Nat) :
    ∃ log', purge n log = .ok log' ∧ log'.Valid ∧
      log'.totalSize.toNat ≤ log.totalSize.toNat := by
  induction n generalizing log with
  | zero => exact ⟨log, rfl, h, Nat.le_refl _⟩
  | succ n ih =>
    rw [GhostLog.purge]
    split
    · exact ⟨log, rfl, h, Nat.le_refl _⟩
    · split
      · exact ⟨log, rfl, h, Nat.le_refl _⟩
      · next oldest _ =>
        obtain ⟨log₁, hremove, h₁, -, hle₁⟩ := h.remove oldest.ghost.id
        obtain ⟨log₂, hpurge, h₂, hle₂⟩ := ih h₁
        refine ⟨log₂, ?_, h₂, Nat.le_trans hle₂ hle₁⟩
        rw [hremove]
        exact hpurge

/-! ## Remembering -/

/-- A log with a further ghost, which is the newest one. -/
def followedBy (log : GhostLog) (ghost : Ghost) (total : UInt64) : GhostLog :=
  { log.link ghost with
    places := log.places.insert ghost.id log.nextPlace
    totalSize := total }

lemma toList_ghosts_followedBy (total : UInt64) :
    (log.followedBy ghost total).ghosts.toList =
      (log.ghosts.insert log.nextPlace ghost).toList :=
  (Std.TreeMap.Equiv.of_forall_constGet?_eq ghosts_link).toList_eq

lemma append_eq_ok : log.append ghost = .ok log' ↔
    ∃ total, Word.add log.totalSize ghost.size = .ok total ∧
      log' = log.followedBy ghost total := by
  rw [append, bind_eq_ok]
  refine exists_congr fun total => and_congr_right fun _ => ?_
  rw [Except.ok.injEq, eq_comm]
  rfl

lemma Valid.linked_followedBy (h : log.Valid) (ghost : Ghost) (total : UInt64) :
    (log.followedBy ghost total).Linked := by
  have hlast : ∀ q ∈ log.nodes, q < log.nextPlace := by
    intro q hq
    obtain ⟨ghost', hghost'⟩ := Table.mem_iff_exists.mp (mem_ghosts.mpr hq)
    exact h.place_lt q ghost' hghost'
  have hlinked : (log.link ghost).Linked := h.linked.link hlast
  exact ⟨hlinked.newer, hlinked.older⟩

/-- A ghost of an object that is not remembered is filed as it is. -/
lemma Valid.append (h : log.Valid) (hnew : log.places[ghost.id]? = none)
    (happend : log.append ghost = .ok log') :
    log'.Valid ∧ log'.totalSize.toNat = log.totalSize.toNat + ghost.size.toNat := by
  obtain ⟨total, htotal, rfl⟩ := append_eq_ok.mp happend
  rw [Word.add_eq_ok] at htotal
  have hfree : log.nextPlace ∉ log.ghosts := by
    rw [Table.mem_iff_exists]
    rintro ⟨ghost', hghost'⟩
    exact Nat.lt_irrefl _ (h.place_lt _ _ hghost')
  have hlinked := h.linked_followedBy ghost total
  refine ⟨⟨fun id place => ?_, fun place ghost' hghost' => ?_, hlinked, ?_⟩, htotal.symm⟩
  · change (log.places.insert ghost.id log.nextPlace)[id]? = _ ↔
      ∃ ghost', (log.link ghost).ghosts[place]? = _ ∧ _
    simp only [ghosts_link, Table.getElem?_insert_eq_some, h.places_iff]
    constructor
    · rintro (⟨rfl, rfl⟩ | ⟨-, ghost', hghost', rfl⟩)
      · exact ⟨ghost, Or.inl ⟨rfl, rfl⟩, rfl⟩
      · have hlt := h.place_lt place ghost' hghost'
        exact ⟨ghost', Or.inr ⟨Nat.ne_of_gt hlt, hghost'⟩, rfl⟩
    · rintro ⟨ghost', ⟨rfl, rfl⟩ | ⟨-, hghost'⟩, rfl⟩
      · exact Or.inl ⟨rfl, rfl⟩
      · refine Or.inr ⟨?_, ghost', hghost', rfl⟩
        intro heq
        have hplace := (h.places_iff ghost'.id place).mpr ⟨ghost', hghost', rfl⟩
        rw [← heq, hnew] at hplace
        simp at hplace
  · change (log.link ghost).ghosts[place]? = some ghost' at hghost'
    change place < (log.link ghost).nextPlace
    rw [ghosts_link] at hghost'
    rw [kept_link.1]
    rcases Table.getElem?_insert_eq_some.mp hghost' with ⟨rfl, -⟩ | ⟨-, hghost'⟩
    · exact Nat.lt_succ_self _
    · exact Nat.lt_succ_of_lt (h.place_lt place ghost' hghost')
  · have hperm := (Table.toList_insert_of_not_mem hfree ghost).map fun e => e.2.size.toNat
    change total.toNat = _
    rw [hlinked.bytes_eq, toList_ghosts_followedBy, hperm.sum_nat, List.map_cons, List.sum_cons,
      ← htotal, h.totalSize_eq, h.linked.bytes_eq]
    exact Nat.add_comm _ _

lemma record_eq_ok : log.record ghost = .ok log' ↔
    ∃ log₁ log₂, log.remove ghost.id = .ok log₁ ∧ log₁.append ghost = .ok log₂ ∧
      purge log₂.nodes.size log₂ = .ok log' := by
  simp only [record, bind_eq_ok, ← exists_and_left]

/-- A record adds at most the bytes of its ghost. -/
lemma Valid.record (h : log.Valid) (hrecord : log.record ghost = .ok log') :
    log'.Valid ∧ log'.totalSize.toNat ≤ log.totalSize.toNat + ghost.size.toNat := by
  obtain ⟨log₁, log₂, hremove, happend, hpurge⟩ := record_eq_ok.mp hrecord
  obtain ⟨_, hremove', h₁, hnew, hle₁⟩ := h.remove ghost.id
  obtain rfl := Except.ok.inj (hremove.symm.trans hremove')
  obtain ⟨h₂, htotal⟩ := h₁.append hnew happend
  obtain ⟨_, hpurge', h', hle'⟩ := h₂.purge log₂.nodes.size
  obtain rfl := Except.ok.inj (hpurge.symm.trans hpurge')
  exact ⟨h', by omega⟩

/-- A record overflows unless the ghost can be counted beside those of the other objects. -/
lemma Valid.record_ok_or_overflow (h : log.Valid) {log₁ : GhostLog}
    (hremove : log.remove ghost.id = .ok log₁) :
    (log₁.totalSize.toNat + ghost.size.toNat < UInt64.size ∧ ∃ log', log.record ghost = .ok log') ∨
      (¬ log₁.totalSize.toNat + ghost.size.toNat < UInt64.size ∧
        log.record ghost = .error .addOverflow) := by
  obtain ⟨_, hremove', h₁, hnew, -⟩ := h.remove ghost.id
  obtain rfl := Except.ok.inj (hremove.symm.trans hremove')
  by_cases hroom : log₁.totalSize.toNat + ghost.size.toNat < UInt64.size
  · obtain ⟨total, htotal⟩ := Word.exists_add hroom
    have happend := append_eq_ok.mpr ⟨total, htotal, rfl⟩
    obtain ⟨log', hpurge, -⟩ := (h₁.append hnew happend).1.purge _
    exact Or.inl ⟨hroom, log', record_eq_ok.mpr ⟨log₁, _, hremove, happend, hpurge⟩⟩
  · have hover : Word.add log₁.totalSize ghost.size = .error .addOverflow := if_neg hroom
    refine Or.inr ⟨hroom, ?_⟩
    rw [GhostLog.record, hremove]
    change (log₁.append ghost >>= _) = _
    rw [GhostLog.append, hover]
    rfl

/-- There is room for a ghost whose bytes fit into the count. -/
lemma Valid.exists_record (h : log.Valid)
    (hroom : log.totalSize.toNat + ghost.size.toNat < 2 ^ 64) :
    ∃ log', log.record ghost = .ok log' := by
  obtain ⟨log₁, hremove, -, -, hle⟩ := h.remove ghost.id
  rcases h.record_ok_or_overflow hremove with ⟨-, hok⟩ | ⟨hover, -⟩
  · exact hok
  · exact absurd (show _ < 2 ^ 64 by omega) hover

/-! ## Searching -/

lemma exists_scan {ghosts : List Ghost}
    (hroom : passed.toNat + (ghosts.map fun ghost => ghost.size.toNat).sum < 2 ^ 64) :
    ∃ found, scan id window passed ghosts = .ok found := by
  induction ghosts generalizing passed with
  | nil => exact ⟨false, rfl⟩
  | cons ghost older ih =>
    rw [List.map_cons, List.sum_cons] at hroom
    rw [scan]
    split
    · exact ⟨false, rfl⟩
    · split
      · exact ⟨true, rfl⟩
      · obtain ⟨passed', hpassed⟩ :=
          Word.exists_add (show passed.toNat + ghost.size.toNat < 2 ^ 64 by omega)
        have hsum := Word.add_eq_ok.mp hpassed
        rw [hpassed]
        exact ih (by omega)

/-- A search goes through the ghosts from the newest to the oldest. -/
lemma Valid.withinLast_eq (h : log.Valid) (id window : UInt64) :
    log.withinLast id window = scan id window 0 log.toList.reverse := by
  rw [withinLast, h.linked.newestFirst_eq]

/-- A search passes over no more bytes than are counted. -/
lemma Valid.exists_withinLast (h : log.Valid) (id window : UInt64) :
    ∃ found, log.withinLast id window = .ok found := by
  have hlt := log.totalSize.toNat_lt
  have hbytes : (log.toList.reverse.map fun ghost => ghost.size.toNat).sum = log.bytes :=
    (log.toList.reverse_perm.map _).sum_nat
  rw [h.withinLast_eq]
  refine exists_scan ?_
  rw [hbytes, ← h.totalSize_eq]
  simpa using hlt

end GhostLog
end CacheSim
