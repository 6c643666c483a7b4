import CacheSim.Proofs.Tally
import CacheSim.Proofs.Textbook.Precedence

/-!
# A cache that is a list

This is the cache of the textbooks.  It keeps the list of the cached objects, in the order of
their latest requests or in the order of their admissions, and counts in natural numbers.  It has
no clock, no tickets, no priorities and no queue: the victim is the first or the last object of
the list, or the first one with the fewest requests.

* `ListCache.perform`, `ListCache.run`: what it answers to calls;
* `Textbook.victim?_of_precedes`: an object that precedes every other one is the victim.
-/

namespace CacheSim

/-- A cached object on the list. -/
structure Line where
  /-- The object. -/
  id : ObjectId
  /-- The bytes it takes. -/
  size : Nat
  /-- The requests since its admission, as far as a 32-bit counter goes. -/
  uses : Nat
  deriving DecidableEq

namespace Line

/-- The object after a further request. -/
def use (line : Line) : Line :=
  { line with uses := min (line.uses + 1) (2 ^ 32 - 1) }

end Line

namespace Textbook

/-- The first object with the fewest requests. -/
def fewest? : List Line → Option Line
  | [] => none
  | line :: rest =>
    match fewest? rest with
    | none => some line
    | some other => if other.uses < line.uses then some other else some line

/-- The object that is evicted next. -/
def victim? (lines : List Line) : Textbook → Option Line
  | lru => lines.head?
  | mru => lines.getLast?
  | fifo => lines.head?
  | lfu => fewest? lines
  | lfuLru => fewest? lines

/-- Whether the list is in the order of the latest requests, or of the admissions. -/
def byRecency : Textbook → Bool
  | lru => true
  | mru => true
  | fifo => false
  | lfu => false
  | lfuLru => true

/-- The list after a hit.  In the order of the latest requests the object moves to the end. -/
def hit (policy : Textbook) (id : ObjectId) (lines : List Line) : List Line :=
  if policy.byRecency then
    lines.filter (fun line => line.id ≠ id) ++ (lines.filter fun line => line.id = id).map Line.use
  else lines.map fun line => if line.id = id then line.use else line

end Textbook

/-- What is seen of an answer from outside: hit or miss, and the ids of the victims. -/
inductive Verdict where
  | served (hit : Bool) (victims : List ObjectId)
  | evicted (id : ObjectId)
  | refused
  | cleared
  deriving DecidableEq

/-- What is seen of an answer of a cache. -/
def Cache.Answer.verdict : Cache.Answer → Verdict
  | .served reply => .served reply.hit (reply.victims.map Ticket.id)
  | .evicted t => .evicted t.id
  | .refused => .refused
  | .cleared => .cleared

/-- A cache that is a list. -/
structure ListCache where
  policy : Textbook
  capacity : Nat
  unitSizes : Bool
  lines : List Line
  counts : Counts

namespace ListCache

/-- A cache without objects. -/
def new (policy : Textbook) (capacity : Nat) (unitSizes : Bool) : ListCache where
  policy := policy
  capacity := capacity
  unitSizes := unitSizes
  lines := []
  counts := ⟨capacity, capacity, 0, 0, 0, 0, 0, 0⟩

/-- The bytes of all cached objects. -/
def bytes (l : ListCache) : Nat :=
  (l.lines.map Line.size).sum

/-- Takes an object off the list, and counts that as an eviction. -/
def drop (l : ListCache) (id : ObjectId) : ListCache :=
  { l with
    lines := l.lines.filter fun line => line.id ≠ id
    counts := { l.counts with evictions := l.counts.evictions + 1 } }

/-- Evicts the next victim, if there is one. -/
def evict? (l : ListCache) : Option (ObjectId × ListCache) :=
  (l.policy.victim? l.lines).map fun victim => (victim.id, l.drop victim.id)

/-- Evicts until `size` more bytes fit, at most `n` times. -/
def makeRoom (size : Nat) : Nat → ListCache → List ObjectId × ListCache
  | 0, l => ([], l)
  | n + 1, l =>
    if l.bytes + size ≤ l.capacity then ([], l)
    else
      match l.evict? with
      | none => ([], l)
      | some (victim, l) =>
        let (victims, l) := makeRoom size n l
        (victim :: victims, l)

/-- Admits an object of `size` bytes. -/
def admitMissing (l : ListCache) (id : ObjectId) (size : Nat) : List ObjectId × ListCache :=
  let (victims, l) := makeRoom size l.lines.length l
  (victims, { l with lines := l.lines ++ [⟨id, size, 1⟩] })

/-- Serves a request. -/
def request (l : ListCache) (r : Request) : Verdict × ListCache :=
  let size := if l.unitSizes then 1 else r.size.toNat
  let counted := { l.counts with
    requests := l.counts.requests + 1
    requestBytes := l.counts.requestBytes + size }
  let missed := { counted with
    misses := counted.misses + 1
    missBytes := counted.missBytes + size }
  if l.lines.any fun line => line.id = r.id then
    (.served true [], { l with lines := l.policy.hit r.id l.lines, counts := counted })
  else if l.capacity < size then
    (.served false [], { l with counts := { missed with bypasses := missed.bypasses + 1 } })
  else
    let (victims, l) := admitMissing { l with counts := missed } r.id size
    (.served false victims, l)

/-- Answers a call. -/
def perform (l : ListCache) : Cache.Call → Verdict × ListCache
  | .request r => l.request r
  | .evict _ =>
    match l.evict? with
    | none => (.refused, l)
    | some (victim, l) => (.evicted victim, l)
  | .clear => (.cleared, { l with lines := [] })

/-- Answers calls in order. -/
def run (l : ListCache) : List Cache.Call → List Verdict × ListCache
  | [] => ([], l)
  | call :: calls =>
    let (verdict, l) := l.perform call
    let (verdicts, l) := run l calls
    (verdict :: verdicts, l)

end ListCache

/-! ## Victims on a list in order -/

section Victims

variable {rank : Line → Nat} {lines : List Line} {v line : Line}

lemma mem_of_fewest? (hv : Textbook.fewest? lines = some v) : v ∈ lines := by
  induction lines with
  | nil => simp [Textbook.fewest?] at hv
  | cons line rest ih =>
    rw [Textbook.fewest?] at hv
    split at hv
    · simp_all
    · next other hother =>
      split at hv
      · exact List.mem_cons_of_mem _ (ih (hother.trans hv))
      · simp_all

lemma head?_of_least (horder : lines.Pairwise fun a b => rank a < rank b) (hv : v ∈ lines)
    (hleast : ∀ w ∈ lines, w ≠ v → rank v < rank w) : lines.head? = some v := by
  cases lines with
  | nil => simp at hv
  | cons line rest =>
    by_cases heq : line = v
    · rw [heq, List.head?_cons]
    · have hrest : v ∈ rest := by simpa [Ne.symm heq] using hv
      have hlt := List.rel_of_pairwise_cons horder hrest
      have hlt' := hleast line List.mem_cons_self heq
      omega

lemma getLast?_of_greatest (horder : lines.Pairwise fun a b => rank a < rank b) (hv : v ∈ lines)
    (hgreatest : ∀ w ∈ lines, w ≠ v → rank w < rank v) : lines.getLast? = some v := by
  rcases List.eq_nil_or_concat lines with rfl | ⟨init, last, rfl⟩
  · simp at hv
  · rw [List.concat_eq_append] at horder hv hgreatest ⊢
    rw [List.getLast?_concat, Option.some.injEq]
    by_contra hne
    have hinit : v ∈ init := by simpa [Ne.symm hne] using hv
    have hlt := (List.pairwise_append.mp horder).2.2 v hinit last (by simp)
    have hlt' := hgreatest last (by simp) hne
    omega

lemma fewest?_of_least (horder : lines.Pairwise fun a b => rank a < rank b) (hv : v ∈ lines)
    (hleast : ∀ w ∈ lines, w ≠ v → v.uses < w.uses ∨ v.uses = w.uses ∧ rank v < rank w) :
    Textbook.fewest? lines = some v := by
  induction lines with
  | nil => simp at hv
  | cons line rest ih =>
    rw [Textbook.fewest?]
    by_cases heq : line = v
    · subst heq
      split
      · rfl
      · next other hother =>
        by_cases hother' : other = line
        · rw [hother', if_neg (Nat.lt_irrefl _)]
        · have hle := hleast other (List.mem_cons_of_mem _ (mem_of_fewest? hother)) hother'
          rw [if_neg (by omega)]
    · have hrest : v ∈ rest := by simpa [Ne.symm heq] using hv
      rw [ih horder.of_cons hrest fun w hw => hleast w (List.mem_cons_of_mem _ hw)]
      have hlt := List.rel_of_pairwise_cons horder hrest
      have hle := hleast line List.mem_cons_self heq
      exact if_pos (by omega)

end Victims

namespace Textbook

variable {h : Chronicle} {policy : Textbook} {lines : List Line} {v line : Line} {id : ObjectId}

/-- The time by which the list is ordered. -/
def rank (policy : Textbook) (h : Chronicle) (id : ObjectId) : Nat :=
  if policy.byRecency then h.latest id else h.admission id

lemma rank_cons_of_ne {id' : ObjectId} {hit : Bool} (hne : id' ≠ id) :
    policy.rank ((id', hit) :: h) id = policy.rank h id := by
  rw [rank, rank, Chronicle.latest_cons_of_ne hne, Chronicle.admission_cons_of_ne hne]

/-- An object that is admitted comes last. -/
lemma rank_cons_miss : policy.rank ((id, false) :: h) id = h.length + 1 := by
  simp [rank, Chronicle.latest, Chronicle.admission]

lemma rank_le (policy : Textbook) (h : Chronicle) (id : ObjectId) :
    policy.rank h id ≤ h.length := by
  rw [rank]
  split
  · exact Chronicle.latest_le id h
  · exact Chronicle.admission_le id h

/-- An object that precedes every other one is the victim. -/
lemma victim?_of_precedes
    (horder : lines.Pairwise fun a b => policy.rank h a.id < policy.rank h b.id)
    (huses : ∀ line ∈ lines, line.uses = h.count line.id) (hv : v ∈ lines)
    (hfirst : ∀ w ∈ lines, w ≠ v → policy.Precedes h v.id w.id) :
    policy.victim? lines = some v := by
  cases policy with
  | lru => exact head?_of_least horder hv hfirst
  | mru => exact getLast?_of_greatest horder hv hfirst
  | fifo => exact head?_of_least horder hv hfirst
  | lfu =>
    refine fewest?_of_least horder hv fun w hw hne => ?_
    rw [huses v hv, huses w hw]
    exact hfirst w hw hne
  | lfuLru =>
    refine fewest?_of_least horder hv fun w hw hne => ?_
    rw [huses v hv, huses w hw]
    exact hfirst w hw hne

/-- After a hit the other lines are the same, and the line of the object has one use more. -/
lemma mem_hit : line ∈ policy.hit id lines ↔
    line ∈ lines ∧ line.id ≠ id ∨ ∃ old ∈ lines, old.id = id ∧ old.use = line := by
  rw [hit]
  split
  · simp [and_assoc]
  · rw [List.mem_map]
    constructor
    · rintro ⟨old, hold, rfl⟩
      split
      · next heq => exact Or.inr ⟨old, hold, heq, rfl⟩
      · next hne => exact Or.inl ⟨hold, hne⟩
    · rintro (⟨hline, hne⟩ | ⟨old, hold, heq, rfl⟩)
      · exact ⟨line, hline, if_neg hne⟩
      · exact ⟨old, hold, if_pos heq⟩

/-- A hit on an object puts it last if the list is in the order of the latest requests, and leaves
the order of the admissions as it is. -/
lemma pairwise_hit (horder : lines.Pairwise fun a b => policy.rank h a.id < policy.rank h b.id) :
    (policy.hit id lines).Pairwise fun a b =>
      policy.rank ((id, true) :: h) a.id < policy.rank ((id, true) :: h) b.id := by
  cases hby : policy.byRecency with
  | true =>
    rw [hit, if_pos hby, List.pairwise_append]
    refine ⟨?_, ?_, ?_⟩
    · refine List.Pairwise.imp_of_mem ?_ (horder.filter _)
      intro a b ha hb hlt
      have hane : a.id ≠ id := by simpa using (List.mem_filter.mp ha).2
      have hbne : b.id ≠ id := by simpa using (List.mem_filter.mp hb).2
      rwa [rank_cons_of_ne (Ne.symm hane), rank_cons_of_ne (Ne.symm hbne)]
    · rw [List.pairwise_map]
      refine List.Pairwise.imp_of_mem ?_ (horder.filter _)
      intro a b ha hb hlt
      -- the object has one line only
      have haid : a.id = id := by simpa using (List.mem_filter.mp ha).2
      have hbid : b.id = id := by simpa using (List.mem_filter.mp hb).2
      rw [haid, hbid] at hlt
      exact absurd hlt (Nat.lt_irrefl _)
    · intro a ha b hb
      have hane : a.id ≠ id := by simpa using (List.mem_filter.mp ha).2
      obtain ⟨old, hold, rfl⟩ := List.mem_map.mp hb
      have hbid : old.id = id := by simpa using (List.mem_filter.mp hold).2
      have hle := rank_le policy h a.id
      have hlast : policy.rank ((id, true) :: h) id = h.length + 1 := by
        rw [rank, if_pos hby, Chronicle.latest, if_pos rfl]
      change _ < policy.rank _ old.id
      rw [rank_cons_of_ne (Ne.symm hane), hbid, hlast]
      omega
  | false =>
    have hid : ∀ line : Line, (if line.id = id then line.use else line).id = line.id := by
      intro line
      split <;> rfl
    rw [hit, if_neg (by simp [hby]), List.pairwise_map]
    refine horder.imp ?_
    intro a b hlt
    simpa [hid, rank, hby, Chronicle.admission_cons_hit] using hlt

end Textbook

end CacheSim
