import CacheSim.Proofs.Cache.Coverage
import CacheSim.Proofs.Ends
import CacheSim.Proofs.Textbook.Simulation

/-!
# A larger cache holds what a smaller one holds

Under the policy of the least recent use a cache keeps the latest objects as far as they fit.  So
of two caches that are asked for the same objects the larger one holds all that the smaller one
holds, and whatever else it holds was requested less recently.  The two differ in what they hit,
in how many objects they evict and in the room that they leave; what is kept through all of it is
that the list of the smaller cache is an end of the list of the larger one.

* `ListCache.Nested.request`: one request to both caches;
* `Cache.lru_inclusion`: all runs of both.
-/

namespace CacheSim

/-! ## Lists in the order of the latest requests -/

section Refresh

variable {ids ids' : List ObjectId} {id : ObjectId}

/-- A list in which an object has moved to the end. -/
def refresh (id : ObjectId) (ids : List ObjectId) : List ObjectId :=
  ids.filter (fun other => other ≠ id) ++ [id]

lemma nodup_concat (h : ids.Nodup) (hnew : id ∉ ids) : (ids ++ [id]).Nodup := by
  rw [List.nodup_append_comm, List.singleton_append, List.nodup_cons]
  exact ⟨hnew, h⟩

lemma nodup_refresh (h : ids.Nodup) (id : ObjectId) : (refresh id ids).Nodup :=
  nodup_concat (h.filter _) (by simp)

lemma suffix_concat (h : ids' <:+ ids) (id : ObjectId) : ids' ++ [id] <:+ ids ++ [id] := by
  obtain ⟨earlier, rfl⟩ := h
  exact ⟨earlier, (List.append_assoc _ _ _).symm⟩

lemma refresh_suffix (h : ids' <:+ ids) (id : ObjectId) : refresh id ids' <:+ refresh id ids :=
  suffix_concat (h.filter _) id

/-- An object that is found further back in the longer list comes last in both. -/
lemma concat_suffix_refresh (h : ids' <:+ ids) (hnew : id ∉ ids') :
    ids' ++ [id] <:+ refresh id ids := by
  have hsame : ids'.filter (fun other => other ≠ id) = ids' := by
    rw [List.filter_eq_self]
    intro other hother
    have hne : other ≠ id := fun heq => hnew (heq ▸ hother)
    simpa using hne
  have hfiltered := h.filter fun other => other ≠ id
  rw [hsame] at hfiltered
  exact suffix_concat hfiltered id

end Refresh

/-- Whether a request was answered as a hit. -/
def Verdict.isHit : Verdict → Bool
  | .served hit _ => hit
  | _ => false

lemma Cache.Answer.isHit_verdict (answer : Cache.Answer) : answer.verdict.isHit = answer.isHit := by
  cases answer <;> rfl

namespace ListCache

variable {sizeOf : ObjectId → Nat} {l l' : ListCache} {size n : Nat} {r : Request}

/-! ## One list in the order of the latest requests -/

/-- The objects on the list. -/
def ids (l : ListCache) : List ObjectId :=
  l.lines.map Line.id

/-- A list in the order of the latest requests, with the given sizes and no object twice. -/
structure ByRecency (sizeOf : ObjectId → Nat) (l : ListCache) : Prop where
  policy : l.policy = .lru
  sizes : ∀ line ∈ l.lines, line.size = sizeOf line.id
  nodup : l.ids.Nodup

/-- What making room and a hit leave as it is. -/
structure SameBooks (l l' : ListCache) : Prop where
  capacity : l'.capacity = l.capacity
  unitSizes : l'.unitSizes = l.unitSizes
  misses : l'.counts.misses = l.counts.misses
  missBytes : l'.counts.missBytes = l.counts.missBytes

lemma ByRecency.bytes_eq (h : ByRecency sizeOf l) : l.bytes = (l.ids.map sizeOf).sum := by
  rw [bytes, ids, List.map_map, List.map_congr_left h.sizes]
  rfl

/-- The victim is the first object of the list. -/
lemma ByRecency.evict {line : Line} {rest : List Line} (h : ByRecency sizeOf l)
    (hlines : l.lines = line :: rest) :
    l.evict? = some (line.id, l.drop line.id) ∧ (l.drop line.id).lines = rest ∧
      ByRecency sizeOf (l.drop line.id) := by
  have hnodup := h.nodup
  rw [ids, hlines, List.map_cons, List.nodup_cons] at hnodup
  have hrest : (l.drop line.id).lines = rest := by
    rw [drop, hlines, List.filter_cons_of_neg (by simp), List.filter_eq_self]
    intro other hother
    have hne : other.id ≠ line.id := fun heq => hnodup.1 (heq ▸ List.mem_map_of_mem hother)
    simpa using hne
  refine ⟨?_, hrest, h.policy, fun other hother => ?_, ?_⟩
  · rw [evict?, h.policy, hlines]
    rfl
  · rw [hrest] at hother
    exact h.sizes other (hlines ▸ List.mem_cons_of_mem _ hother)
  · rw [ids, hrest]
    exact hnodup.2

/-- Making room leaves the latest objects as far as they fit. -/
lemma ByRecency.makeRoom (h : ByRecency sizeOf l) (hroom : size ≤ l.capacity)
    (hn : l.lines.length ≤ n) :
    ByRecency sizeOf (makeRoom size n l).2 ∧ SameBooks l (makeRoom size n l).2 ∧
      (ListCache.makeRoom size n l).2.ids = fittingEnd sizeOf (l.capacity - size) l.ids := by
  induction n generalizing l with
  | zero =>
    have hnil : l.lines = [] := List.length_eq_zero_iff.mp (Nat.le_zero.mp hn)
    refine ⟨h, ⟨rfl, rfl, rfl, rfl⟩, ?_⟩
    change l.ids = _
    rw [ids, hnil]
    rfl
  | succ n ih =>
    rw [ListCache.makeRoom]
    split
    · next hfits =>
      rw [h.bytes_eq] at hfits
      have hle : (l.ids.map sizeOf).sum ≤ l.capacity - size := by omega
      exact ⟨h, ⟨rfl, rfl, rfl, rfl⟩, (fittingEnd_of_le hle).symm⟩
    · next hover =>
      rw [h.bytes_eq] at hover
      cases hlines : l.lines with
      | nil =>
        rw [ids, hlines] at hover
        exact absurd hover (by simpa using hroom)
      | cons line rest =>
        obtain ⟨hevict, hrest, hdrop⟩ := h.evict hlines
        have hids : l.ids = line.id :: (l.drop line.id).ids := by
          rw [ids, ids, hlines, hrest, List.map_cons]
        have hshorter : (l.drop line.id).lines.length ≤ n := by
          rw [hlines, List.length_cons] at hn
          rw [hrest]
          exact Nat.le_of_succ_le_succ hn
        obtain ⟨hby, hsame, hend⟩ := ih hdrop hroom hshorter
        rw [hevict]
        refine ⟨hby, ⟨hsame.capacity, hsame.unitSizes, hsame.misses, hsame.missBytes⟩, ?_⟩
        rw [hids] at hover ⊢
        rw [fittingEnd, if_neg (by omega)]
        exact hend

lemma ByRecency.any_iff (l : ListCache) (id : ObjectId) :
    (l.lines.any fun line => line.id = id) = true ↔ id ∈ l.ids := by
  simp [ids]

/-- A hit moves the object to the end. -/
lemma ByRecency.hit (h : ByRecency sizeOf l) (hmem : r.id ∈ l.ids) :
    (l.request r).1.isHit = true ∧ ByRecency sizeOf (l.request r).2 ∧
      SameBooks l (l.request r).2 ∧ (l.request r).2.ids = refresh r.id l.ids := by
  rw [request, if_pos ((any_iff l r.id).mpr hmem)]
  -- the object has one line, which comes last now
  have hone : ((l.lines.filter fun line => line.id = r.id).map Line.use).map Line.id = [r.id] := by
    have hfiltered : (l.lines.filter fun line => line.id = r.id).map Line.id =
        l.ids.filter fun id => id == r.id := by
      rw [ids, List.filter_map]
      rfl
    rw [List.map_map, show Line.id ∘ Line.use = Line.id from rfl, hfiltered, List.filter_beq,
      List.count_eq_one_of_mem h.nodup hmem]
    rfl
  have hids : (l.policy.hit r.id l.lines).map Line.id = refresh r.id l.ids := by
    rw [h.policy, Textbook.hit, if_pos (show Textbook.lru.byRecency = true from rfl),
      List.map_append, hone, refresh, ids, List.filter_map]
    rfl
  refine ⟨rfl, ⟨h.policy, fun line hline => ?_, ?_⟩, ⟨rfl, rfl, rfl, rfl⟩, hids⟩
  · rcases Textbook.mem_hit.mp hline with ⟨hline, -⟩ | ⟨old, hold, -, rfl⟩
    · exact h.sizes line hline
    · exact h.sizes old hold
  · rw [ids, hids]
    exact nodup_refresh h.nodup r.id

/-- An object that is admitted comes last, after the latest ones that fit beside it. -/
lemma ByRecency.admitMissing {id : ObjectId} (h : ByRecency sizeOf l) (hnew : id ∉ l.ids)
    (hroom : sizeOf id ≤ l.capacity) :
    ByRecency sizeOf (l.admitMissing id (sizeOf id)).2 ∧
      SameBooks l (l.admitMissing id (sizeOf id)).2 ∧
      (l.admitMissing id (sizeOf id)).2.ids =
        fittingEnd sizeOf (l.capacity - sizeOf id) l.ids ++ [id] := by
  obtain ⟨hby, hsame, hend⟩ := h.makeRoom hroom (Nat.le_refl _)
  have hids : (l.admitMissing id (sizeOf id)).2.ids =
      fittingEnd sizeOf (l.capacity - sizeOf id) l.ids ++ [id] := by
    rw [← hend, ListCache.admitMissing, ids, ids, List.map_append, List.map_singleton]
  refine ⟨⟨hby.policy, fun line hline => ?_, ?_⟩,
    ⟨hsame.capacity, hsame.unitSizes, hsame.misses, hsame.missBytes⟩, hids⟩
  · rcases List.mem_append.mp hline with hline | hline
    · exact hby.sizes line hline
    · obtain rfl := List.mem_singleton.mp hline
      rfl
  · rw [hids]
    have hsuffix := fittingEnd_suffix sizeOf (l.capacity - sizeOf id) l.ids
    exact nodup_concat (h.nodup.sublist hsuffix.sublist) fun hmem => hnew (hsuffix.subset hmem)

/-- A miss is counted, and the object is admitted. -/
lemma ByRecency.miss (h : ByRecency sizeOf l) (hnew : r.id ∉ l.ids)
    (hsize : Cache.Call.bytes l.unitSizes (.request r) = sizeOf r.id)
    (hfits : sizeOf r.id ≤ l.capacity) :
    (l.request r).1.isHit = false ∧ ByRecency sizeOf (l.request r).2 ∧
      (l.request r).2.capacity = l.capacity ∧ (l.request r).2.unitSizes = l.unitSizes ∧
      (l.request r).2.counts.misses = l.counts.misses + 1 ∧
      (l.request r).2.counts.missBytes = l.counts.missBytes + sizeOf r.id ∧
      (l.request r).2.ids = fittingEnd sizeOf (l.capacity - sizeOf r.id) l.ids ++ [r.id] := by
  have hbytes : (if l.unitSizes then 1 else r.size.toNat) = sizeOf r.id := hsize
  rw [request, if_neg (mt (any_iff l r.id).mp hnew), hbytes, if_neg (Nat.not_lt.mpr hfits)]
  have hcounted : ∀ counts, ByRecency sizeOf { l with counts := counts } := fun counts =>
    ⟨h.policy, h.sizes, h.nodup⟩
  obtain ⟨hby, hsame, hids⟩ := (hcounted { l.counts with
    requests := l.counts.requests + 1
    misses := l.counts.misses + 1
    requestBytes := l.counts.requestBytes + sizeOf r.id
    missBytes := l.counts.missBytes + sizeOf r.id }).admitMissing hnew hfits
  exact ⟨rfl, hby, hsame.capacity, hsame.unitSizes, hsame.misses, hsame.missBytes, hids⟩

/-! ## Two lists -/

/-- The list of a smaller cache is an end of the list of a larger one, which has missed no more. -/
structure Nested (sizeOf : ObjectId → Nat) (capacity : Nat) (unitSizes : Bool)
    (l l' : ListCache) : Prop where
  small : ByRecency sizeOf l
  large : ByRecency sizeOf l'
  capacity_eq : l.capacity = capacity
  capacity_le : capacity ≤ l'.capacity
  unitSizes_eq : l.unitSizes = unitSizes ∧ l'.unitSizes = unitSizes
  suffix : l.ids <:+ l'.ids
  misses : l'.counts.misses ≤ l.counts.misses
  missBytes : l'.counts.missBytes ≤ l.counts.missBytes

variable {capacity capacity' : Nat} {unitSizes : Bool}

lemma nested_new (hle : capacity ≤ capacity') (unitSizes : Bool) :
    Nested sizeOf capacity unitSizes (new .lru capacity unitSizes)
      (new .lru capacity' unitSizes) where
  small := ⟨rfl, fun line hline => by simp [new] at hline, List.nodup_nil⟩
  large := ⟨rfl, fun line hline => by simp [new] at hline, List.nodup_nil⟩
  capacity_eq := rfl
  capacity_le := hle
  unitSizes_eq := ⟨rfl, rfl⟩
  suffix := List.suffix_rfl
  misses := Nat.le_refl _
  missBytes := Nat.le_refl _

/-- A request keeps the lists nested.  What the smaller cache hits the larger one hits too. -/
lemma Nested.request (h : Nested sizeOf capacity unitSizes l l')
    (hsize : Cache.Call.bytes unitSizes (.request r) = sizeOf r.id)
    (hfits : sizeOf r.id ≤ capacity) :
    Nested sizeOf capacity unitSizes (l.request r).2 (l'.request r).2 ∧
      ((l.request r).1.isHit = true → (l'.request r).1.isHit = true) := by
  obtain ⟨hsmall, hlarge, rfl, hle, ⟨rfl, hunit⟩, hsuffix, hmisses, hmissBytes⟩ := h
  by_cases hmem : r.id ∈ l.ids
  · -- both hit, since the larger list has all that is on the smaller one
    obtain ⟨-, hby, hsame, hids⟩ := hsmall.hit hmem
    obtain ⟨hhit', hby', hsame', hids'⟩ := hlarge.hit (hsuffix.subset hmem)
    refine ⟨⟨hby, hby', hsame.capacity, hsame'.capacity ▸ hle,
      ⟨hsame.unitSizes, hsame'.unitSizes.trans hunit⟩, ?_, ?_, ?_⟩, fun _ => hhit'⟩
    · rw [hids, hids']
      exact refresh_suffix hsuffix r.id
    · rw [hsame.misses, hsame'.misses]
      exact hmisses
    · rw [hsame.missBytes, hsame'.missBytes]
      exact hmissBytes
  · obtain ⟨hmiss, hby, hcapacity, hunit₁, hcount, hbytes, hids⟩ := hsmall.miss hmem hsize hfits
    have hnever : (l.request r).1.isHit = true → (l'.request r).1.isHit = true := by
      intro hhit
      rw [hmiss] at hhit
      exact absurd hhit Bool.false_ne_true
    have hend := fittingEnd_suffix sizeOf (l.capacity - sizeOf r.id) l.ids
    by_cases hmem' : r.id ∈ l'.ids
    · -- the larger cache hits an object that the smaller one has evicted
      obtain ⟨-, hby', hsame', hids'⟩ := hlarge.hit hmem'
      refine ⟨⟨hby, hby', hcapacity, hsame'.capacity ▸ hle,
        ⟨hunit₁, hsame'.unitSizes.trans hunit⟩, ?_, ?_, ?_⟩, hnever⟩
      · rw [hids, hids']
        exact concat_suffix_refresh (hend.trans hsuffix) fun hin => hmem (hend.subset hin)
      · rw [hcount, hsame'.misses]
        omega
      · rw [hbytes, hsame'.missBytes]
        omega
    · have hsize' : Cache.Call.bytes l'.unitSizes (.request r) = sizeOf r.id := by
        rw [hunit]
        exact hsize
      obtain ⟨-, hby', hcapacity', hunit', hcount', hbytes', hids'⟩ :=
        hlarge.miss hmem' hsize' (Nat.le_trans hfits hle)
      refine ⟨⟨hby, hby', hcapacity, hcapacity' ▸ hle, ⟨hunit₁, hunit'.trans hunit⟩, ?_, ?_, ?_⟩,
        hnever⟩
      · rw [hids, hids']
        exact suffix_concat (fittingEnd_mono hsuffix (Nat.sub_le_sub_right hle _)) r.id
      · rw [hcount, hcount']
        omega
      · rw [hbytes, hbytes']
        omega

/-- A run of requests keeps the lists nested, and all that the smaller cache hits is hit. -/
lemma Nested.run {requests : List Request} (h : Nested sizeOf capacity unitSizes l l')
    (hsizes : ∀ r ∈ requests, Cache.Call.bytes unitSizes (.request r) = sizeOf r.id)
    (hfits : ∀ r ∈ requests, sizeOf r.id ≤ capacity) :
    Nested sizeOf capacity unitSizes (l.run (requests.map .request)).2
        (l'.run (requests.map .request)).2 ∧
      List.Forall₂ (fun verdict verdict' => verdict.isHit = true → verdict'.isHit = true)
        (l.run (requests.map .request)).1 (l'.run (requests.map .request)).1 := by
  induction requests generalizing l l' with
  | nil => exact ⟨h, .nil⟩
  | cons r requests ih =>
    obtain ⟨hnested, hhit⟩ := h.request (hsizes r List.mem_cons_self) (hfits r List.mem_cons_self)
    obtain ⟨hrest, hhits⟩ := ih hnested (fun r' hr' => hsizes r' (List.mem_cons_of_mem r hr'))
      fun r' hr' => hfits r' (List.mem_cons_of_mem r hr')
    exact ⟨hrest, .cons hhit hhits⟩

/-- The objects on the list are those in the cache. -/
lemma Mirrors.mem_ids {h : Chronicle} {c : Cache} (hmir : Mirrors h c l) (id : ObjectId) :
    id ∈ l.ids ↔ id ∈ c.stored := by
  rw [ids, List.mem_map, Table.mem_iff_exists]
  constructor
  · rintro ⟨line, hline, rfl⟩
    obtain ⟨object, hstored, -⟩ := (hmir.mem_lines line).mp hline
    exact ⟨object, hstored⟩
  · rintro ⟨object, hstored⟩
    exact ⟨_, hmir.mem_of_stored hstored, rfl⟩

/-- What stands before an end of the list was requested less recently. -/
lemma Mirrors.latest_lt {h : Chronicle} {c : Cache} (hmir : Mirrors h c l)
    (hlru : l.policy = .lru) {recent : List ObjectId} (hrecent : recent <:+ l.ids)
    {id id' : ObjectId} (hid : id ∈ recent) (hid' : id' ∈ l.ids) (hnot : id' ∉ recent) :
    h.latest id' < h.latest id := by
  have horder : l.ids.Pairwise fun a b => h.latest a < h.latest b := by
    have horder := hmir.order
    rw [hlru] at horder
    exact List.pairwise_map.mpr horder
  obtain ⟨earlier, hids⟩ := hrecent
  rw [← hids] at horder hid'
  have hearlier : id' ∈ earlier := (List.mem_append.mp hid').resolve_right hnot
  exact (List.pairwise_append.mp horder).2.2 id' hearlier id hid

end ListCache

namespace Cache

open ListCache (Nested nested_new mirrors_of_run)

/-! ## Two caches -/

variable {small large budget budget' : UInt64} {unitSizes : Bool} {requests : List Request}
variable {sizeOf : ObjectId → Nat} {answers answers' : List Answer} {c c' : Cache}

lemma inclusion_of_runs (hle : small ≤ large)
    (hsizes : ∀ r ∈ requests, Call.bytes unitSizes (.request r) = sizeOf r.id)
    (hfits : ∀ r ∈ requests, sizeOf r.id ≤ small.toNat)
    (hrun : runCalls perform (new small (.empty .lru budget) unitSizes)
      (requests.map .request) = .ok (answers, c))
    (hrun' : runCalls perform (new large (.empty .lru budget') unitSizes)
      (requests.map .request) = .ok (answers', c')) :
    (∀ id ∈ c.stored, id ∈ c'.stored) ∧
      (∀ id ∈ c.stored, ∀ id' ∈ c'.stored, id' ∉ c.stored →
        (chronicle ((requests.map .request).zip answers')).latest id' <
          (chronicle ((requests.map .request).zip answers')).latest id) ∧
      List.Forall₂ (fun answer answer' => answer.isHit = true → answer'.isHit = true)
        answers answers' ∧
      c'.tally.misses ≤ c.tally.misses ∧ c'.tally.missBytes ≤ c.tally.missBytes := by
  obtain ⟨l, hlist, -, hmir⟩ := mirrors_of_run .lru hrun
  obtain ⟨l', hlist', hlru', hmir'⟩ := mirrors_of_run .lru hrun'
  obtain ⟨hnested, hhits⟩ :=
    (nested_new (UInt64.le_iff_toNat_le.mp hle) unitSizes).run hsizes hfits
  rw [hlist, hlist'] at hnested hhits
  have hmem : ∀ id ∈ c.stored, id ∈ l.ids := fun id hid => (hmir.mem_ids id).mpr hid
  refine ⟨fun id hid => ?_, fun id hid id' hid' hnot => ?_, ?_, ?_, ?_⟩
  · exact (hmir'.mem_ids id).mp (hnested.suffix.subset (hmem id hid))
  · refine hmir'.latest_lt hlru' hnested.suffix (hmem id hid) ((hmir'.mem_ids id').mpr hid') ?_
    exact mt (hmir.mem_ids id').mp hnot
  · rw [List.forall₂_map_left_iff, List.forall₂_map_right_iff] at hhits
    simpa only [Answer.isHit_verdict] using hhits
  · have hmisses := hnested.misses
    rw [hmir.counts, hmir'.counts] at hmisses
    exact UInt64.le_iff_toNat_le.mpr hmisses
  · have hmissBytes := hnested.missBytes
    rw [hmir.counts, hmir'.counts] at hmissBytes
    exact UInt64.le_iff_toNat_le.mpr hmissBytes

/-- **A larger cache holds what a smaller one holds.**  Let two caches be asked for the same objects
under the policy of the least recent use, such that an object always has the same size and fits
into the smaller cache.  After any number of these requests, unless there are too many of them or
of their bytes to be counted, the larger cache stores whatever the smaller one stores; what it
stores besides was requested less recently; every hit of the smaller cache was a hit of the larger
one; and the larger one has missed no more objects and no more bytes. -/
theorem lru_inclusion {small large : UInt64} (hle : small ≤ large) (budget budget' : UInt64)
    (unitSizes : Bool) {requests : List Request} {sizeOf : ObjectId → Nat}
    (hsizes : ∀ r ∈ requests, Call.bytes unitSizes (.request r) = sizeOf r.id)
    (hfits : ∀ r ∈ requests, sizeOf r.id ≤ small.toNat) (n : Nat) :
    ((2 ^ 64 ≤ (requests.take n).length ∨
        2 ^ 64 ≤ ((requests.take n).map fun r => Call.bytes unitSizes (.request r)).sum) ∧
      ∀ capacity budget answers c,
        runCalls perform (new capacity (.empty .lru budget) unitSizes)
          ((requests.take n).map .request) ≠ .ok (answers, c)) ∨
    ∃ answers c answers' c',
      runCalls perform (new small (.empty .lru budget) unitSizes)
        ((requests.take n).map .request) = .ok (answers, c) ∧
      runCalls perform (new large (.empty .lru budget') unitSizes)
        ((requests.take n).map .request) = .ok (answers', c') ∧
      (∀ id ∈ c.stored, id ∈ c'.stored) ∧
      (∀ id ∈ c.stored, ∀ id' ∈ c'.stored, id' ∉ c.stored →
        (chronicle (((requests.take n).map .request).zip answers')).latest id' <
          (chronicle (((requests.take n).map .request).zip answers')).latest id) ∧
      List.Forall₂ (fun answer answer' => answer.isHit = true → answer'.isHit = true)
        answers answers' ∧
      c'.tally.misses ≤ c.tally.misses ∧ c'.tally.missBytes ≤ c.tally.missBytes := by
  have hsafe : Scorer.lru.Safe := Scorer.safe_of_word _ fun scene => Or.inl rfl
  have hcount : ((requests.take n).map Call.request).countP Call.isRequest =
      (requests.take n).length := by
    rw [List.countP_map]
    exact List.countP_eq_length.mpr fun r hr => rfl
  have hsum : (((requests.take n).map Call.request).map (Call.bytes unitSizes)).sum =
      ((requests.take n).map fun r => Call.bytes unitSizes (.request r)).sum := by
    rw [List.map_map]
    rfl
  have hiff : ∀ capacity budget,
      (∃ answers c, runCalls perform (new capacity (.empty .lru budget) unitSizes)
          ((requests.take n).map .request) = .ok (answers, c)) ↔
        (requests.take n).length < 2 ^ 64 ∧
          ((requests.take n).map fun r => Call.bytes unitSizes (.request r)).sum < 2 ^ 64 := by
    intro capacity budget
    rw [run_iff_counted hsafe, hcount, hsum]
  by_cases hcounted : (requests.take n).length < 2 ^ 64 ∧
      ((requests.take n).map fun r => Call.bytes unitSizes (.request r)).sum < 2 ^ 64
  · obtain ⟨answers, c, hrun⟩ := (hiff small budget).mpr hcounted
    obtain ⟨answers', c', hrun'⟩ := (hiff large budget').mpr hcounted
    refine Or.inr ⟨answers, c, answers', c', hrun, hrun', ?_⟩
    exact inclusion_of_runs hle (fun r hr => hsizes r (List.mem_of_mem_take hr))
      (fun r hr => hfits r (List.mem_of_mem_take hr)) hrun hrun'
  · refine Or.inl ⟨by omega, fun capacity budget answers c hrun => ?_⟩
    exact hcounted ((hiff capacity budget).mp ⟨answers, c, hrun⟩)

/-- The large object 1 goes in the smaller cache as soon as another one comes, so that only the
larger cache hits it.  The smaller cache ends with object 2 alone, which was requested last. -/
theorem lru_inclusion_of_uneven_sizes :
    ∃ answers c answers' c',
      runCalls perform (new 3 (.empty .lru 100) false) [.request ⟨0, 1, 3⟩, .request ⟨0, 2, 1⟩,
        .request ⟨0, 3, 2⟩, .request ⟨0, 1, 3⟩, .request ⟨0, 2, 1⟩] = .ok (answers, c) ∧
      runCalls perform (new 6 (.empty .lru 100) false) [.request ⟨0, 1, 3⟩, .request ⟨0, 2, 1⟩,
        .request ⟨0, 3, 2⟩, .request ⟨0, 1, 3⟩, .request ⟨0, 2, 1⟩] = .ok (answers', c') ∧
      c.tally.misses = 5 ∧ c'.tally.misses = 3 ∧ c.contains 1 = false ∧ c'.contains 1 = true ∧
      c.contains 2 = true ∧ c'.contains 2 = true ∧
      Chronicle.latest 1 [(2, true), (1, true), (3, false), (2, false), (1, false)] <
        Chronicle.latest 2 [(2, true), (1, true), (3, false), (2, false), (1, false)] := by
  let requests : List Request := [⟨0, 1, 3⟩, ⟨0, 2, 1⟩, ⟨0, 3, 2⟩, ⟨0, 1, 3⟩, ⟨0, 2, 1⟩]
  let sizeOf : ObjectId → Nat := fun id => if id = 1 then 3 else if id = 2 then 1 else 2
  have hsmall : (fun done : List Answer × Cache =>
        (done.2.tally.misses, done.2.contains 1, done.2.contains 2)) <$>
      runCalls perform (new 3 (.empty .lru 100) false) (requests.map .request) =
      .ok (5, false, true) := by
    cbv
  have hlarge : (fun done : List Answer × Cache =>
        (done.2.tally.misses, done.2.contains 1,
          chronicle ((requests.map .request).zip done.1))) <$>
      runCalls perform (new 6 (.empty .lru 100) false) (requests.map .request) =
      .ok (3, true, [(2, true), (1, true), (3, false), (2, false), (1, false)]) := by
    cbv
  obtain ⟨⟨answers, c⟩, hrun, heq⟩ := map_eq_ok.mp hsmall
  obtain ⟨⟨answers', c'⟩, hrun', heq'⟩ := map_eq_ok.mp hlarge
  simp only [Prod.mk.injEq] at heq heq'
  obtain ⟨hmisses, hgone, hkept⟩ := heq
  obtain ⟨hmisses', hmore, hchronicle⟩ := heq'
  have hle : (3 : UInt64) ≤ 6 := by decide
  have hsizes : ∀ r ∈ requests, Call.bytes false (.request r) = sizeOf r.id := by decide
  have hfits : ∀ r ∈ requests, sizeOf r.id ≤ (3 : UInt64).toNat := by decide
  obtain ⟨-, hnever⟩ | ⟨answers₁, c₁, answers₁', c₁', hrun₁, hrun₁', hsubset, hrecent, -⟩ :=
    lru_inclusion hle 100 100 false hsizes hfits 5
  · exact absurd hrun (hnever 3 100 answers c)
  obtain ⟨rfl, rfl⟩ := Prod.mk.inj (Except.ok.inj (hrun.symm.trans hrun₁))
  obtain ⟨rfl, rfl⟩ := Prod.mk.inj (Except.ok.inj (hrun'.symm.trans hrun₁'))
  have hin : 2 ∈ c.stored := Std.TreeMap.contains_iff_mem.mp hkept
  have hout : 1 ∉ c.stored := by
    rw [← Std.TreeMap.contains_iff_mem]
    exact Bool.eq_false_iff.mp hgone
  refine ⟨answers, c, answers', c', hrun, hrun', hmisses, hmisses', hgone, hmore, hkept,
    Std.TreeMap.contains_iff_mem.mpr (hsubset 2 hin), ?_⟩
  rw [← hchronicle]
  exact hrecent 2 hin 1 (Std.TreeMap.contains_iff_mem.mp hmore) hout

end Cache
end CacheSim
