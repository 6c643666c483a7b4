import CacheSim.Proofs.Tables

/-!
# Tables under other keys

Two ordered tables may hold the same under other keys.  If the keys are taken to each other by an
injection that need not respect their order, the entries are listed in another order, and nothing
else can be told from the keys.

* `Table.Matched`: each entry of one table has its counterpart in the other;
* `Table.Matched.insert`, `Table.Matched.erase`: what is done to both tables keeps that;
* `Table.Matched.exists_forall₂`: the entries of the one can be listed along those of the other.
-/

namespace CacheSim

/-- A list whose members are told from those of another one is a map of that one. -/
lemma eq_map_of_forall₂ {α β : Type} {R : α → β → Prop} {l : List α} {l' : List β} (g : α → β)
    (h : List.Forall₂ R l l') (hR : ∀ a b, R a b → b = g a) : l' = l.map g := by
  induction h with
  | nil => rfl
  | cons ha _ ih => rw [List.map_cons, ← ih, hR _ _ ha]

/-- What related members of two lists have in common is listed in the same order. -/
lemma map_eq_of_forall₂ {α β : Type} {R : α → α → Prop} {l l' : List α} (g : α → β)
    (h : List.Forall₂ R l l') (hR : ∀ a a', R a a' → g a' = g a) : l'.map g = l.map g :=
  eq_map_of_forall₂ g (List.forall₂_map_right_iff.mpr (h.imp hR)) fun _ _ heq => heq

namespace Table

variable {κ β : Type} {cmp : κ → κ → Ordering} {t t' : Std.TreeMap κ β cmp} {k : κ} {v v' : β}
variable {f : κ → κ} {R R' : β → β → Prop}

/-- Two tables hold the same, up to `R`, where `f` takes the keys of one to those of the other. -/
structure Matched (f : κ → κ) (R : β → β → Prop) (t t' : Std.TreeMap κ β cmp) : Prop where
  forth : ∀ k v, t[k]? = some v → ∃ v', t'[f k]? = some v' ∧ R v v'
  back : ∀ k' v', t'[k']? = some v' → ∃ k v, f k = k' ∧ t[k]? = some v

namespace Matched

/-- Counterparts are related. -/
lemma related (h : Matched f R t t') (hv : t[k]? = some v) (hv' : t'[f k]? = some v') :
    R v v' := by
  obtain ⟨w, hw, hrel⟩ := h.forth k v hv
  rw [hv', Option.some.injEq] at hw
  exact hw ▸ hrel

lemma mono (h : Matched f R t t') (hR : ∀ v v', R v v' → R' v v') : Matched f R' t t' where
  forth := fun k v hv => by
    obtain ⟨v', hv', hrel⟩ := h.forth k v hv
    exact ⟨v', hv', hR v v' hrel⟩
  back := h.back

/-- What is missing in one table is missing in the other. -/
lemma getElem?_eq_none_iff (h : Matched f R t t') (hf : Function.Injective f) :
    t'[f k]? = none ↔ t[k]? = none := by
  rw [Option.eq_none_iff_forall_ne_some, Option.eq_none_iff_forall_ne_some]
  constructor
  · intro hnone v hv
    obtain ⟨v', hv', -⟩ := h.forth k v hv
    exact hnone v' hv'
  · intro hnone v' hv'
    obtain ⟨k₁, v, heq, hv⟩ := h.back _ v' hv'
    exact hnone v (hf heq ▸ hv)

/-- What related entries have in common can be looked up in either table. -/
lemma map_getElem?_eq (h : Matched f R t t') (hf : Function.Injective f) {γ : Type}
    (g g' : β → γ) (hR : ∀ v v', R v v' → g' v' = g v) (k : κ) : t'[f k]?.map g' = t[k]?.map g := by
  cases hk : t[k]? with
  | none => rw [(h.getElem?_eq_none_iff hf).mpr hk, Option.map_none, Option.map_none]
  | some v =>
    obtain ⟨v', hv', hrel⟩ := h.forth k v hk
    rw [hv', Option.map_some, Option.map_some, hR v v' hrel]

variable [Std.TransCmp cmp]

lemma empty : Matched f R (∅ : Std.TreeMap κ β cmp) ∅ where
  forth := fun k v h => by simp at h
  back := fun k' v' h => by simp at h

/-- One table is empty if the other is. -/
lemma isEmpty_eq (h : Matched f R t t') : t'.isEmpty = t.isEmpty := by
  rw [Bool.eq_iff_iff, Std.TreeMap.isEmpty_iff_forall_not_mem,
    Std.TreeMap.isEmpty_iff_forall_not_mem]
  constructor
  · intro hnone k hk
    obtain ⟨v, hv⟩ := mem_iff_exists.mp hk
    obtain ⟨v', hv', -⟩ := h.forth k v hv
    exact hnone _ (mem_iff_exists.mpr ⟨v', hv'⟩)
  · intro hnone k' hk'
    obtain ⟨v', hv'⟩ := mem_iff_exists.mp hk'
    obtain ⟨k, v, -, hv⟩ := h.back k' v' hv'
    exact hnone k (mem_iff_exists.mpr ⟨v, hv⟩)

section Injective

variable [Std.LawfulEqCmp cmp] (hf : Function.Injective f)
include hf

lemma insert (h : Matched f R t t') (k : κ) (hR : R v v') :
    Matched f R (t.insert k v) (t'.insert (f k) v') where
  forth := fun k₁ v₁ hv₁ => by
    rcases getElem?_insert_eq_some.mp hv₁ with ⟨rfl, rfl⟩ | ⟨hne, hv₁⟩
    · exact ⟨v', Std.TreeMap.getElem?_insert_self, hR⟩
    · obtain ⟨v₁', hv₁', hrel⟩ := h.forth k₁ v₁ hv₁
      exact ⟨v₁', getElem?_insert_eq_some.mpr (Or.inr ⟨hf.ne hne, hv₁'⟩), hrel⟩
  back := fun k₁' v₁' hv₁' => by
    rcases getElem?_insert_eq_some.mp hv₁' with ⟨rfl, -⟩ | ⟨hne, hv₁'⟩
    · exact ⟨k, v, rfl, Std.TreeMap.getElem?_insert_self⟩
    · obtain ⟨k₁, v₁, rfl, hv₁⟩ := h.back k₁' v₁' hv₁'
      have hne' : k ≠ k₁ := fun heq => hne (heq ▸ rfl)
      exact ⟨k₁, v₁, rfl, getElem?_insert_eq_some.mpr (Or.inr ⟨hne', hv₁⟩)⟩

lemma erase (h : Matched f R t t') (k : κ) : Matched f R (t.erase k) (t'.erase (f k)) where
  forth := fun k₁ v₁ hv₁ => by
    obtain ⟨hne, hv₁⟩ := getElem?_erase_eq_some.mp hv₁
    obtain ⟨v₁', hv₁', hrel⟩ := h.forth k₁ v₁ hv₁
    exact ⟨v₁', getElem?_erase_eq_some.mpr ⟨hf.ne hne, hv₁'⟩, hrel⟩
  back := fun k₁' v₁' hv₁' => by
    obtain ⟨hne, hv₁'⟩ := getElem?_erase_eq_some.mp hv₁'
    obtain ⟨k₁, v₁, rfl, hv₁⟩ := h.back k₁' v₁' hv₁'
    have hne' : k ≠ k₁ := fun heq => hne (heq ▸ rfl)
    exact ⟨k₁, v₁, rfl, getElem?_erase_eq_some.mpr ⟨hne', hv₁⟩⟩

/-- The entries of one table can be listed along those of the other. -/
lemma exists_forall₂ (h : Matched f R t t') :
    ∃ l, List.Forall₂ (fun e e' => e'.1 = f e.1 ∧ R e.2 e'.2) t.toList l ∧
      l.Perm t'.toList := by
  have hpartner : ∀ e : {e // e ∈ t.toList}, ∃ v', t'[f e.1.1]? = some v' ∧ R e.1.2 v' :=
    fun e => h.forth e.1.1 e.1.2 (mem_toList.mp e.2)
  choose partner hlookup hrel using hpartner
  refine ⟨t.toList.attach.map fun e => (f e.1.1, partner e), ?_, ?_⟩
  · have hpairs : List.Forall₂ (fun e e' => e'.1 = f e.1 ∧ R e.2 e'.2)
        (t.toList.attach.map Subtype.val)
        (t.toList.attach.map fun e => (f e.1.1, partner e)) := by
      rw [List.forall₂_map_left_iff, List.forall₂_map_right_iff]
      exact List.forall₂_same.mpr fun e _ => ⟨rfl, hrel e⟩
    rwa [List.attach_map_subtype_val] at hpairs
  · have hkeys : ((t.toList.attach.map fun e => (f e.1.1, partner e)).map Prod.fst).Nodup := by
      have hold := (nodup_keys t).map hf
      rw [← List.attach_map_subtype_val t.toList] at hold
      simpa [Function.comp_def] using hold
    refine (List.perm_ext_iff_of_nodup hkeys.of_map (nodup_toList t')).mpr fun e' => ?_
    rw [List.mem_map]
    constructor
    · rintro ⟨e, -, rfl⟩
      exact mem_toList.mpr (hlookup e)
    · intro he'
      obtain ⟨k, v, hk, hv⟩ := h.back e'.1 e'.2 (mem_toList.mp he')
      refine ⟨⟨(k, v), mem_toList.mpr hv⟩, List.mem_attach _ _, Prod.ext hk ?_⟩
      have hfound := hlookup ⟨(k, v), mem_toList.mpr hv⟩
      rw [hk, mem_toList.mp he', Option.some.injEq] at hfound
      exact hfound.symm

end Injective

end Matched
end Table
end CacheSim
