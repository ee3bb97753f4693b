import Mathlib.Data.List.AList

/-!
# Finite tables

A finite map from keys to values is an `AList` with a constant value family. This file
adds to Mathlib's lemmas what a mutable hash table needs: writing a value in place,
keeping the entries that satisfy a test, and counting entries. `Restricts` relates a table to
its part at some of the keys.
-/

namespace Library

/-- A finite map: at most one value for each key. -/
abbrev Table (K V : Type) := AList (fun _ : K => V)

namespace Table

variable {K V : Type} [DecidableEq K]

/-- The number of stored entries. -/
def size (t : Table K V) : Nat := t.entries.length

/-- Write `v` at a key, in place when the key is stored. -/
def assign (k : K) (v : V) (t : Table K V) : Table K V :=
  if k ∈ t then t.replace k v else t.insert k v

/-- Keep the entries that satisfy `p`. -/
def filter (p : K → V → Bool) (t : Table K V) : Table K V :=
  ⟨t.entries.filter fun e => p e.1 e.2, t.nodupKeys.sublist List.filter_sublist⟩

omit [DecidableEq K] in
@[simp] theorem size_empty : size (∅ : Table K V) = 0 := rfl

theorem lookup_eq_some_iff {t : Table K V} {k : K} {v : V} :
    t.lookup k = some v ↔ ⟨k, v⟩ ∈ t.entries := AList.mem_lookup_iff

theorem mem_of_lookup {t : Table K V} {k : K} {v : V} (h : t.lookup k = some v) : k ∈ t :=
  AList.lookup_isSome.mp (by simp [h])

/-! ## Writing in place -/

theorem dlookup_cons (k a : K) (b : V) (l : List (Sigma fun _ : K => V)) :
    List.dlookup k (⟨a, b⟩ :: l) = if k = a then some b else List.dlookup k l := by
  by_cases h : k = a
  · subst h
    simp
  · rw [if_neg h]
    exact List.dlookup_cons_ne (β := fun _ => V) l ⟨a, b⟩ h

theorem dlookup_kreplace (k : K) (v : V) (k' : K) :
    ∀ l : List (Sigma fun _ : K => V), k ∈ l.keys →
      List.dlookup k' (List.kreplace k v l) = if k' = k then some v else List.dlookup k' l
  | [], hk => by simp at hk
  | ⟨a, b⟩ :: l, hk => by
    by_cases ha : k = a
    · subst ha
      have hstep : List.kreplace k v (⟨k, b⟩ :: l) = ⟨k, v⟩ :: l :=
        List.lookmap_cons_some _ _ (if_pos rfl)
      rw [hstep, dlookup_cons, dlookup_cons]
      split <;> rfl
    · have hrest : k ∈ l.keys := by simpa [ha] using hk
      have hstep : List.kreplace k v (⟨a, b⟩ :: l) = ⟨a, b⟩ :: List.kreplace k v l :=
        List.lookmap_cons_none _ _ (if_neg ha)
      rw [hstep, dlookup_cons, dlookup_cons, dlookup_kreplace k v k' l hrest]
      by_cases hk' : k' = a
      · subst hk'
        simp [Ne.symm ha]
      · rw [if_neg hk', if_neg hk']

theorem lookup_replace {t : Table K V} {k : K} (v : V) (hk : k ∈ t) (k' : K) :
    AList.lookup k' (t.replace k v) = if k' = k then some v else t.lookup k' :=
  dlookup_kreplace k v k' t.entries hk

theorem length_kreplace (k : K) (v : V) (l : List (Sigma fun _ : K => V)) :
    (List.kreplace k v l).length = l.length := by
  have h := congrArg List.length (List.keys_kreplace (β := fun _ => V) k v l)
  simpa [List.keys] using h

@[simp] theorem lookup_assign (t : Table K V) (k : K) (v : V) (k' : K) :
    AList.lookup k' (t.assign k v) = if k' = k then some v else t.lookup k' := by
  unfold assign
  split
  · exact lookup_replace v ‹_› k'
  · by_cases hk' : k' = k
    · subst hk'
      simp
    · rw [AList.lookup_insert_ne hk', if_neg hk']

theorem size_assign_of_mem {t : Table K V} {k : K} (hk : k ∈ t) (v : V) :
    (t.assign k v).size = t.size := by
  rw [assign, if_pos hk]
  exact length_kreplace k v t.entries

theorem size_assign_of_notMem {t : Table K V} {k : K} (hk : k ∉ t) (v : V) :
    (t.assign k v).size = t.size + 1 := by
  rw [assign, if_neg hk, size, AList.entries_insert_of_notMem hk]
  rfl

theorem size_assign_le (t : Table K V) (k : K) (v : V) : (t.assign k v).size ≤ t.size + 1 := by
  by_cases hk : k ∈ t
  · rw [size_assign_of_mem hk]
    exact Nat.le_succ _
  · rw [size_assign_of_notMem hk]

@[simp] theorem mem_assign {t : Table K V} {k k' : K} {v : V} :
    k' ∈ t.assign k v ↔ k' = k ∨ k' ∈ t := by
  rw [← AList.lookup_isSome, lookup_assign]
  by_cases h : k' = k <;> simp [h, AList.lookup_isSome]

/-! ## Erasing -/

@[simp] theorem lookup_erase' (t : Table K V) (k k' : K) :
    AList.lookup k' (t.erase k) = if k' = k then none else t.lookup k' := by
  by_cases h : k' = k
  · subst h
    simp
  · rw [AList.lookup_erase_ne h, if_neg h]

theorem lookup_erase_eq_some {t : Table K V} {k k' : K} {v : V} :
    AList.lookup k' (t.erase k) = some v ↔ k' ≠ k ∧ t.lookup k' = some v := by
  rw [lookup_erase']
  split <;> simp_all

theorem size_erase_le (t : Table K V) (k : K) : size (t.erase k) ≤ t.size := by
  have h : (t.erase k).keys.length ≤ t.keys.length := by
    rw [AList.keys_erase]
    exact List.length_erase_le
  simpa [AList.keys, List.keys, size] using h

/-! ## Filtering -/

theorem lookup_filter_eq_some {p : K → V → Bool} {t : Table K V} {k : K} {v : V} :
    AList.lookup k (t.filter p) = some v ↔ t.lookup k = some v ∧ p k v = true := by
  rw [lookup_eq_some_iff, lookup_eq_some_iff]
  simp [filter]

theorem lookup_filter_key (p : K → Bool) (t : Table K V) (k : K) :
    AList.lookup k (t.filter fun k _ => p k) = if p k then t.lookup k else none := by
  apply Option.ext
  intro v
  rw [lookup_filter_eq_some]
  by_cases h : p k <;> simp [h]

omit [DecidableEq K] in
theorem size_filter_le (p : K → V → Bool) (t : Table K V) : (t.filter p).size ≤ t.size :=
  List.length_filter_le _ _

/-! ## Gathering -/

section Gather

variable {B : Type} {f g : K → List B} {t : Table K V} {k : K} {v : V}

/-- The items kept for the stored keys. -/
def gather (f : K → List B) (t : Table K V) : List B := t.entries.flatMap fun e => f e.1

theorem gather_congr (h : ∀ k ∈ t, f k = g k) : gather f t = gather g t := by
  refine List.flatMap_congr fun e he => h e.1 ?_
  exact mem_of_lookup (lookup_eq_some_iff.mpr he)

/-- Tables with the same values have the same entries, in some order. -/
theorem entries_perm {t' : Table K V} (h : ∀ k, t.lookup k = t'.lookup k) :
    t.entries.Perm t'.entries := by
  refine List.lookup_ext t.nodupKeys t'.nodupKeys fun k v => ?_
  exact Eq.to_iff (congrArg (v ∈ ·) (h k))

theorem entries_perm_erase (h : t.lookup k = some v) :
    t.entries.Perm (⟨k, v⟩ :: (AList.erase k t).entries) := by
  have hnot : k ∉ AList.erase k t := by simp
  rw [← AList.entries_insert_of_notMem (b := v) hnot]
  refine entries_perm fun k' => ?_
  by_cases hk : k' = k
  · subst hk
    rw [h, AList.lookup_insert]
  · rw [AList.lookup_insert_ne hk, lookup_erase', if_neg hk]

theorem gather_erase (f : K → List B) (h : t.lookup k = some v) :
    (gather f t).Perm (f k ++ gather f (AList.erase k t)) :=
  (entries_perm_erase h).flatMap_right _

theorem gather_erase_of_none (f : K → List B) (h : t.lookup k = none) :
    (gather f t).Perm (gather f (AList.erase k t)) := by
  refine (entries_perm fun k' => ?_).flatMap_right _
  rw [lookup_erase']
  split
  · rename_i hk
    rw [hk, h]
  · rfl

theorem gather_assign (f : K → List B) (t : Table K V) (k : K) (v : V) :
    (gather f (t.assign k v)).Perm (f k ++ gather f (AList.erase k t)) := by
  refine (gather_erase (v := v) f (by simp)).trans ((List.Perm.refl _).append ?_)
  refine (entries_perm fun k' => ?_).flatMap_right _
  simp only [lookup_erase', lookup_assign]
  split <;> rfl

omit [DecidableEq K] in
theorem gather_filter (f : K → List B) (p : K → V → Bool) (t : Table K V) :
    (gather f t).Perm
      (gather f (t.filter p) ++ (t.entries.filter fun e => !p e.1 e.2).flatMap fun e => f e.1) := by
  unfold gather
  rw [← List.flatMap_append]
  exact (List.filter_append_perm _ _).symm.flatMap_right _

end Gather

/-! ## Restrictions -/

/-- The second table is the part of the first at the keys that satisfy `p`. -/
structure Restricts (p : K → Prop) (t t' : Table K V) : Prop where
  inside : ∀ k, p k → t'.lookup k = t.lookup k
  outside : ∀ k, ¬ p k → t'.lookup k = none

namespace Restricts

variable {p : K → Prop} {t t' : Table K V} {k : K}

theorem empty (p : K → Prop) : Restricts p (∅ : Table K V) ∅ where
  inside _ _ := rfl
  outside _ _ := rfl

theorem mem (h : Restricts p t t') (hk : k ∈ t') : p k ∧ k ∈ t := by
  obtain ⟨v, hv⟩ := Option.isSome_iff_exists.mp (AList.lookup_isSome.mpr hk)
  by_cases hp : p k
  · rw [h.inside k hp] at hv
    exact ⟨hp, mem_of_lookup hv⟩
  · rw [h.outside k hp] at hv
    cases hv

theorem mem_iff (h : Restricts p t t') (hp : p k) : k ∈ t' ↔ k ∈ t := by
  rw [← AList.lookup_isSome, ← AList.lookup_isSome, h.inside k hp]

theorem size_le (h : Restricts p t t') : t'.size ≤ t.size := by
  have hsub : t'.keys ⊆ t.keys := fun k hk => (h.mem hk).2
  simpa [AList.keys, List.keys, size] using (List.subperm_of_subset t'.keys_nodup hsub).length_le

theorem assign (h : Restricts p t t') (hp : p k) (v : V) :
    Restricts p (t.assign k v) (t'.assign k v) where
  inside k' hk' := by rw [lookup_assign, lookup_assign, h.inside k' hk']
  outside k' hk' := by
    have hne : k' ≠ k := fun heq => hk' (heq ▸ hp)
    rw [lookup_assign, if_neg hne, h.outside k' hk']

theorem assign_outside (h : Restricts p t t') (hp : ¬ p k) (v : V) :
    Restricts p (t.assign k v) t' where
  inside k' hk' := by
    have hne : k' ≠ k := fun heq => hp (heq ▸ hk')
    rw [lookup_assign, if_neg hne, h.inside k' hk']
  outside := h.outside

theorem erase (h : Restricts p t t') (k : K) : Restricts p (AList.erase k t) (AList.erase k t') where
  inside k' hk' := by rw [lookup_erase', lookup_erase', h.inside k' hk']
  outside k' hk' := by rw [lookup_erase', h.outside k' hk', ite_self]

theorem erase_outside (h : Restricts p t t') (hp : ¬ p k) :
    Restricts p (AList.erase k t) t' where
  inside k' hk' := by
    have hne : k' ≠ k := fun heq => hp (heq ▸ hk')
    rw [lookup_erase', if_neg hne, h.inside k' hk']
  outside := h.outside

end Restricts

end Table

end Library
