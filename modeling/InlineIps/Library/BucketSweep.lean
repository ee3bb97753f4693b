import InlineIps.Library.Machine
import InlineIps.Library.Table

/-!
# Sweeping a hash table a slice of buckets at a time

A hash table with a fixed number of buckets places every key in one bucket. A sweep looks
at a slice of consecutive buckets from a cursor (wrapping around), collects the keys of
the entries that satisfy a test, moves the cursor past the slice, and then removes the
collected keys one by one, handing each removed value to a callback.

* `lookup_sweep_of_not`: an entry that fails the test stays.
* `lookup_of_lookup_sweep`: a sweep adds and changes nothing.
* `lookup_sweep_congr`: keys do not influence each other.
* `sweep_induction`: what the removal of one entry preserves, a sweep preserves.
* `swept_within`: in a machine that sweeps a table from time to time, an expired entry that is
  left alone is collected by one of the next eleven sweeps.
-/

namespace Library

/-- A bucket layout: a positive number of buckets and the bucket of each key. -/
structure Buckets (K : Type) where
  count : Nat
  count_pos : 0 < count
  index : K → Fin count

/-- The layout with one bucket. -/
def Buckets.single (K : Type) : Buckets K := ⟨1, Nat.one_pos, fun _ => 0⟩

namespace BucketSweep

variable {K V A : Type} [DecidableEq K]

/-- The number of buckets of one slice. -/
def quota (b : Buckets K) : Nat := max (b.count / 10) 64

/-- The keys in one bucket whose value satisfies the test. -/
def doomedIn (b : Buckets K) (isExpired : V → Bool) (t : Table K V) (bucket : Nat) : List K :=
  (t.entries.filter fun e => (b.index e.1).val == bucket && isExpired e.2).map Sigma.fst

/-- The keys in the slice at `cursor` whose value satisfies the test. -/
def doomed (b : Buckets K) (isExpired : V → Bool) (t : Table K V) (cursor : Nat) : List K :=
  (List.range (min (quota b) b.count)).flatMap fun i =>
    doomedIn b isExpired t ((cursor + i) % b.count)

/-- Remove keys one by one, handing each stored value to the callback. -/
def removeAll (onExpired : V → A → A) : List K → Table K V → A → Table K V × A
  | [], t, acc => (t, acc)
  | k :: ks, t, acc =>
    match t.lookup k with
    | some v => removeAll onExpired ks (t.erase k) (onExpired v acc)
    | none => removeAll onExpired ks t acc

/-- One sweep: the remaining table, the new cursor and the accumulated result. -/
def sweep (b : Buckets K) (isExpired : V → Bool) (onExpired : V → A → A) (t : Table K V)
    (cursor : Nat) (acc : A) : Table K V × Nat × A :=
  let removed := removeAll onExpired (doomed b isExpired t cursor) t acc
  (removed.1, (cursor + quota b) % b.count, removed.2)

variable {b : Buckets K} {isExpired : V → Bool} {onExpired : V → A → A} {t : Table K V}
  {cursor : Nat} {acc : A}

/-- Only stored entries that satisfy the test are collected. -/
theorem isExpired_of_mem_doomed {k : K} (hk : k ∈ doomed b isExpired t cursor) :
    ∃ v, t.lookup k = some v ∧ isExpired v = true := by
  obtain ⟨i, -, hi⟩ := List.mem_flatMap.mp hk
  obtain ⟨e, he, rfl⟩ := List.mem_map.mp hi
  obtain ⟨hmem, htest⟩ := List.mem_filter.mp he
  simp only [Bool.and_eq_true] at htest
  exact ⟨e.2, Table.lookup_eq_some_iff.mpr hmem, htest.2⟩

theorem lookup_removeAll (ks : List K) (t : Table K V) (acc : A) (k : K) :
    (removeAll onExpired ks t acc).1.lookup k = if k ∈ ks then none else t.lookup k := by
  induction ks generalizing t acc with
  | nil => rfl
  | cons k' ks ih =>
    unfold removeAll
    split
    · rw [ih, Table.lookup_erase']
      by_cases h : k = k' <;> simp [h]
    · rename_i hnone
      rw [ih]
      by_cases h : k = k'
      · subst h
        simp [hnone]
      · simp [h]

theorem lookup_sweep (k : K) :
    (sweep b isExpired onExpired t cursor acc).1.lookup k =
      if k ∈ doomed b isExpired t cursor then none else t.lookup k :=
  lookup_removeAll _ _ _ _

/-- A sweep adds and changes nothing. -/
theorem lookup_of_lookup_sweep {k : K} {v : V}
    (h : (sweep b isExpired onExpired t cursor acc).1.lookup k = some v) :
    t.lookup k = some v := by
  rw [lookup_sweep] at h
  split at h
  · cases h
  · exact h

/-- An entry that fails the test stays. -/
theorem lookup_sweep_of_not {k : K} {v : V} (h : t.lookup k = some v)
    (hv : isExpired v = false) :
    (sweep b isExpired onExpired t cursor acc).1.lookup k = some v := by
  rw [lookup_sweep, if_neg, h]
  intro hk
  obtain ⟨w, hw, hexp⟩ := isExpired_of_mem_doomed hk
  rw [h] at hw
  cases hw
  rw [hv] at hexp
  cases hexp

/-- A stored key is collected when its bucket is in the slice and its value satisfies the
test. -/
theorem mem_doomed_iff {k : K} {v : V} (h : t.lookup k = some v) :
    k ∈ doomed b isExpired t cursor ↔ isExpired v = true ∧
      ∃ i < min (quota b) b.count, (b.index k).val = (cursor + i) % b.count := by
  constructor
  · intro hk
    obtain ⟨i, hi, hdoomed⟩ := List.mem_flatMap.mp hk
    obtain ⟨e, he, rfl⟩ := List.mem_map.mp hdoomed
    obtain ⟨hmem, htest⟩ := List.mem_filter.mp he
    simp only [Bool.and_eq_true, beq_iff_eq] at htest
    have hv := h.symm.trans (Table.lookup_eq_some_iff.mpr hmem)
    injection hv with hv
    exact ⟨hv ▸ htest.2, i, List.mem_range.mp hi, htest.1⟩
  · rintro ⟨htest, i, hi, hbucket⟩
    refine List.mem_flatMap.mpr ⟨i, List.mem_range.mpr hi, List.mem_map.mpr ⟨⟨k, v⟩, ?_, rfl⟩⟩
    exact List.mem_filter.mpr ⟨Table.lookup_eq_some_iff.mp h, by simp [htest, hbucket]⟩

/-- What a sweep does at a key depends on the entry at that key alone. -/
theorem lookup_sweep_congr {A' : Type} {onExpired' : V → A' → A'} {t' : Table K V} {acc' : A'}
    {k : K} (h : t'.lookup k = t.lookup k) :
    (sweep b isExpired onExpired' t' cursor acc').1.lookup k =
      (sweep b isExpired onExpired t cursor acc).1.lookup k := by
  rw [lookup_sweep, lookup_sweep]
  cases hlookup : t.lookup k with
  | none =>
    rw [hlookup] at h
    rw [h, ite_self, ite_self]
  | some v =>
    rw [hlookup] at h
    rw [h]
    exact if_congr ((mem_doomed_iff h).trans (mem_doomed_iff hlookup).symm) rfl rfl

/-- Sweeps at the same cursor keep a restriction. -/
theorem restricts_sweep {A' : Type} {onExpired' : V → A' → A'} {t' : Table K V} {acc' : A'}
    {p : K → Prop} (h : Table.Restricts p t t') :
    Table.Restricts p (sweep b isExpired onExpired t cursor acc).1
      (sweep b isExpired onExpired' t' cursor acc').1 where
  inside k hk := lookup_sweep_congr (h.inside k hk)
  outside k hk := by rw [lookup_sweep, h.outside k hk, ite_self]

variable (onExpired t acc) in
theorem removeAll_induction {I : Table K V → A → Prop} (ks : List K) (hI : I t acc)
    (hstep : ∀ t acc k v, k ∈ ks → t.lookup k = some v → I t acc →
      I (t.erase k) (onExpired v acc)) :
    I (removeAll onExpired ks t acc).1 (removeAll onExpired ks t acc).2 := by
  induction ks generalizing t acc with
  | nil => exact hI
  | cons k ks ih =>
    have hrest : ∀ t acc k v, k ∈ ks → t.lookup k = some v → I t acc →
        I (t.erase k) (onExpired v acc) :=
      fun t acc k' v hk' => hstep t acc k' v (List.mem_cons_of_mem _ hk')
    unfold removeAll
    split
    · exact ih _ _ (hstep t acc k _ List.mem_cons_self ‹_› hI) hrest
    · exact ih _ _ hI hrest

variable (b isExpired onExpired t cursor acc) in
/-- **What the removal of one entry preserves, a sweep preserves.** Removed values satisfy
the test. -/
theorem sweep_induction {I : Table K V → A → Prop} (hI : I t acc)
    (hstep : ∀ t acc k v, t.lookup k = some v → isExpired v = true → I t acc →
      I (t.erase k) (onExpired v acc)) :
    I (sweep b isExpired onExpired t cursor acc).1 (sweep b isExpired onExpired t cursor acc).2.2 := by
  -- The test was made on the table before the sweep, so the rule carries along that the
  -- shrinking table only holds entries of that one.
  have hboth := removeAll_induction onExpired t acc (doomed b isExpired t cursor)
    (I := fun t' acc' => I t' acc' ∧ ∀ k v, t'.lookup k = some v → t.lookup k = some v)
    ⟨hI, fun _ _ h => h⟩ (by
      rintro t' acc' k v hk hv ⟨hI', hsub⟩
      obtain ⟨w, hw, hexp⟩ := isExpired_of_mem_doomed hk
      have hvw : v = w := Option.some.inj ((hsub k v hv).symm.trans hw)
      subst hvw
      exact ⟨hstep t' acc' k v hv hexp hI',
        fun k' v' h' => hsub k' v' (Table.lookup_erase_eq_some.mp h').2⟩)
  exact hboth.1

theorem size_sweep_le : (sweep b isExpired onExpired t cursor acc).1.size ≤ t.size :=
  sweep_induction b isExpired onExpired t cursor acc (I := fun t' _ => t'.size ≤ t.size)
    (Nat.le_refl _)
    fun t' _ k _ _ _ h => Nat.le_trans (Table.size_erase_le t' k) h

variable (onExpired) in
/-- What the callback brings about for one removed value, and no other call of it undoes, holds
after the removal. -/
theorem removeAll_of_mem (Q : A → Prop) {k : K} {v : V} (hv : ∀ acc, Q (onExpired v acc))
    (hkeep : ∀ v' acc, Q acc → Q (onExpired v' acc)) {ks : List K} (hk : k ∈ ks)
    (h : t.lookup k = some v) : Q (removeAll onExpired ks t acc).2 := by
  have hrest : ∀ ks (t : Table K V) acc, Q acc → Q (removeAll onExpired ks t acc).2 :=
    fun ks t acc hQ => removeAll_induction onExpired t acc ks (I := fun _ acc => Q acc) hQ
      fun _ _ _ _ _ _ hacc => hkeep _ _ hacc
  induction ks generalizing t acc with
  | nil => cases hk
  | cons k' ks ih =>
    unfold removeAll
    by_cases heq : k = k'
    · subst heq
      rw [h]
      exact hrest _ _ _ (hv acc)
    · have hks : k ∈ ks := (List.mem_cons.mp hk).resolve_left heq
      split
      · refine ih hks ?_
        rw [Table.lookup_erase', if_neg heq, h]
      · exact ih hks h

/-! ## Consecutive sweeps -/

omit [DecidableEq K] in
/-- Eleven slices are at least as long as the table. -/
theorem count_le_slices (b : Buckets K) : b.count ≤ 11 * quota b := by
  unfold quota
  omega

omit [DecidableEq K] in
/-- How far the bucket of a key lies ahead of the cursor. -/
theorem exists_ahead (b : Buckets K) (cursor : Nat) (k : K) :
    ∃ d < b.count, (b.index k).val = (cursor + d) % b.count := by
  have hbucket := (b.index k).isLt
  have hcursor := Nat.mod_lt cursor b.count_pos
  by_cases hle : cursor % b.count ≤ (b.index k).val
  · refine ⟨(b.index k).val - cursor % b.count, by omega, ?_⟩
    rw [← Nat.mod_add_mod, Nat.add_sub_cancel' hle, Nat.mod_eq_of_lt hbucket]
  · refine ⟨(b.index k).val + b.count - cursor % b.count, by omega, ?_⟩
    rw [← Nat.mod_add_mod, Nat.add_sub_cancel' (by omega), Nat.add_mod_right,
      Nat.mod_eq_of_lt hbucket]

section Machine

variable {S E O : Type} {step : S → E → S × O} {table : S → Table K V} {cursorOf : S → Nat}
  {sweeps : E → Option (V → Bool)}

variable (hsweep : ∀ s e test, sweeps e = some test →
    (∀ k, (table (step s e).1).lookup k =
      if k ∈ doomed b test (table s) (cursorOf s) then none else (table s).lookup k) ∧
    cursorOf (step s e).1 = (cursorOf s + quota b) % b.count)
  (hother : ∀ s e, sweeps e = none → cursorOf (step s e).1 = cursorOf s)

include hsweep hother

/-- An entry whose bucket lies `d` ahead is collected before the sweeps have moved the cursor
past it, if no other event touches it. -/
theorem swept_before {s : S} {es : List E} {k : K} {v : V} (hv : (table s).lookup k = some v)
    (hexpired : ∀ e ∈ es, ∀ test, sweeps e = some test → test v = true)
    (halone : Machine.Along step (fun s e => sweeps e = none → (table s).lookup k = some v →
      (table (step s e).1).lookup k = some v) s es)
    {d : Nat} (hd : d < b.count) (hbucket : (b.index k).val = (cursorOf s + d) % b.count)
    (hsweeps : d < es.countP (fun e => (sweeps e).isSome) * quota b) :
    ∃ es₁ e es₂ test, es = es₁ ++ e :: es₂ ∧ sweeps e = some test ∧
      (∀ es', es' <+: es₁ → (table (Machine.exec step s es')).lookup k = some v) ∧
      k ∈ doomed b test (table (Machine.exec step s es₁)) (cursorOf (Machine.exec step s es₁)) := by
  induction es generalizing s d with
  | nil => simp at hsweeps
  | cons e es ih =>
    have hlater : ∀ e' ∈ es, ∀ test, sweeps e' = some test → test v = true :=
      fun e' he' => hexpired e' (List.mem_cons_of_mem _ he')
    -- the event leaves the entry, and the rest of the run collects it
    have hnext : ∀ d', (table (step s e).1).lookup k = some v → d' < b.count →
        (b.index k).val = (cursorOf (step s e).1 + d') % b.count →
        d' < es.countP (fun e => (sweeps e).isSome) * quota b →
        ∃ es₁ e' es₂ test, e :: es = es₁ ++ e' :: es₂ ∧ sweeps e' = some test ∧
          (∀ es', es' <+: es₁ → (table (Machine.exec step s es')).lookup k = some v) ∧
          k ∈ doomed b test (table (Machine.exec step s es₁))
            (cursorOf (Machine.exec step s es₁)) := by
      intro d' hstays hd' hbucket' hsweeps'
      obtain ⟨es₁, e', es₂, test, rfl, htest, hprefix, hdoomed⟩ :=
        ih hstays hlater halone.2 hd' hbucket' hsweeps'
      refine ⟨e :: es₁, e', es₂, test, rfl, htest, fun es' hes' => ?_, hdoomed⟩
      cases es' with
      | nil => exact hv
      | cons x es' =>
        obtain ⟨rfl, htail⟩ := List.cons_prefix_cons.mp hes'
        exact hprefix es' htail
    cases hs : sweeps e with
    | none =>
      refine hnext d (halone.1 hs hv) hd (by rw [hother s e hs]; exact hbucket) ?_
      simpa [hs] using hsweeps
    | some test =>
      obtain ⟨hlookup, hcursor⟩ := hsweep s e test hs
      by_cases hdoomed : k ∈ doomed b test (table s) (cursorOf s)
      · refine ⟨[], e, es, test, rfl, hs, fun es' hes' => ?_, hdoomed⟩
        rw [List.prefix_nil.mp hes']
        exact hv
      · have hbehind : quota b ≤ d := by
          by_contra hlt
          refine hdoomed ((mem_doomed_iff hv).mpr ⟨hexpired e List.mem_cons_self test hs, d, ?_, hbucket⟩)
          exact Nat.lt_min.mpr ⟨not_le.mp hlt, hd⟩
        refine hnext (d - quota b) ?_ (by omega) ?_ ?_
        · rw [hlookup, if_neg hdoomed, hv]
        · rw [hcursor, Nat.mod_add_mod, Nat.add_assoc, Nat.add_sub_cancel' hbehind, hbucket]
        · rw [List.countP_cons_of_pos (by simp [hs]), Nat.succ_mul] at hsweeps
          omega

variable (b step table cursorOf sweeps) in
/-- **An expired entry that is left alone is collected by one of the next eleven sweeps.** -/
theorem swept_within {s : S} {es : List E} {k : K} {v : V} (hv : (table s).lookup k = some v)
    (hexpired : ∀ e ∈ es, ∀ test, sweeps e = some test → test v = true)
    (halone : Machine.Along step (fun s e => sweeps e = none → (table s).lookup k = some v →
      (table (step s e).1).lookup k = some v) s es)
    (hsweeps : es.countP (fun e => (sweeps e).isSome) = 11) :
    ∃ es₁ e es₂ test, es = es₁ ++ e :: es₂ ∧ sweeps e = some test ∧
      (∀ es', es' <+: es₁ → (table (Machine.exec step s es')).lookup k = some v) ∧
      k ∈ doomed b test (table (Machine.exec step s es₁)) (cursorOf (Machine.exec step s es₁)) := by
  obtain ⟨d, hd, hbucket⟩ := exists_ahead b (cursorOf s) k
  refine swept_before hsweep hother hv hexpired halone hd hbucket ?_
  rw [hsweeps]
  exact Nat.lt_of_lt_of_le hd (count_le_slices b)

end Machine

end BucketSweep

end Library
