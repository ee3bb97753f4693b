import Mathlib.Data.List.Induction
import Mathlib.Order.Basic
import Mathlib.Tactic.Common

/-!
# Runs of a deterministic machine

A machine is a function `step` from a state and an event to the next state and an output.
`exec` is the state after a list of events, `trace` the list of steps taken: the state
before each event, the event, and its output.

Every event reads a clock some number of times (`reads`). A list of events is
`Chronological` from a starting time when all its readings, in order, never go back.

* `invariant_of_step`: what one step preserves, a whole run preserves. The invariant may
  speak of the clock, the state and the trace so far, and may use a condition `P` that
  every step of the run meets (`Along`).
* `exists_ghost`: what every step can choose, a whole run can choose.
* `mem_trace_iff`: a step of a run is reached by a run of its own.
-/

namespace Library.Machine

variable {S E O T : Type}

/-- One step: the state before it, the event and the output. -/
structure Taken (S E O : Type) where
  before : S
  event : E
  output : O

section Runs

variable (step : S → E → S × O)

/-- The state after a list of events. -/
def exec : S → List E → S
  | s, [] => s
  | s, e :: es => exec (step s e).1 es

/-- The steps taken from `s` on a list of events. -/
def trace : S → List E → List (Taken S E O)
  | _, [] => []
  | s, e :: es => ⟨s, e, (step s e).2⟩ :: trace (step s e).1 es

/-- Every event of the list meets `P` in the state before it. -/
def Along (P : S → E → Prop) : S → List E → Prop
  | _, [] => True
  | s, e :: es => P s e ∧ Along P (step s e).1 es

instance decidableAlong (P : S → E → Prop) [∀ s e, Decidable (P s e)] :
    ∀ (s : S) (es : List E), Decidable (Along step P s es)
  | _, [] => .isTrue trivial
  | s, e :: es =>
    have := decidableAlong P (step s e).1 es
    inferInstanceAs (Decidable (P s e ∧ Along step P (step s e).1 es))

variable {step}

@[simp] theorem exec_nil (s : S) : exec step s [] = s := rfl

@[simp] theorem exec_cons (s : S) (e : E) (es : List E) :
    exec step s (e :: es) = exec step (step s e).1 es := rfl

@[simp] theorem trace_nil (s : S) : trace step s [] = [] := rfl

@[simp] theorem trace_cons (s : S) (e : E) (es : List E) :
    trace step s (e :: es) = ⟨s, e, (step s e).2⟩ :: trace step (step s e).1 es := rfl

theorem exec_append (s : S) (es es' : List E) :
    exec step s (es ++ es') = exec step (exec step s es) es' := by
  induction es generalizing s with
  | nil => rfl
  | cons e es ih => exact ih _

theorem trace_append (s : S) (es es' : List E) :
    trace step s (es ++ es') = trace step s es ++ trace step (exec step s es) es' := by
  induction es generalizing s with
  | nil => rfl
  | cons e es ih => simp [ih]

theorem length_trace (s : S) (es : List E) : (trace step s es).length = es.length := by
  induction es generalizing s with
  | nil => rfl
  | cons e es ih => simp [ih]

theorem trace_take (s : S) (es : List E) (n : Nat) :
    trace step s (es.take n) = (trace step s es).take n := by
  induction es generalizing s n with
  | nil => simp
  | cons e es ih =>
    cases n with
    | zero => rfl
    | succ n => simp [ih]

/-- The step at position `n` starts in the state behind the events before it. -/
theorem trace_getElem? (s : S) (es : List E) (n : Nat) :
    (trace step s es)[n]? = es[n]?.map fun e =>
      ⟨exec step s (es.take n), e, (step (exec step s (es.take n)) e).2⟩ := by
  induction es generalizing s n with
  | nil => simp
  | cons e es ih =>
    cases n with
    | zero => rfl
    | succ n => simp [ih]

theorem exec_take_succ {s : S} {es : List E} {n : Nat} {e : E} (he : es[n]? = some e) :
    exec step s (es.take (n + 1)) = (step (exec step s (es.take n)) e).1 := by
  rw [List.take_add_one, he, exec_append]
  rfl

theorem along_append {P : S → E → Prop} (s : S) (es es' : List E) :
    Along step P s (es ++ es') ↔ Along step P s es ∧ Along step P (exec step s es) es' := by
  induction es generalizing s with
  | nil => simp [Along]
  | cons e es ih => simp [Along, ih, and_assoc]

theorem along_mono {P Q : S → E → Prop} (h : ∀ s e, P s e → Q s e) {s : S} {es : List E}
    (hP : Along step P s es) : Along step Q s es := by
  induction es generalizing s with
  | nil => trivial
  | cons e es ih => exact ⟨h _ _ hP.1, ih hP.2⟩

theorem along_true (s : S) (es : List E) : Along step (fun _ _ => True) s es := by
  induction es generalizing s with
  | nil => trivial
  | cons e es ih => exact ⟨trivial, ih _⟩

/-- What an event alone decides. -/
theorem along_of_forall {P : S → E → Prop} {es : List E} (h : ∀ e ∈ es, ∀ s, P s e) (s : S) :
    Along step P s es := by
  induction es generalizing s with
  | nil => trivial
  | cons e es ih =>
    obtain ⟨hfirst, hrest⟩ := List.forall_mem_cons.mp h
    exact ⟨hfirst s, ih hrest _⟩

/-- A step of a run is the last step of an initial part of it. -/
theorem mem_trace_iff {s : S} {es : List E} {x : Taken S E O} :
    x ∈ trace step s es ↔ ∃ es₁ e es₂, es = es₁ ++ e :: es₂ ∧
      x = ⟨exec step s es₁, e, (step (exec step s es₁) e).2⟩ := by
  constructor
  · intro hx
    induction es generalizing s with
    | nil => simp at hx
    | cons e es ih =>
      rcases List.mem_cons.mp hx with rfl | hx
      · exact ⟨[], e, es, rfl, rfl⟩
      · obtain ⟨es₁, e', es₂, rfl, rfl⟩ := ih hx
        exact ⟨e :: es₁, e', es₂, rfl, rfl⟩
  · rintro ⟨es₁, e, es₂, rfl, rfl⟩
    rw [trace_append]
    exact List.mem_append_right _ List.mem_cons_self

end Runs

/-! ## Logs -/

/-- Every entry of a log satisfies `P` behind the entries before it. -/
def EachBehind {A : Type} (P : List A → A → Prop) (log : List A) : Prop :=
  ∀ before x after, log = before ++ x :: after → P before x

theorem eachBehind_nil {A : Type} (P : List A → A → Prop) : EachBehind P [] := by
  intro before x after h
  simp at h

theorem EachBehind.snoc {A : Type} {P : List A → A → Prop} {log : List A} (h : EachBehind P log)
    {x : A} (hx : P log x) : EachBehind P (log ++ [x]) := by
  intro before y after heq
  rcases List.eq_nil_or_concat after with rfl | ⟨after', z, rfl⟩
  · obtain ⟨rfl, hxy⟩ := List.append_inj' heq rfl
    cases hxy
    exact hx
  · have hsplit : log ++ [x] = (before ++ y :: after') ++ [z] := by simpa using heq
    obtain ⟨hlog, -⟩ := List.append_inj' hsplit rfl
    exact h before y after' hlog

theorem EachBehind.mono {A : Type} {P Q : List A → A → Prop} {log : List A}
    (h : EachBehind P log) (hPQ : ∀ before x, P before x → Q before x) : EachBehind Q log :=
  fun before x after heq => hPQ before x (h before x after heq)

/-- Every entry of the second list satisfies `P` behind the log and the entries before it. -/
def FollowOn {A : Type} (P : List A → A → Prop) : List A → List A → Prop
  | _, [] => True
  | log, x :: xs => P log x ∧ FollowOn P (log ++ [x]) xs

theorem EachBehind.append {A : Type} {P : List A → A → Prop} {log xs : List A}
    (h : EachBehind P log) (hxs : FollowOn P log xs) : EachBehind P (log ++ xs) := by
  induction xs generalizing log with
  | nil => simpa using h
  | cons x xs ih => simpa using ih (h.snoc hxs.1) hxs.2

/-! ## Counting -/

section Counting

variable {A : Type} (resets counts : A → Bool)

def countFrom : Nat → List A → Nat
  | n, [] => n
  | n, x :: xs => countFrom (if resets x then 0 else if counts x then n + 1 else n) xs

/-- How many entries of a log count since the last one that resets the count. -/
def countSince (log : List A) : Nat := countFrom resets counts 0 log

@[simp] theorem countFrom_nil (n : Nat) : countFrom resets counts n [] = n := rfl

@[simp] theorem countFrom_cons (n : Nat) (x : A) (xs : List A) :
    countFrom resets counts n (x :: xs) =
      countFrom resets counts (if resets x then 0 else if counts x then n + 1 else n) xs := rfl

theorem countFrom_append (n : Nat) (log xs : List A) :
    countFrom resets counts n (log ++ xs) =
      countFrom resets counts (countFrom resets counts n log) xs := by
  induction log generalizing n with
  | nil => rfl
  | cons x log ih => exact ih _

@[simp] theorem countSince_nil : countSince resets counts [] = 0 := rfl

@[simp] theorem countSince_append (log xs : List A) :
    countSince resets counts (log ++ xs) = countFrom resets counts (countSince resets counts log) xs :=
  countFrom_append resets counts 0 log xs

variable {resets counts}

theorem countFrom_of_noReset {n : Nat} {xs : List A} (hno : ∀ x ∈ xs, resets x = false) :
    countFrom resets counts n xs = n + xs.countP counts := by
  induction xs generalizing n with
  | nil => rfl
  | cons x xs ih =>
    have hx := hno x List.mem_cons_self
    rw [countFrom_cons, ih fun y hy => hno y (List.mem_cons_of_mem _ hy), List.countP_cons, hx]
    cases counts x <;> simp
    omega

/-- **When every entry that counts finds fewer than `n` before it, no part of the log without a
reset counts more than `n`.** -/
theorem countP_le_of_eachBehind {n : Nat} {log : List A}
    (h : EachBehind (fun before x => counts x = true → countSince resets counts before < n) log)
    {before xs after : List A} (hlog : log = before ++ xs ++ after)
    (hno : ∀ x ∈ xs, resets x = false) : xs.countP counts ≤ n := by
  induction xs using List.reverseRecOn generalizing after with
  | nil => simp
  | append_singleton xs x ih =>
    have hxs : ∀ y ∈ xs, resets y = false := fun y hy => hno y (List.mem_append_left _ hy)
    rw [List.countP_append, List.countP_singleton]
    cases hx : counts x with
    | false =>
      have hrest : log = before ++ xs ++ x :: after := by simp [hlog]
      simpa using ih hrest hxs
    | true =>
      have hbound := h (before ++ xs) x after (by simp [hlog]) hx
      rw [countSince_append, countFrom_of_noReset hxs] at hbound
      simp only [if_true]
      omega

end Counting

/-! ## Positions -/

section Positions

variable {A B : Type} (f : A → Option B)

/-- What `f` reads off the entries of a log, in order, with their positions. -/
def positionsOf (log : List A) : List (Nat × B) :=
  log.zipIdx.filterMap fun x => (f x.1).map (x.2, ·)

theorem positionsOf_snoc (log : List A) (x : A) :
    positionsOf f (log ++ [x]) = positionsOf f log ++ ((f x).map (log.length, ·)).toList := by
  simp only [positionsOf, List.zipIdx_append, List.zipIdx_singleton, List.filterMap_append,
    Nat.zero_add]
  congr 1

theorem positionsOf_sublist (log : List A) :
    ((positionsOf f log).map Prod.fst).Sublist (List.range log.length) := by
  induction log using List.reverseRecOn with
  | nil => exact List.Sublist.refl _
  | append_singleton log x ih =>
    rw [positionsOf_snoc, List.map_append, List.length_append, List.length_singleton,
      List.range_succ]
    refine ih.append ?_
    cases f x <;> simp

theorem positionsOf_nodup (log : List A) : ((positionsOf f log).map Prod.fst).Nodup :=
  List.nodup_range.sublist (positionsOf_sublist f log)

variable {f}

theorem mem_positionsOf {log : List A} {x : Nat × B} :
    x ∈ positionsOf f log ↔ ∃ a, log[x.1]? = some a ∧ f a = some x.2 := by
  unfold positionsOf
  rw [List.mem_filterMap]
  constructor
  · rintro ⟨⟨a, n⟩, ha, hx⟩
    obtain ⟨b, hb, rfl⟩ := Option.map_eq_some_iff.mp hx
    exact ⟨a, List.mem_zipIdx_iff_getElem?.mp ha, hb⟩
  · rintro ⟨a, ha, hb⟩
    exact ⟨(a, x.1), List.mem_zipIdx_iff_getElem?.mpr ha, by simp [hb]⟩

theorem position_lt {log : List A} {x : Nat × B} (hx : x ∈ positionsOf f log) :
    x.1 < log.length :=
  List.mem_range.mp ((positionsOf_sublist f log).subset (List.mem_map_of_mem hx))

end Positions

/-! ## Clock readings -/

section Clock

variable (reads : E → List T)

/-- No clock reading of the events goes back, starting from time `c`. -/
def Chronological [LE T] (c : T) (es : List E) : Prop :=
  (c :: es.flatMap reads).Pairwise (· ≤ ·)

instance [LE T] [DecidableLE T] (c : T) (es : List E) : Decidable (Chronological reads c es) :=
  inferInstanceAs (Decidable (List.Pairwise _ _))

/-- The last clock reading of the events, `c` when there is none. -/
def finish (c : T) (es : List E) : T := es.foldl (fun c e => (reads e).getLastD c) c

variable {reads}

@[simp] theorem finish_nil (c : T) : finish reads c [] = c := rfl

@[simp] theorem finish_cons (c : T) (e : E) (es : List E) :
    finish reads c (e :: es) = finish reads ((reads e).getLastD c) es := rfl

theorem le_getLastD [Preorder T] {c : T} {l : List T} (h : (c :: l).Pairwise (· ≤ ·)) :
    ∀ a ∈ c :: l, a ≤ l.getLastD c := by
  induction l generalizing c with
  | nil => simp
  | cons t l ih =>
    intro a ha
    rw [List.getLastD_cons]
    obtain ⟨hc, hl⟩ := List.pairwise_cons.mp h
    rcases List.mem_cons.mp ha with rfl | ha
    · exact hc _ List.getLastD_mem_cons
    · exact ih hl a ha

theorem finish_eq_getLastD (c : T) (es : List E) :
    finish reads c es = (es.flatMap reads).getLastD c := by
  induction es generalizing c with
  | nil => rfl
  | cons e es ih =>
    rw [finish_cons, ih, List.flatMap_cons]
    cases hes : es.flatMap reads with
    | nil => simp
    | cons t ts => simp [List.getLastD_eq_getLast?, List.getLast?_append]

theorem chronological_cons [Preorder T] {c : T} {e : E} {es : List E} :
    Chronological reads c (e :: es) ↔
      (c :: reads e).Pairwise (· ≤ ·) ∧ Chronological reads ((reads e).getLastD c) es := by
  have hlast : (reads e).getLastD c ∈ c :: reads e := List.getLastD_mem_cons
  unfold Chronological
  rw [List.flatMap_cons, ← List.cons_append, List.pairwise_append,
    List.pairwise_cons (a := (reads e).getLastD c)]
  constructor
  · rintro ⟨hhead, hrest, hcross⟩
    exact ⟨hhead, hcross _ hlast, hrest⟩
  · rintro ⟨hhead, hle, hrest⟩
    exact ⟨hhead, hrest, fun a ha b hb => le_trans (le_getLastD hhead a ha) (hle b hb)⟩

theorem chronological_append [Preorder T] {c : T} {es es' : List E} :
    Chronological reads c (es ++ es') ↔
      Chronological reads c es ∧ Chronological reads (finish reads c es) es' := by
  induction es generalizing c with
  | nil => simp [Chronological]
  | cons e es ih =>
    rw [List.cons_append, chronological_cons, chronological_cons, ih, finish_cons, and_assoc]

end Clock

/-! ## Invariants of runs -/

/-- **What a step preserves, a run preserves.** The invariant relates the clock, the state
and the steps taken so far; every step meets `P` and reads the clock forwards. -/
theorem invariant_of_step [Preorder T] (step : S → E → S × O) (reads : E → List T)
    (P : S → E → Prop) (I : T → S → List (Taken S E O) → Prop)
    (hstep : ∀ c s h e, I c s h → P s e → (c :: reads e).Pairwise (· ≤ ·) →
      I ((reads e).getLastD c) (step s e).1 (h ++ [⟨s, e, (step s e).2⟩]))
    {c : T} {s : S} {h : List (Taken S E O)} {es : List E} (hI : I c s h)
    (hP : Along step P s es) (hc : Chronological reads c es) :
    I (finish reads c es) (exec step s es) (h ++ trace step s es) := by
  induction es generalizing c s h with
  | nil => simpa using hI
  | cons e es ih =>
    obtain ⟨hread, hrest⟩ := chronological_cons.mp hc
    have hnext := ih (hstep c s h e hI hP.1 hread) hP.2 hrest
    simpa using hnext

/-- The rule for an invariant of the state and the trace, when no clock is read. -/
theorem trace_invariant {step : S → E → S × O} (I : S → List (Taken S E O) → Prop)
    (hstep : ∀ s h e, I s h → I (step s e).1 (h ++ [⟨s, e, (step s e).2⟩])) {s : S}
    {h : List (Taken S E O)} {es : List E} (hI : I s h) :
    I (exec step s es) (h ++ trace step s es) := by
  induction es generalizing s h with
  | nil => simpa using hI
  | cons e es ih => simpa using ih (hstep s h e hI)

/-- The rule for an invariant of the state alone, when no clock is read. -/
theorem exec_invariant {step : S → E → S × O} {P : S → E → Prop} (I : S → Prop)
    (hstep : ∀ s e, I s → P s e → I (step s e).1) {s : S} {es : List E} (hI : I s)
    (hP : Along step P s es) : I (exec step s es) := by
  induction es generalizing s with
  | nil => exact hI
  | cons e es ih => exact ih (hstep s e hI hP.1) hP.2

/-- **What every step can choose, a run can choose.** A value beside the state is kept
through a run: each step gives it a successor that keeps the invariant and is related to it
by `R`, which sees the trace before the step and the step itself. -/
theorem exists_ghost {A : Type} {step : S → E → S × O} (I : S → List (Taken S E O) → A → Prop)
    (R : List (Taken S E O) → Taken S E O → A → A → Prop)
    (hstep : ∀ s h e a, I s h a → ∃ a', I (step s e).1 (h ++ [⟨s, e, (step s e).2⟩]) a' ∧
      R h ⟨s, e, (step s e).2⟩ a a') {s : S} {h : List (Taken S E O)} {a : A} (es : List E)
    (hI : I s h a) :
    ∃ f : Nat → A, f 0 = a ∧
      (∀ n, I (exec step s (es.take n)) (h ++ trace step s (es.take n)) (f n)) ∧
      ∀ n x, (trace step s es)[n]? = some x →
        R (h ++ (trace step s es).take n) x (f n) (f (n + 1)) := by
  induction es generalizing s h a with
  | nil => exact ⟨fun _ => a, rfl, fun n => by simpa using hI, fun n x hx => by simp at hx⟩
  | cons e es ih =>
    obtain ⟨a', hI', hR⟩ := hstep s h e a hI
    obtain ⟨f, hzero, hkeep, hnext⟩ := ih hI'
    refine ⟨fun n => n.casesOn a f, rfl, fun n => ?_, fun n x hx => ?_⟩
    · cases n with
      | zero =>
        show I s (h ++ []) a
        rwa [List.append_nil]
      | succ n => simpa using hkeep n
    · cases n with
      | zero =>
        cases hx
        show R (h ++ []) _ a (f 0)
        rwa [List.append_nil, hzero]
      | succ n => simpa using hnext n x (by simpa using hx)

end Library.Machine
