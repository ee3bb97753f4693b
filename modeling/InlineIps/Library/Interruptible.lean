import Mathlib.Data.List.Basic
import Mathlib.Data.Stream.Init
import Mathlib.Tactic.Common

/-!
# Programs that can be killed

A program runs commands on a machine of states `S`. It is given a list of outcomes, one for
each command that it still gets to run: a command succeeds, as the machine says, or fails
without an effect. When the list is used up the program is killed before its next command.
So the lists stand for all failures and for all points at which the program can be killed.

* `Keeps`: the rules for an invariant that also holds wherever the program is killed.
* `Completes`: the rules for what a program does when all its commands succeed.
* `Built`: what holds of every program of some commands. It uses up a first part of the
  outcomes (`Regular`), and however its commands go it ends after finitely many (`Returns`).
-/

namespace Library

/-- How a command goes: as the machine says, or with a status that is not 0. -/
inductive Outcome where
  | succeeds
  | fails (status : Int) (hne : status ≠ 0)

/-- How a run of a program ends. -/
inductive Stopped (S A : Type) where
  | killed (s : S)
  | returned (a : A) (rest : List Outcome) (s : S)

def Stopped.state {S A : Type} : Stopped S A → S
  | .killed s => s
  | .returned _ _ s => s

def Interruptible (S A : Type) : Type := List Outcome → S → Stopped S A

namespace Interruptible

variable {S A B : Type}

instance : Monad (Interruptible S) where
  pure a := fun outcomes s => .returned a outcomes s
  bind p f := fun outcomes s =>
    match p outcomes s with
    | .killed s => .killed s
    | .returned a rest s => f a rest s

/-- One command of the machine, which returns its status. -/
def command (run : S → Int × S) : Interruptible S Int
  | [], s => .killed s
  | .succeeds :: rest, s => .returned (run s).1 rest (run s).2
  | .fails status _ :: rest, s => .returned status rest s

/-- A command that only asks. Where it fails, its status is none of the answers 0 and 1. -/
def query (ask : S → Int) : Interruptible S Int
  | [], s => .killed s
  | .succeeds :: rest, s => .returned (ask s) rest s
  | .fails status _ :: rest, s => .returned (if status = 1 then -1 else status) rest s

/-- At most `n` rounds. -/
def rounds (round : Interruptible S (Option A)) : Nat → Interruptible S A
  | 0, _, s => .killed s
  | n + 1, outcomes, s =>
    match round outcomes s with
    | .killed s => .killed s
    | .returned (some a) rest s => .returned a rest s
    | .returned none rest s => rounds round n rest s

/-- Rounds until one of them gives a result. When each runs a command, there are never more
rounds than outcomes. -/
def loop (round : Interruptible S (Option A)) : Interruptible S A := fun outcomes s =>
  rounds round (outcomes.length + 1) outcomes s

theorem bind_run (p : Interruptible S A) (f : A → Interruptible S B) (outcomes : List Outcome)
    (s : S) :
    (p >>= f) outcomes s =
      match p outcomes s with
      | .killed s => .killed s
      | .returned a rest s => f a rest s := rfl

instance : LawfulMonad (Interruptible S) := LawfulMonad.mk' _
  (fun p => by
    funext outcomes s
    show (p >>= pure) outcomes s = p outcomes s
    rw [bind_run]
    cases p outcomes s <;> rfl)
  (fun _ _ => rfl)
  (fun p f g => by
    funext outcomes s
    rw [bind_run, bind_run, bind_run]
    cases p outcomes s <;> rfl)

theorem bind_returned {p : Interruptible S A} {outcomes rest : List Outcome} {s s' : S} {a : A}
    (h : p outcomes s = .returned a rest s') (f : A → Interruptible S B) :
    (p >>= f) outcomes s = f a rest s' := by
  rw [bind_run, h]

theorem bind_killed {p : Interruptible S A} {outcomes : List Outcome} {s s' : S}
    (h : p outcomes s = .killed s') (f : A → Interruptible S B) :
    (p >>= f) outcomes s = .killed s' := by
  rw [bind_run, h]

theorem state_bind_pure {p : Interruptible S A} {f : A → Interruptible S B}
    (hf : ∀ a, ∃ b, f a = pure b) (outcomes : List Outcome) (s : S) :
    ((p >>= f) outcomes s).state = (p outcomes s).state := by
  rw [bind_run]
  cases p outcomes s with
  | killed s' => rfl
  | returned a rest s' =>
    obtain ⟨b, hb⟩ := hf a
    show (f a rest s').state = s'
    rw [hb]
    rfl

theorem returned_bind {p : Interruptible S A} {f : A → Interruptible S B}
    {outcomes rest : List Outcome} {s s' : S} {b : B}
    (h : (p >>= f) outcomes s = .returned b rest s') :
    ∃ a middle s₁, p outcomes s = .returned a middle s₁ ∧ f a middle s₁ = .returned b rest s' := by
  rw [bind_run] at h
  cases hrun : p outcomes s with
  | killed s₁ =>
    rw [hrun] at h
    cases h
  | returned a middle s₁ =>
    rw [hrun] at h
    exact ⟨a, middle, s₁, rfl, h⟩

theorem command_returned {run : S → Int × S} {outcomes rest : List Outcome} {s s' : S}
    {status : Int} (h : command run outcomes s = .returned status rest s') :
    run s = (status, s') ∨ status ≠ 0 ∧ s' = s := by
  cases outcomes with
  | nil => cases h
  | cons outcome outcomes =>
    cases outcome with
    | succeeds =>
      cases h
      exact .inl rfl
    | fails status hne =>
      cases h
      exact .inr ⟨hne, rfl⟩

theorem query_returned {ask : S → Int} {outcomes rest : List Outcome} {s s' : S} {status : Int}
    (h : query ask outcomes s = .returned status rest s') :
    s' = s ∧ (status = ask s ∨ status ≠ 0 ∧ status ≠ 1) := by
  cases outcomes with
  | nil => cases h
  | cons outcome outcomes =>
    cases outcome with
    | succeeds =>
      cases h
      exact ⟨rfl, .inl rfl⟩
    | fails status hne =>
      cases h
      refine ⟨rfl, .inr ?_⟩
      split
      · decide
      · exact ⟨hne, ‹_›⟩

/-- A query leaves the state as it is. -/
theorem query_cases (ask : S → Int) (outcomes : List Outcome) (s : S) :
    query ask outcomes s = .killed s ∨
      ∃ status rest, query ask outcomes s = .returned status rest s := by
  rcases outcomes with _ | ⟨_ | _, rest⟩
  · exact .inl rfl
  · exact .inr ⟨_, rest, rfl⟩
  · exact .inr ⟨_, rest, rfl⟩

theorem query_fails (ask : S → Int) {status : Int} (hne : status ≠ 0) (rest : List Outcome)
    (s : S) :
    ∃ answer, answer ≠ 0 ∧ answer ≠ 1 ∧
      query ask (.fails status hne :: rest) s = .returned answer rest s := by
  refine ⟨if status = 1 then -1 else status, ?_, ?_, rfl⟩
  · split
    · decide
    · exact hne
  · split
    · decide
    · assumption

/-! ## Invariants -/

/-- `I` holds at the end of the program and wherever it is killed. -/
def Keeps (I : S → Prop) (p : Interruptible S A) : Prop :=
  ∀ outcomes s, I s → I (p outcomes s).state

section Keeps

variable {I : S → Prop} {p : Interruptible S A} {f : A → Interruptible S B}

theorem Keeps.returned (h : Keeps I p) {outcomes rest : List Outcome} {s s' : S} {a : A} (hs : I s)
    (hrun : p outcomes s = .returned a rest s') : I s' := by
  have hlast := h outcomes s hs
  rw [hrun] at hlast
  exact hlast

theorem keeps_pure (a : A) : Keeps I (pure a : Interruptible S A) := fun _ _ hs => hs

theorem keeps_bind (hp : Keeps I p) (hf : ∀ a, Keeps I (f a)) : Keeps I (p >>= f) := by
  intro outcomes s hs
  have hmiddle := hp outcomes s hs
  rw [bind_run]
  cases hrun : p outcomes s with
  | killed s' =>
    rw [hrun] at hmiddle
    exact hmiddle
  | returned a rest s' =>
    rw [hrun] at hmiddle
    exact hf a rest s' hmiddle

theorem keeps_command {run : S → Int × S} (h : ∀ s, I s → I (run s).2) :
    Keeps I (command run) := by
  intro outcomes s hs
  cases outcomes with
  | nil => exact hs
  | cons outcome rest =>
    cases outcome with
    | succeeds => exact h s hs
    | fails status hne => exact hs

theorem keeps_query (ask : S → Int) : Keeps I (query ask) := by
  intro outcomes s hs
  cases outcomes with
  | nil => exact hs
  | cons outcome rest => cases outcome <;> exact hs

theorem keeps_loop {round : Interruptible S (Option A)} (h : Keeps I round) :
    Keeps I (loop round) := by
  intro outcomes s hs
  unfold loop
  generalize outcomes.length + 1 = n
  induction n generalizing outcomes s with
  | zero => exact hs
  | succ n ih =>
    have hmiddle := h outcomes s hs
    unfold rounds
    split
    · rename_i hrun
      rw [hrun] at hmiddle
      exact hmiddle
    · rename_i hrun
      rw [hrun] at hmiddle
      exact hmiddle
    · rename_i rest s' hrun
      rw [hrun] at hmiddle
      exact ih rest s' hmiddle

end Keeps

/-! ## The rounds of a loop -/

/-- The program runs at least `n` commands before it returns. -/
def Spends (n : Nat) (p : Interruptible S A) : Prop :=
  ∀ outcomes s a rest s', p outcomes s = .returned a rest s' → rest.length + n ≤ outcomes.length

theorem spends_pure (a : A) : Spends 0 (pure a : Interruptible S A) := by
  rintro outcomes s _ _ _ ⟨⟩
  exact Nat.le_refl _

theorem spends_command (run : S → Int × S) : Spends 1 (command run) := by
  intro outcomes s a rest s' hrun
  cases outcomes with
  | nil => cases hrun
  | cons outcome outcomes => cases outcome <;> cases hrun <;> exact Nat.le_refl _

theorem spends_query (ask : S → Int) : Spends 1 (query ask) := by
  intro outcomes s a rest s' hrun
  cases outcomes with
  | nil => cases hrun
  | cons outcome outcomes => cases outcome <;> cases hrun <;> exact Nat.le_refl _

theorem spends_bind {m n : Nat} {p : Interruptible S A} {f : A → Interruptible S B}
    (hp : Spends m p) (hf : ∀ a, Spends n (f a)) : Spends (m + n) (p >>= f) := by
  intro outcomes s b rest s' hrun
  rw [bind_run] at hrun
  cases hmiddle : p outcomes s with
  | killed s₁ =>
    rw [hmiddle] at hrun
    cases hrun
  | returned a rest₁ s₁ =>
    rw [hmiddle] at hrun
    have hfirst := hp outcomes s a rest₁ s₁ hmiddle
    have hsecond := hf a rest₁ s₁ b rest s' hrun
    omega

theorem Spends.mono {m n : Nat} {p : Interruptible S A} (h : Spends n p) (hmn : m ≤ n) :
    Spends m p := fun outcomes s a rest s' hrun =>
  Nat.le_trans (Nat.add_le_add_left hmn _) (h outcomes s a rest s' hrun)

/-- More rounds than outcomes make no difference. -/
theorem rounds_eq {round : Interruptible S (Option A)} (h : Spends 1 round) {m n : Nat}
    {outcomes : List Outcome} (hm : outcomes.length < m) (hn : outcomes.length < n) (s : S) :
    rounds round m outcomes s = rounds round n outcomes s := by
  induction m generalizing n outcomes s with
  | zero => exact absurd hm (Nat.not_lt_zero _)
  | succ m ih =>
    cases n with
    | zero => exact absurd hn (Nat.not_lt_zero _)
    | succ n =>
      unfold rounds
      cases hrun : round outcomes s with
      | killed s' => rfl
      | returned a rest s' =>
        have hless := h outcomes s a rest s' hrun
        cases a with
        | some a => rfl
        | none => exact ih (by omega) (by omega) s'

theorem loop_eq {round : Interruptible S (Option A)} (h : Spends 1 round)
    (outcomes : List Outcome) (s : S) :
    loop round outcomes s =
      match round outcomes s with
      | .killed s => .killed s
      | .returned (some a) rest s => .returned a rest s
      | .returned none rest s => loop round rest s := by
  show rounds round (outcomes.length + 1) outcomes s = _
  unfold rounds
  cases hrun : round outcomes s with
  | killed s' => rfl
  | returned a rest s' =>
    have hless := h outcomes s a rest s' hrun
    cases a with
    | some a => rfl
    | none => exact rounds_eq h (by omega) (Nat.lt_succ_self _) s'

/-! ## Programs of some commands -/

/-- A program of one command: it is killed before it, or uses its outcome. -/
structure Atomic (p : Interruptible S A) : Prop where
  killed : ∀ s, p [] s = .killed s
  returned : ∀ outcome s, ∃ a s', ∀ rest, p (outcome :: rest) s = .returned a rest s'

theorem atomic_command (run : S → Int × S) : Atomic (command run) where
  killed _ := rfl
  returned outcome s := by
    cases outcome with
    | succeeds => exact ⟨(run s).1, (run s).2, fun _ => rfl⟩
    | fails status hne => exact ⟨status, s, fun _ => rfl⟩

theorem atomic_query (ask : S → Int) : Atomic (query ask) where
  killed _ := rfl
  returned outcome s := by
    cases outcome with
    | succeeds => exact ⟨ask s, s, fun _ => rfl⟩
    | fails status hne => exact ⟨if status = 1 then -1 else status, s, fun _ => rfl⟩

/-- The program looks at no outcome but those that it uses. -/
def Regular (p : Interruptible S A) : Prop :=
  ∀ outcomes s a rest s', p outcomes s = .returned a rest s' →
    ∃ used, outcomes = used ++ rest ∧ ∀ more, p (used ++ more) s = .returned a more s'

/-- The program ends after finitely many commands. -/
def Returns (p : Interruptible S A) : Prop :=
  ∀ (outcomes : Stream' Outcome) s, ∃ n a s', ∀ rest,
    p (outcomes.take n ++ rest) s = .returned a rest s'

/-- What holds where the program is killed still holds when it is killed later. -/
def Stays (I : S → Prop) (p : Interruptible S A) : Prop :=
  ∀ outcomes more s, I (p outcomes s).state → I (p (outcomes ++ more) s).state

/-- A program of commands that satisfy `K`. Every loop of it runs out of rounds. -/
inductive Built {C : Type} (run : C → Interruptible S Int) (K : C → Prop) :
    ∀ {A : Type}, Interruptible S A → Prop
  | pure {A : Type} (a : A) : Built run K (pure a : Interruptible S A)
  | command {c : C} (hc : K c) : Built run K (run c)
  | bind {A B : Type} {p : Interruptible S A} {f : A → Interruptible S B} (hp : Built run K p)
      (hf : ∀ a, Built run K (f a)) : Built run K (p >>= f)
  | loop {A : Type} {round : Interruptible S (Option A)} (hround : Built run K round)
      (hspends : Spends 1 round) (μ : S → Nat)
      (hless : ∀ outcomes s rest s', round outcomes s = .returned none rest s' → μ s' < μ s) :
      Built run K (loop round)

theorem take_add {T : Type} (m n : Nat) (xs : Stream' T) :
    xs.take (m + n) = xs.take m ++ (xs.drop m).take n := by
  induction m generalizing xs with
  | zero => simp
  | succ m ih =>
    rw [Nat.add_right_comm, Stream'.take_succ, Stream'.take_succ, ih, List.cons_append,
      Stream'.drop_succ]

section Regular

variable {p : Interruptible S A} {f : A → Interruptible S B}

theorem Atomic.regular (h : Atomic p) : Regular p := by
  intro outcomes s a rest s' hrun
  cases outcomes with
  | nil =>
    rw [h.killed] at hrun
    cases hrun
  | cons outcome outcomes =>
    obtain ⟨a₁, s₁, hreturned⟩ := h.returned outcome s
    rw [hreturned] at hrun
    cases hrun
    exact ⟨[outcome], rfl, hreturned⟩

theorem regular_pure (a : A) : Regular (pure a : Interruptible S A) := by
  rintro outcomes s _ _ _ ⟨⟩
  exact ⟨[], rfl, fun _ => rfl⟩

theorem regular_bind (hp : Regular p) (hf : ∀ a, Regular (f a)) : Regular (p >>= f) := by
  intro outcomes s b rest s' hrun
  obtain ⟨a, middle, s₁, hfirst, hsecond⟩ := returned_bind hrun
  obtain ⟨used, rfl, hused⟩ := hp outcomes s a middle s₁ hfirst
  obtain ⟨used', rfl, hused'⟩ := hf a middle s₁ b rest s' hsecond
  refine ⟨used ++ used', by rw [List.append_assoc], fun more => ?_⟩
  rw [List.append_assoc, bind_run, hused]
  exact hused' more

theorem regular_loop {round : Interruptible S (Option A)} (hround : Regular round)
    (hspends : Spends 1 round) : Regular (loop round) := by
  intro outcomes
  -- each round shortens the list of outcomes
  induction hlength : outcomes.length using Nat.strong_induction_on generalizing outcomes with
  | _ n ih =>
    intro s a rest s' hrun
    rw [loop_eq hspends] at hrun
    cases hfirst : round outcomes s with
    | killed s₁ =>
      rw [hfirst] at hrun
      cases hrun
    | returned o middle s₁ =>
      obtain ⟨used, hsplit, hused⟩ := hround outcomes s o middle s₁ hfirst
      have hshorter := hspends outcomes s o middle s₁ hfirst
      rw [hfirst] at hrun
      cases o with
      | some a₁ =>
        cases hrun
        refine ⟨used, hsplit, fun more => ?_⟩
        rw [loop_eq hspends, hused]
      | none =>
        obtain ⟨used', hrest, hused'⟩ := ih middle.length (by omega) middle rfl s₁ a rest s' hrun
        refine ⟨used ++ used', by rw [hsplit, hrest, List.append_assoc], fun more => ?_⟩
        rw [List.append_assoc, loop_eq hspends, hused]
        exact hused' more

theorem Regular.append (hp : Regular p) {outcomes rest : List Outcome} {s s' : S} {a : A}
    (h : p outcomes s = .returned a rest s') (more : List Outcome) :
    p (outcomes ++ more) s = .returned a (rest ++ more) s' := by
  obtain ⟨used, rfl, hused⟩ := hp outcomes s a rest s' h
  rw [List.append_assoc]
  exact hused (rest ++ more)

end Regular

section Returns

variable {p : Interruptible S A} {f : A → Interruptible S B}

theorem Atomic.returns (h : Atomic p) : Returns p := by
  intro outcomes s
  obtain ⟨a, s', hreturned⟩ := h.returned outcomes.head s
  exact ⟨1, a, s', hreturned⟩

theorem returns_pure (a : A) : Returns (pure a : Interruptible S A) :=
  fun _ s => ⟨0, a, s, fun _ => rfl⟩

theorem returns_bind (hp : Returns p) (hf : ∀ a, Returns (f a)) : Returns (p >>= f) := by
  intro outcomes s
  obtain ⟨m, a, s₁, hfirst⟩ := hp outcomes s
  obtain ⟨n, b, s', hsecond⟩ := hf a (outcomes.drop m) s₁
  refine ⟨m + n, b, s', fun rest => ?_⟩
  rw [take_add, List.append_assoc, bind_run, hfirst]
  exact hsecond rest

/-- A loop ends when its rounds that are followed by another one lessen a measure. -/
theorem returns_loop {round : Interruptible S (Option A)} (hspends : Spends 1 round) (μ : S → Nat)
    (hless : ∀ outcomes s rest s', round outcomes s = .returned none rest s' → μ s' < μ s)
    (hround : Returns round) : Returns (loop round) := by
  intro outcomes s
  induction hμ : μ s using Nat.strong_induction_on generalizing outcomes s with
  | _ _ ih =>
    obtain ⟨m, o, s₁, hfirst⟩ := hround outcomes s
    cases o with
    | some a =>
      refine ⟨m, a, s₁, fun rest => ?_⟩
      rw [loop_eq hspends, hfirst]
    | none =>
      have hdecreases := hless _ s [] s₁ (hfirst [])
      obtain ⟨n, a, s', hloop⟩ := ih (μ s₁) (hμ ▸ hdecreases) (outcomes.drop m) s₁ rfl
      refine ⟨m + n, a, s', fun rest => ?_⟩
      rw [take_add, List.append_assoc, loop_eq hspends, hfirst]
      exact hloop rest

end Returns

section Stays

variable {I : S → Prop} {p : Interruptible S A} {f : A → Interruptible S B}

theorem stays_pure (a : A) : Stays I (pure a : Interruptible S A) := fun _ _ _ hs => hs

theorem Atomic.stays (h : Atomic p) (hkeeps : Keeps I p) : Stays I p := by
  intro outcomes more s hs
  cases outcomes with
  | nil =>
    rw [h.killed] at hs
    exact hkeeps more s hs
  | cons outcome outcomes =>
    obtain ⟨a, s', hreturned⟩ := h.returned outcome s
    rw [hreturned] at hs
    rw [List.cons_append, hreturned]
    exact hs

theorem stays_bind (hregular : Regular p) (hkeeps : ∀ a, Keeps I (f a)) (hp : Stays I p)
    (hf : ∀ a, Stays I (f a)) : Stays I (p >>= f) := by
  intro outcomes more s hs
  rw [bind_run] at hs ⊢
  cases hfirst : p outcomes s with
  | killed s₁ =>
    rw [hfirst] at hs
    have hlater := hp outcomes more s (by rw [hfirst]; exact hs)
    cases hsecond : p (outcomes ++ more) s with
    | killed s₂ =>
      rw [hsecond] at hlater
      exact hlater
    | returned a rest s₂ =>
      rw [hsecond] at hlater
      exact hkeeps a rest s₂ hlater
  | returned a rest s₁ =>
    rw [hfirst] at hs
    rw [hregular.append hfirst]
    exact hf a rest more s₁ hs

theorem stays_loop {round : Interruptible S (Option A)} (hregular : Regular round)
    (hspends : Spends 1 round) (hkeeps : Keeps I round) (hround : Stays I round) :
    Stays I (loop round) := by
  intro outcomes more s hs
  induction hlength : outcomes.length using Nat.strong_induction_on generalizing outcomes s with
  | _ n ih =>
    rw [loop_eq hspends] at hs ⊢
    cases hfirst : round outcomes s with
    | killed s₁ =>
      rw [hfirst] at hs
      have hlater := hround outcomes more s (by rw [hfirst]; exact hs)
      cases hsecond : round (outcomes ++ more) s with
      | killed s₂ =>
        rw [hsecond] at hlater
        exact hlater
      | returned o rest s₂ =>
        rw [hsecond] at hlater
        cases o with
        | some a => exact hlater
        | none => exact keeps_loop hkeeps rest s₂ hlater
    | returned o rest s₁ =>
      have hshorter := hspends outcomes s o rest s₁ hfirst
      rw [hfirst] at hs
      rw [hregular.append hfirst]
      cases o with
      | some a => exact hs
      | none => exact ih rest.length (by omega) rest s₁ hs rfl

end Stays

section Built

variable {C : Type} {run : C → Interruptible S Int} {K : C → Prop} {p : Interruptible S A}

theorem Built.mono {K' : C → Prop} (hK : ∀ c, K c → K' c) (h : Built run K p) : Built run K' p := by
  induction h with
  | pure a => exact .pure a
  | command hc => exact .command (hK _ hc)
  | bind _ _ hp hf => exact .bind hp hf
  | loop _ hspends μ hless hround => exact .loop hround hspends μ hless

theorem Built.keeps {I : S → Prop} (hrun : ∀ c, K c → Keeps I (run c)) (h : Built run K p) :
    Keeps I p := by
  induction h with
  | pure a => exact keeps_pure a
  | command hc => exact hrun _ hc
  | bind _ _ hp hf => exact keeps_bind hp hf
  | loop _ _ _ _ hround => exact keeps_loop hround

theorem Built.regular (hrun : ∀ c, Atomic (run c)) (h : Built run K p) : Regular p := by
  induction h with
  | pure a => exact regular_pure a
  | command _ => exact (hrun _).regular
  | bind _ _ hp hf => exact regular_bind hp hf
  | loop _ hspends _ _ hround => exact regular_loop hround hspends

/-- **However its commands go, the program ends.** -/
theorem Built.returns (hrun : ∀ c, Atomic (run c)) (h : Built run K p) : Returns p := by
  induction h with
  | pure a => exact returns_pure a
  | command _ => exact (hrun _).returns
  | bind _ _ hp hf => exact returns_bind hp hf
  | loop _ hspends μ hless hround => exact returns_loop hspends μ hless hround

theorem Built.stays {I : S → Prop} (hrun : ∀ c, Atomic (run c))
    (hkeeps : ∀ c, K c → Keeps I (run c)) (h : Built run K p) : Stays I p := by
  induction h with
  | pure a => exact stays_pure a
  | command hc => exact (hrun _).stays (hkeeps _ hc)
  | bind hpBuilt hfBuilt hp hf =>
    exact stays_bind (hpBuilt.regular hrun) (fun a => (hfBuilt a).keeps hkeeps) hp hf
  | loop hroundBuilt hspends _ _ hround =>
    exact stays_loop (hroundBuilt.regular hrun) hspends (hroundBuilt.keeps hkeeps) hround

end Built

/-! ## Runs in which all commands succeed -/

/-- With enough commands, all of which succeed, the program returns `a` in state `s'`. -/
def Completes (p : Interruptible S A) (s : S) (a : A) (s' : S) : Prop :=
  ∃ n, ∀ rest, p (List.replicate n .succeeds ++ rest) s = .returned a rest s'

/-- The same with the number of the commands. -/
def CompletesIn (n : Nat) (p : Interruptible S A) (s : S) (a : A) (s' : S) : Prop :=
  ∀ rest, p (List.replicate n .succeeds ++ rest) s = .returned a rest s'

/-- The program returns, and none of the outcomes that it uses is a failure. -/
def Flawless (p : Interruptible S A) (outcomes : List Outcome) (s : S) : Prop :=
  ∃ n a rest s', outcomes = List.replicate n .succeeds ++ rest ∧ p outcomes s = .returned a rest s'

section Completes

variable {p : Interruptible S A} {f : A → Interruptible S B} {a : A} {b : B} {s s₁ s₂ : S}
  {m n : Nat}

theorem completesIn_pure (a : A) (s : S) : CompletesIn 0 (pure a : Interruptible S A) s a s :=
  fun _ => rfl

theorem completesIn_command {run : S → Int × S} {status : Int} (h : run s = (status, s₁)) :
    CompletesIn 1 (command run) s status s₁ := by
  intro rest
  show Stopped.returned (run s).1 rest (run s).2 = _
  rw [h]

theorem completesIn_query (ask : S → Int) (s : S) : CompletesIn 1 (query ask) s (ask s) s :=
  fun _ => rfl

theorem CompletesIn.completes (h : CompletesIn n p s a s₁) : Completes p s a s₁ := ⟨n, h⟩

theorem CompletesIn.bind (hp : CompletesIn m p s a s₁) (hf : CompletesIn n (f a) s₁ b s₂) :
    CompletesIn (m + n) (p >>= f) s b s₂ := by
  intro rest
  rw [List.replicate_add, List.append_assoc, bind_run, hp]
  exact hf rest

theorem CompletesIn.loop_some {round : Interruptible S (Option A)} (hround : Spends 1 round)
    (h : CompletesIn n round s (some a) s₁) : CompletesIn n (loop round) s a s₁ := by
  intro rest
  rw [loop_eq hround, h]

theorem CompletesIn.loop_none {round : Interruptible S (Option A)} (hround : Spends 1 round)
    (h : CompletesIn m round s none s₁) (hloop : CompletesIn n (loop round) s₁ a s₂) :
    CompletesIn (m + n) (loop round) s a s₂ := by
  intro rest
  rw [List.replicate_add, List.append_assoc, loop_eq hround, h]
  exact hloop rest

theorem completes_pure (a : A) (s : S) : Completes (pure a : Interruptible S A) s a s :=
  (completesIn_pure a s).completes

theorem Completes.bind (hp : Completes p s a s₁) (hf : Completes (f a) s₁ b s₂) :
    Completes (p >>= f) s b s₂ := by
  obtain ⟨m, hm⟩ := hp
  obtain ⟨n, hn⟩ := hf
  exact ⟨m + n, CompletesIn.bind hm hn⟩

/-- What a program does when all its commands succeed is determined. -/
theorem Completes.unique {a' : A} (h : Completes p s a s₁) (h' : Completes p s a' s₂) :
    a = a' ∧ s₁ = s₂ := by
  obtain ⟨m, hm⟩ := h
  obtain ⟨n, hn⟩ := h'
  have hboth := hm (List.replicate n .succeeds)
  rw [← List.replicate_add, Nat.add_comm, List.replicate_add, hn] at hboth
  injection hboth with ha _ hs
  exact ⟨ha.symm, hs.symm⟩

/-- A run without a failure is the run in which all commands succeed. -/
theorem Flawless.completes (hp : Regular p) {outcomes rest : List Outcome}
    (h : Flawless p outcomes s) (hrun : p outcomes s = .returned a rest s₁) :
    Completes p s a s₁ := by
  obtain ⟨n, a', rest', s', hsplit, hrun'⟩ := h
  rw [hrun] at hrun'
  cases hrun'
  obtain ⟨used, hused, hmore⟩ := hp outcomes s a rest s₁ hrun
  rw [hused] at hsplit
  have hsame := List.append_cancel_right hsplit
  rw [hsame] at hmore
  exact ⟨n, hmore⟩

end Completes

end Interruptible

end Library
