import InlineIps.Library.Interruptible

/-!
# Triples for programs that can be killed

`Ensures P p Q C`: a program that starts in a state of `P` returns its results in states of `Q`,
and is killed in states of `C` only. The rules follow the program. `zoom` runs a program of a part
of the state in the whole state.
-/

namespace Library

/-- The postcondition of a returned result, the crash condition of a killed program. -/
def Stopped.Meets {S A : Type} (Q : A → S → Prop) (C : S → Prop) : Stopped S A → Prop
  | .killed s => C s
  | .returned a _ s => Q a s

namespace Interruptible

variable {S T A B : Type}

def Ensures (P : S → Prop) (p : Interruptible S A) (Q : A → S → Prop) (C : S → Prop) : Prop :=
  ∀ outcomes s, P s → (p outcomes s).Meets Q C

section Ensures

variable {P P' : S → Prop} {p : Interruptible S A} {f : A → Interruptible S B}
  {Q Q' : A → S → Prop} {R : B → S → Prop} {C C' I : S → Prop}

theorem Ensures.returned (h : Ensures P p Q C) {outcomes rest : List Outcome} {s s' : S} {a : A}
    (hs : P s) (hrun : p outcomes s = .returned a rest s') : Q a s' := by
  have hmeets := h outcomes s hs
  rw [hrun] at hmeets
  exact hmeets

/-- What holds of the results and where the program is killed holds wherever it stops. -/
theorem Ensures.state (h : Ensures P p Q C) (hQ : ∀ a s, Q a s → I s) (hC : ∀ s, C s → I s)
    {s : S} (hs : P s) (outcomes : List Outcome) : I (p outcomes s).state := by
  have hmeets := h outcomes s hs
  cases hrun : p outcomes s with
  | killed s' =>
    rw [hrun] at hmeets
    exact hC s' hmeets
  | returned a rest s' =>
    rw [hrun] at hmeets
    exact hQ a s' hmeets

theorem Ensures.mono (h : Ensures P p Q C) (hP : ∀ s, P' s → P s) (hQ : ∀ a s, Q a s → Q' a s)
    (hC : ∀ s, C s → C' s) : Ensures P' p Q' C' := by
  intro outcomes s hs
  have hmeets := h outcomes s (hP s hs)
  cases hrun : p outcomes s with
  | killed s' =>
    rw [hrun] at hmeets
    exact hC s' hmeets
  | returned a rest s' =>
    rw [hrun] at hmeets
    exact hQ a s' hmeets

end Ensures

/-! ## Programs of a part of the state -/

section Zoom

variable (get : S → T) (set : T → S → S)

def zoom (p : Interruptible T A) : Interruptible S A := fun outcomes s =>
  match p outcomes (get s) with
  | .killed t => .killed (set t s)
  | .returned a rest t => .returned a rest (set t s)

variable {get set} {p : Interruptible T A}

end Zoom

end Interruptible

end Library
