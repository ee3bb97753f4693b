import InlineIps.Library.Machine

/-!
# Ranked machines

A rank of the states, which no step raises and every step that counts lowers, bounds how many steps
of a run count.
-/

namespace Library.Machine

variable {S E O : Type}

/-- A rank of the states of an invariant. -/
structure Ranking (step : S → E → S × O) (counts : Taken S E O → Bool) where
  holds : S → Prop
  rank : S → Nat
  keeps : ∀ s e, holds s → holds (step s e).1
  falls : ∀ s e, holds s →
    rank (step s e).1 + (if counts ⟨s, e, (step s e).2⟩ then 1 else 0) ≤ rank s

namespace Ranking

variable {step : S → E → S × O} {counts : Taken S E O → Bool} {s : S}

theorem holds_exec (r : Ranking step counts) (hs : r.holds s) (es : List E) :
    r.holds (exec step s es) := by
  induction es generalizing s with
  | nil => exact hs
  | cons e es ih => exact ih (r.keeps s e hs)

/-- What is left of the rank, and the steps that have used it up. -/
theorem countP_add_rank_le (r : Ranking step counts) (hs : r.holds s) (es : List E) :
    (trace step s es).countP counts + r.rank (exec step s es) ≤ r.rank s := by
  induction es generalizing s with
  | nil => simp
  | cons e es ih =>
    have hstep := r.falls s e hs
    have hrest := ih (r.keeps s e hs)
    rw [trace_cons, List.countP_cons, exec_cons]
    omega

/-- **The rank bounds how many steps count.** -/
theorem countP_le (r : Ranking step counts) (hs : r.holds s) (es : List E) :
    (trace step s es).countP counts ≤ r.rank s :=
  Nat.le_of_add_right_le (r.countP_add_rank_le hs es)

end Ranking

end Library.Machine
