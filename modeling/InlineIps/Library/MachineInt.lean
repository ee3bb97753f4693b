import Mathlib.Algebra.Ring.Int.Defs
import Mathlib.Data.Nat.Cast.Basic
import Mathlib.Tactic.Common

/-!
# Signed machine integers

Signed arithmetic has a result only where the exact one can be represented. A conversion to a
shorter type keeps the low bits.

* `checked_of_fits`, `isSome_checked`: there is a result where the exact one fits.
* `wrap_cases`: what a conversion makes of a number.
-/

namespace Library.MachineInt

/-- The number can be represented with the given number of bits. -/
def Fits (bits : Nat) (n : Int) : Prop := -2 ^ (bits - 1) ≤ n ∧ n < 2 ^ (bits - 1)

instance (bits : Nat) (n : Int) : Decidable (Fits bits n) := inferInstanceAs (Decidable (_ ∧ _))

/-- The result of a signed operation whose exact result is `n`. -/
def checked (bits : Nat) (n : Int) : Option Int := if Fits bits n then some n else none

/-- The conversion to a signed type of the given number of bits. -/
def wrap (bits : Nat) (n : Int) : Int := n.bmod (2 ^ bits)

variable {bits : Nat} {n : Int}

theorem checked_of_fits (h : Fits bits n) : checked bits n = some n := if_pos h

theorem isSome_checked : (checked bits n).isSome = true ↔ Fits bits n := by
  unfold checked
  split <;> simp [*]

theorem wrap_cases (bits : Nat) (n : Int) :
    n % 2 ^ (bits + 1) < 2 ^ bits ∧ wrap (bits + 1) n = n % 2 ^ (bits + 1) ∨
      2 ^ bits ≤ n % 2 ^ (bits + 1) ∧
        wrap (bits + 1) n = n % 2 ^ (bits + 1) - 2 ^ (bits + 1) := by
  have hcast : ((2 ^ (bits + 1) : Nat) : Int) = 2 ^ (bits + 1) := Nat.cast_pow 2 (bits + 1)
  have hhalf : (2 : Int) ^ (bits + 1) = 2 * 2 ^ bits := by rw [pow_succ, mul_comm]
  unfold wrap
  rw [Int.bmod_def, hcast, hhalf]
  generalize (2 : Int) ^ bits = half
  generalize n % (2 * half) = rest
  split
  · exact Or.inl ⟨by omega, rfl⟩
  · exact Or.inr ⟨by omega, rfl⟩

end Library.MachineInt
