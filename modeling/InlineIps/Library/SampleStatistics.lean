import Mathlib.Algebra.Order.BigOperators.Group.List
import Mathlib.Algebra.Order.Field.Basic
import Mathlib.Tactic.FieldSimp
import Mathlib.Tactic.Ring

/-!
# Statistics of samples

Mean and variance of a list of samples in an ordered field.

* `squares_sub`: the sum of the squares less the square of the sum over the number of samples
  is the sum of the squared deviations from the mean.
* `variance_nonneg`: a variance is not negative.
* `le_mean`, `mean_le`: the mean lies between the bounds of the samples.
-/

namespace Library.SampleStatistics

section Sums

variable {K : Type} [Field K]

def mean (samples : List K) : K := samples.sum / samples.length

/-- The squared deviations from the mean, summed up in a second pass. -/
def deviations (samples : List K) : K := (samples.map fun x => (x - mean samples) ^ 2).sum

/-- The sample variance. -/
def variance (samples : List K) : K := deviations samples / (samples.length - 1)

/-- The squared deviations from a point in terms of the two sums. -/
theorem deviations_from (m : K) (samples : List K) :
    (samples.map fun x => (x - m) ^ 2).sum =
      (samples.map fun x => x * x).sum - 2 * m * samples.sum + samples.length * m ^ 2 := by
  induction samples with
  | nil => simp
  | cons x samples ih =>
    rw [List.map_cons, List.sum_cons, ih, List.map_cons, List.sum_cons, List.sum_cons,
      List.length_cons]
    push_cast
    ring

end Sums

section Order

variable {K : Type} [Field K] [LinearOrder K] [IsStrictOrderedRing K] {samples : List K} {a b : K}

theorem length_pos (h : samples ≠ []) : (0 : K) < samples.length :=
  Nat.cast_pos.mpr (List.length_pos_of_ne_nil h)

theorem length_mul_mean (samples : List K) : samples.length * mean samples = samples.sum := by
  rcases eq_or_ne samples [] with rfl | hne
  · simp
  · exact mul_div_cancel₀ samples.sum (length_pos hne).ne'

/-- **One pass is enough for the deviations.** -/
theorem squares_sub (samples : List K) :
    (samples.map fun x => x * x).sum - samples.sum * samples.sum / samples.length =
      deviations samples := by
  rcases eq_or_ne samples [] with rfl | hne
  · simp [deviations]
  · have hlength : (samples.length : K) ≠ 0 := (length_pos hne).ne'
    rw [deviations, deviations_from, mean]
    field_simp
    ring

theorem deviations_nonneg (samples : List K) : 0 ≤ deviations samples := by
  apply List.sum_nonneg
  intro y hy
  obtain ⟨x, -, rfl⟩ := List.mem_map.mp hy
  exact sq_nonneg _

theorem variance_nonneg (h : samples ≠ []) : 0 ≤ variance samples := by
  have hone : (1 : K) ≤ samples.length := Nat.one_le_cast.mpr (List.length_pos_of_ne_nil h)
  exact div_nonneg (deviations_nonneg samples) (sub_nonneg.mpr hone)

theorem le_mean (hne : samples ≠ []) (h : ∀ x ∈ samples, a ≤ x) : a ≤ mean samples := by
  have hsum : samples.length • a ≤ samples.sum := List.card_nsmul_le_sum samples a h
  rw [nsmul_eq_mul] at hsum
  rw [mean, le_div_iff₀ (length_pos hne), mul_comm]
  exact hsum

theorem mean_le (hne : samples ≠ []) (h : ∀ x ∈ samples, x ≤ b) : mean samples ≤ b := by
  have hsum : samples.sum ≤ samples.length • b := List.sum_le_card_nsmul samples b h
  rw [nsmul_eq_mul] at hsum
  rw [mean, div_le_iff₀ (length_pos hne), mul_comm]
  exact hsum

end Order

end Library.SampleStatistics
