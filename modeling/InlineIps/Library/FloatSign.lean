import Mathlib

/-!
# Signs and finiteness in the model of floats

Packing a float into its bits, rounding and squaring never make it negative, in any format,
and sums and quotients of floats that are not negative are not negative either. The double
nearest to an integer of at most 64 bits is finite and has the integer's sign.
-/

open Float.Model (Format UnpackedFloat totalExponent)
open Float.Model.UnpackedFloat

namespace Library.FloatSign

variable {spec : Format}

/-- The float is below zero. -/
def Negative : UnpackedFloat → Prop
  | .infinity .negative => True
  | .finite .negative .. => True
  | _ => False

@[simp] theorem lt_zero_iff (f : UnpackedFloat) (s : Sign) :
    f.lt (.zero s) = true ↔ Negative f := by
  cases f with
  | notANumber => simp [UnpackedFloat.lt, UnpackedFloat.compare, Negative]
  | zero s' => simp [UnpackedFloat.lt, UnpackedFloat.compare, Negative]
  | infinity s' => cases s' <;> simp [UnpackedFloat.lt, UnpackedFloat.compare, Negative]
  | finite s' m e hm => cases s' <;> simp [UnpackedFloat.lt, UnpackedFloat.compare, Negative]

/-! ## Packing -/

/-- A packed positive sign is read back. -/
theorem not_negative_unpack_packComponents (e : BitVec spec.exponentBits)
    (m : BitVec spec.mantissaBitsWithoutImplicit) :
    ¬ Negative (unpack spec (packComponents spec .positive e m)) := by
  simp only [unpack, unpackMantissa_packComponents, unpackExponent_packComponents,
    unpackSign_packComponents, Sign.ofBitVec_toBitVec]
  split_ifs <;> exact id

/-- **Packing does not make a float negative.** -/
theorem not_negative_unpack_pack {f : UnpackedFloat} (hf : ¬ Negative f) :
    ¬ Negative (unpack spec (pack spec f)) := by
  cases f with
  | notANumber => exact not_negative_unpack_packComponents _ _
  | zero s =>
    rw [pack, unpack_packedZero]
    exact id
  | infinity s =>
    cases s with
    | negative => exact absurd trivial hf
    | positive => exact not_negative_unpack_packComponents _ _
  | finite s m e hm =>
    cases s with
    | negative => exact absurd trivial hf
    | positive =>
      simp only [pack]
      split_ifs <;> exact not_negative_unpack_packComponents _ _

/-- A finite float with a full mantissa whose exponent fits is read back as finite, with
its sign. -/
theorem unpack_pack_finite {s : Sign} {m : Nat} {e : Int} (hm : 0 < m)
    (hfull : m.log2 + 1 = spec.mantissaBits)
    (hlow : 0 < e + spec.exponentBias + spec.mantissaBitsWithoutImplicit)
    (hhigh : e + spec.exponentBias + spec.mantissaBitsWithoutImplicit + 1
      < (2 ^ spec.exponentBits : Nat)) :
    ∃ m' e' hm', unpack spec (pack spec (.finite s m e hm)) = .finite s m' e' hm' := by
  set biased := (e + spec.exponentBias + spec.mantissaBitsWithoutImplicit).toNat with hbiased
  have hfits : biased + 1 < 2 ^ spec.exponentBits := by omega
  have hpack : pack spec (.finite s m e hm)
      = packComponents spec s (BitVec.ofNat _ biased) (BitVec.ofNat _ m) := by
    rw [pack]
    simp only [← hbiased]
    rw [if_neg (by omega), if_pos hfull]
  have htoNat : (BitVec.ofNat spec.exponentBits biased).toNat = biased := by
    rw [BitVec.toNat_ofNat, Nat.mod_eq_of_lt (by omega)]
  have hnotAll : BitVec.ofNat spec.exponentBits biased ≠ -1#_ := by
    intro h
    have hbits := congrArg BitVec.toNat h
    rw [htoNat, BitVec.neg_one_eq_allOnes, BitVec.toNat_allOnes] at hbits
    omega
  have hnotZero : BitVec.ofNat spec.exponentBits biased ≠ 0#_ := by
    intro h
    have hbits := congrArg BitVec.toNat h
    rw [htoNat, BitVec.toNat_zero] at hbits
    omega
  rw [hpack]
  simp only [unpack, unpackMantissa_packComponents, unpackExponent_packComponents,
    unpackSign_packComponents, Sign.ofBitVec_toBitVec, if_neg hnotAll, if_neg hnotZero]
  exact ⟨_, _, by simp, rfl⟩

/-! ## Rounding and multiplication -/

theorem not_negative_roundWithAccuracy (m : Nat) (e : Int) (a : Accuracy) :
    ¬ Negative (roundWithAccuracy spec .positive m e a) := by
  simp only [roundWithAccuracy]
  split <;> exact id

theorem not_negative_round (m : Nat) (e : Int) :
    ¬ Negative (UnpackedFloat.round spec .positive m e) := by
  rw [UnpackedFloat.round]
  exact not_negative_roundWithAccuracy _ _ _

theorem not_negative_normalize {n : Int} (hn : 0 ≤ n) (e : Int) (s : Sign) :
    ¬ Negative (UnpackedFloat.normalize spec n e s) := by
  unfold UnpackedFloat.normalize
  rcases hn.lt_or_eq with hpos | rfl
  · rw [Int.compare_eq_gt.mpr hpos]
    exact not_negative_round _ _
  · rw [Int.compare_eq_eq.mpr rfl]
    exact id

/-- A sum of floats that are not negative is not negative. -/
theorem not_negative_add {f g : UnpackedFloat} (hf : ¬ Negative f) (hg : ¬ Negative g) :
    ¬ Negative (UnpackedFloat.add spec f g) := by
  unfold UnpackedFloat.add
  split
  · exact id
  · exact id
  · split
    · exact hf
    · exact id
  · exact hf
  · exact hg
  · split <;> exact id
  · exact hg
  · exact hf
  next s₁ m₁ e₁ _ s₂ m₂ e₂ _ =>
    cases s₁ with
    | negative => exact absurd trivial hf
    | positive =>
      cases s₂ with
      | negative => exact absurd trivial hg
      | positive =>
        refine not_negative_normalize ?_ _ _
        exact add_nonneg (Int.natCast_nonneg _) (Int.natCast_nonneg _)

/-- The divisor is positive and not zero. -/
theorem not_negative_div {f : UnpackedFloat} (hf : ¬ Negative f) (m : Nat) (e : Int)
    (hm : 0 < m) : ¬ Negative (UnpackedFloat.div spec f (.finite .positive m e hm)) := by
  cases f with
  | notANumber => exact id
  | zero s => exact id
  | infinity s =>
    cases s with
    | negative => exact absurd trivial hf
    | positive => exact id
  | finite s m' e' hm' =>
    cases s with
    | negative => exact absurd trivial hf
    | positive => exact not_negative_roundWithAccuracy _ _ _

/-- **A square is not negative.** -/
theorem not_negative_mul_self (f : UnpackedFloat) : ¬ Negative (UnpackedFloat.mul spec f f) := by
  cases f with
  | notANumber => exact id
  | zero s => exact id
  | infinity s => cases s <;> exact id
  | finite s m e hm => cases s <;> exact not_negative_roundWithAccuracy _ _ _

/-! ## Rounding a mantissa that is not too short -/

theorem mantissa_shiftRight (em : ExtendedMantissa) (k : Nat) :
    (em >>> k).mantissa = em.mantissa / 2 ^ k := by
  induction k with
  | zero => exact (Nat.div_one _).symm
  | succ k ih =>
    change (em >>> k).mantissa / 2 = _
    rw [ih, Nat.div_div_eq_div_mul, Nat.pow_succ]

theorem mantissa_ofMantissaAndAccuracy (m : Nat) (a : Accuracy) :
    (ExtendedMantissa.ofMantissaAndAccuracy m a).mantissa = m := by
  cases a with
  | exact => rfl
  | inexact o => cases o <;> rfl

theorem roundedMantissa_bounds (em : ExtendedMantissa) :
    em.mantissa ≤ em.roundedMantissa ∧ em.roundedMantissa ≤ em.mantissa + 1 := by
  obtain ⟨m, roundBit, stickyBit⟩ := em
  have hodd : m % 2 ≤ 1 := by omega
  cases roundBit <;> cases stickyBit <;>
    simp only [ExtendedMantissa.roundedMantissa, ExtendedMantissa.accuracy,
      Accuracy.roundToNearestEven] <;> omega

theorem log2_div_pow {m k : Nat} (hm : m ≠ 0) (hk : k ≤ m.log2) :
    (m / 2 ^ k).log2 = m.log2 - k := by
  have hpos : 0 < 2 ^ k := Nat.two_pow_pos k
  have hlow : 2 ^ (m.log2 - k) ≤ m / 2 ^ k := by
    rw [Nat.le_div_iff_mul_le hpos, ← Nat.pow_add, Nat.sub_add_cancel hk]
    exact Nat.log2_self_le hm
  have hhigh : m / 2 ^ k < 2 ^ (m.log2 - k + 1) := by
    rw [Nat.div_lt_iff_lt_mul hpos, ← Nat.pow_add]
    exact Nat.lt_log2_self.trans_le (Nat.pow_le_pow_right (by omega) (by omega))
  exact (Nat.log2_eq_iff (by have := Nat.two_pow_pos (m.log2 - k); omega)).mpr ⟨hlow, hhigh⟩

/-- Shifting a mantissa of at least 53 bits leaves one of exactly 53 bits. -/
theorem shiftToTargetExponent_full {m : Nat} {e : Int} (a : Accuracy) (hm : 52 ≤ m.log2)
    (he : -1074 ≤ m.log2 - 52 + e) :
    (shiftToTargetExponent .binary64 m e a).1.mantissa.log2 = 52 ∧
      (shiftToTargetExponent .binary64 m e a).2 = m.log2 - 52 + e := by
  have htarget : Format.targetExponent .binary64 (totalExponent m e) = m.log2 - 52 + e := by
    simp only [Format.targetExponent, totalExponent, Format.mantissaBits, Format.minExponent]
    norm_num
    omega
  have hshift : (m.log2 - 52 + e - e : Int).toNat = m.log2 - 52 := by omega
  simp only [shiftToTargetExponent, shiftToExponent, htarget, hshift, mantissa_shiftRight,
    mantissa_ofMantissaAndAccuracy]
  constructor
  · rw [log2_div_pow (by rintro rfl; simp at hm) (by omega)]
    omega
  · omega

/-- A mantissa of at least 53 bits rounds to one of exactly 53 bits, with its sign. -/
theorem roundWithAccuracy_full (s : Sign) {m : Nat} {e : Int} (hm : 52 ≤ m.log2)
    (he : -1074 ≤ m.log2 - 52 + e) :
    ∃ m' e' hm', roundWithAccuracy .binary64 s m e .exact = .finite s m' e' hm' ∧
      m'.log2 = 52 ∧ m.log2 - 52 + e ≤ e' ∧ e' ≤ m.log2 - 51 + e := by
  obtain ⟨hlog, hexp⟩ := shiftToTargetExponent_full .exact hm he
  simp only [roundWithAccuracy]
  generalize hfirst : shiftToTargetExponent .binary64 m e .exact = first at hlog hexp ⊢
  obtain ⟨em, e₁⟩ := first
  dsimp only at hlog hexp ⊢
  obtain ⟨hfloor, hceil⟩ := roundedMantissa_bounds em
  -- rounding may carry into a 54th bit; the second shift drops it again
  have hne : em.mantissa ≠ 0 := by
    intro h
    simp [h] at hlog
  obtain ⟨hlow, hhigh⟩ := (Nat.log2_eq_iff hne).mp hlog
  have hrounded : 52 ≤ em.roundedMantissa.log2 ∧ em.roundedMantissa.log2 ≤ 53 := by
    constructor
    · exact (Nat.le_log2 (by omega)).mpr (by omega)
    · exact Nat.lt_succ_iff.mp ((Nat.log2_lt (by omega)).mpr (by omega))
  obtain ⟨hlog₂, hexp₂⟩ := shiftToTargetExponent_full (e := e₁) .exact hrounded.1 (by omega)
  have hne₂ : (shiftToTargetExponent .binary64 em.roundedMantissa e₁ .exact).1.mantissa ≠ 0 := by
    intro h
    simp [h] at hlog₂
  rw [dif_neg hne₂]
  exact ⟨_, _, _, rfl, hlog₂, by omega, by omega⟩

/-! ## Doubles nearest to integers -/

/-- A positive integer rounds to a full mantissa, whatever its size. -/
theorem round_integer (s : Sign) {n : Nat} (hn : 0 < n) :
    ∃ m e hm, UnpackedFloat.round .binary64 s n 0 = .finite s m e hm ∧
      m.log2 = 52 ∧ -52 ≤ e ∧ e ≤ n.log2 - 51 := by
  have htarget : Format.targetExponent .binary64 (totalExponent n 0) = n.log2 - 52 := by
    simp only [Format.targetExponent, totalExponent, Format.mantissaBits, Format.minExponent]
    norm_num
    omega
  have hshift : (0 - (n.log2 - 52 : Int)).toNat = 52 - n.log2 := by omega
  have hlog : (n <<< (52 - n.log2)).log2 = max n.log2 52 := by
    have hpos : n <<< (52 - n.log2) ≠ 0 := by
      rw [Nat.shiftLeft_eq]
      exact (Nat.mul_pos hn (Nat.two_pow_pos _)).ne'
    obtain ⟨hlow, hhigh⟩ := (Nat.log2_eq_iff hn.ne').mp rfl
    rw [Nat.log2_eq_iff hpos, Nat.shiftLeft_eq]
    constructor
    · calc 2 ^ max n.log2 52 = 2 ^ n.log2 * 2 ^ (52 - n.log2) := by
            rw [← Nat.pow_add]
            congr 1
            omega
        _ ≤ n * 2 ^ (52 - n.log2) := Nat.mul_le_mul_right _ hlow
    · calc n * 2 ^ (52 - n.log2) < 2 ^ (n.log2 + 1) * 2 ^ (52 - n.log2) :=
            Nat.mul_lt_mul_of_pos_right hhigh (Nat.two_pow_pos _)
        _ = 2 ^ (max n.log2 52 + 1) := by
            rw [← Nat.pow_add]
            congr 1
            omega
  obtain ⟨m, e, hm, hround, hfull, hlow, hhigh⟩ := roundWithAccuracy_full s
    (m := n <<< (52 - n.log2)) (e := 0 - (52 - n.log2 : Nat)) (by omega) (by omega)
  refine ⟨m, e, hm, ?_, hfull, by omega, by omega⟩
  simpa only [UnpackedFloat.round, decreaseExponent, htarget, hshift] using hround

/-- The double nearest to a nonzero integer of at most 64 bits is finite, with the
integer's sign. -/
theorem unpack_ofInt {n : Int} (hn : n ≠ 0) (hbits : n.natAbs < 2 ^ 64) :
    ∃ m e hm, (Float.Model.ofInt n).unpack
      = .finite (if n < 0 then .negative else .positive) m e hm := by
  have hround : ∃ m e hm, UnpackedFloat.ofInt .binary64 n
      = .finite (if n < 0 then .negative else .positive) m e hm ∧
        m.log2 = 52 ∧ -52 ≤ e ∧ e ≤ n.natAbs.log2 - 51 := by
    unfold UnpackedFloat.ofInt UnpackedFloat.normalize
    rcases lt_or_gt_of_ne hn with hneg | hpos
    · rw [Int.compare_eq_lt.mpr hneg, if_pos hneg]
      have habs : (-n).toNat = n.natAbs := by omega
      rw [← habs]
      exact round_integer .negative (by omega)
    · rw [Int.compare_eq_gt.mpr hpos, if_neg (by omega)]
      have habs : n.toNat = n.natAbs := by omega
      rw [← habs]
      exact round_integer .positive (by omega)
  obtain ⟨m, e, hm, hofInt, hfull, hlow, hhigh⟩ := hround
  have hlog : n.natAbs.log2 < 64 := (Nat.log2_lt (by omega)).mpr hbits
  rw [Float.Model.ofInt, hofInt]
  refine @unpack_pack_finite .binary64 _ m e hm (by rw [hfull]; rfl) ?_ ?_
  · simp only [Format.exponentBias]
    omega
  · simp only [Format.exponentBias]
    omega

/-! ## Machine floats -/

/-- The double nearest to an integer. -/
def toDouble (n : Int) : Float := .ofModel (.ofInt n)

theorem unpack_zero : (0 : Float).toModel.unpack = .zero .positive := by
  rw [show (0 : Float) = toDouble 0 by decide]
  exact unpack_packedZero

theorem lt_zero (x : Float) : x < 0 ↔ Negative x.toModel.unpack := by
  change decide (x.toModel.unpack.lt (0 : Float).toModel.unpack = true) = true ↔ _
  rw [decide_eq_true_iff, unpack_zero, lt_zero_iff]

theorem lt_zero32 (x : Float32) : x < 0 ↔ Negative x.toModel.unpack := by
  have hzero : (0 : Float32).toModel.unpack = .zero .positive := by
    rw [show (0 : Float32) = Float32.ofModel (.ofInt 0) by decide]
    exact unpack_packedZero
  change decide (x.toModel.unpack.lt (0 : Float32).toModel.unpack = true) = true ↔ _
  rw [decide_eq_true_iff, hzero, lt_zero_iff]

/-- On finite doubles the two comparisons with zero are opposite. -/
theorem zero_le_iff {x : Float} (hx : x.isFinite) : 0 ≤ x ↔ ¬ x < 0 := by
  rw [lt_zero]
  change decide ((0 : Float).toModel.unpack.le x.toModel.unpack = true) = true ↔ _
  rw [decide_eq_true_iff, unpack_zero]
  replace hx : x.toModel.unpack.isFinite = true := hx
  cases hunpack : x.toModel.unpack with
  | notANumber => simp [hunpack, UnpackedFloat.isFinite] at hx
  | infinity s => simp [hunpack, UnpackedFloat.isFinite] at hx
  | zero s => simp [UnpackedFloat.le, UnpackedFloat.compare, Negative]
  | finite s m e hm => cases s <;> simp [UnpackedFloat.le, UnpackedFloat.compare, Negative]

theorem isFinite_toDouble {n : Int} (hbits : n.natAbs < 2 ^ 64) : (toDouble n).isFinite := by
  change (Float.Model.ofInt n).unpack.isFinite = true
  by_cases hn : n = 0
  · subst hn
    rw [show (Float.Model.ofInt 0).unpack = .zero .positive from unpack_packedZero]
    rfl
  · obtain ⟨m, e, hm, hunpack⟩ := unpack_ofInt hn hbits
    rw [hunpack]
    rfl

theorem toDouble_lt_zero {n : Int} (hbits : n.natAbs < 2 ^ 64) : toDouble n < 0 ↔ n < 0 := by
  rw [lt_zero]
  change Negative (Float.Model.ofInt n).unpack ↔ n < 0
  by_cases hn : n = 0
  · subst hn
    rw [show (Float.Model.ofInt 0).unpack = .zero .positive from unpack_packedZero]
    simp [Negative]
  · obtain ⟨m, e, hm, hunpack⟩ := unpack_ofInt hn hbits
    rw [hunpack]
    by_cases hneg : n < 0 <;> simp [hneg, Negative]

/-- A single-precision square is not negative. -/
theorem not_mul_self_lt_zero (x : Float32) : ¬ x * x < 0 := by
  rw [lt_zero32]
  exact not_negative_unpack_pack (not_negative_mul_self _)

theorem not_add_lt_zero {x y : Float32} (hx : ¬ x < 0) (hy : ¬ y < 0) : ¬ x + y < 0 := by
  rw [lt_zero32] at hx hy ⊢
  exact not_negative_unpack_pack (not_negative_add hx hy)

theorem not_div_lt_zero {x y : Float32} (hx : ¬ x < 0)
    (hy : ∃ m e hm, y.toModel.unpack = .finite .positive m e hm) : ¬ x / y < 0 := by
  obtain ⟨m, e, hm, hunpack⟩ := hy
  rw [lt_zero32] at hx ⊢
  refine not_negative_unpack_pack ?_
  rw [hunpack]
  exact not_negative_div hx m e hm

/-- A single-precision float as a double. -/
def widen (x : Float32) : Float :=
  .ofModel (.pack (match x.toModel.unpack with
    | .finite s m e _ => UnpackedFloat.round .binary64 s m e
    | f => f))

/-- The single-precision float nearest to a double. -/
def narrow (x : Float) : Float32 :=
  .ofModel (.pack (match x.toModel.unpack with
    | .finite s m e _ => UnpackedFloat.round .binary32 s m e
    | f => f))

theorem not_widen_lt_zero {x : Float32} (hx : ¬ x < 0) : ¬ widen x < 0 := by
  rw [lt_zero32] at hx
  rw [lt_zero]
  refine not_negative_unpack_pack ?_
  split
  next s m e hm hunpack =>
    rw [hunpack] at hx
    cases s with
    | negative => exact absurd trivial hx
    | positive => exact not_negative_round m e
  next hunpack => exact hx

end Library.FloatSign
