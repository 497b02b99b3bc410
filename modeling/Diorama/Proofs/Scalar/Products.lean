import Diorama.Proofs.Scalar.Range
import Diorama.Proofs.Scalar.Widening

namespace Diorama.Binary

open Float.Model UnpackedFloat

variable {f : Format} {m n : Nat} {d e : Int}

/-- The exact product of two numbers has every bit that the format keeps. -/
lemma add_le_targetExponent (hm : 0 < m) (hn : 0 < n) (hcm : Canonical f m d) (hcn : Canonical f n e)
    (hf : f.minExponent ≤ 0) : d + e ≤ f.targetExponent (totalExponent (m * n) (d + e)) := by
  by_cases hleast : d = f.minExponent ∧ e = f.minExponent
  · have hproduct : d + e ≤ f.minExponent := by omega
    exact hproduct.trans (least_targetExponent f _)
  · -- One of the mantissas has full length, and so has the product.
    have hfull : 2 ^ f.mantissaBitsWithoutImplicit ≤ m * n := by
      rcases not_and_or.mp hleast with h | h
      · exact (hcm.full.resolve_right h).trans (Nat.le_mul_of_pos_right m hn)
      · exact (hcn.full.resolve_right h).trans (Nat.le_mul_of_pos_left n hm)
    have hlog := (Nat.le_log2 (Nat.mul_pos hm hn).ne').mpr hfull
    have hbits := mantissaBits_eq f
    refine le_trans ?_ (le_max_left _ _)
    unfold totalExponent
    omega

lemma lt_overflow (hc : Canonical f m e) (hmax : e ≤ maxExponent f) : (m : ℚ) * 2 ^ e < overflow f := by
  have hshort : (m : ℚ) + 1 ≤ 2 ^ f.mantissaBits := by exact_mod_cast hc.short
  have hexp : (2 : ℚ) ^ e ≤ 2 ^ maxExponent f := zpow_le_zpow_right₀ (by norm_num) hmax
  calc (m : ℚ) * 2 ^ e ≤ m * 2 ^ maxExponent f := mul_le_mul_of_nonneg_left hexp (Nat.cast_nonneg m)
    _ < overflow f := mul_lt_mul_of_pos_right (by linarith) (by positivity)

end Diorama.Binary

namespace Diorama.Scalar

open Float.Model UnpackedFloat Binary

variable {s : Sign} {m n : Nat} {d e : Int} {a b : Scalar}

lemma abs_value {hm : 0 < m} (h : a.toModel.unpack = .finite s m e hm) : |value a| = m * 2 ^ e := by
  rw [value, h, exact, apply_cast, abs_mul, abs_mul, Nat.abs_cast, abs_zpow, abs_two]
  cases s <;> simp [Sign.apply]

theorem isFinite_mul (ha : a.isFinite = true) (hb : b.isFinite = true)
    (h : |value a| * |value b| < overflow .binary32) : (a * b).isFinite = true := by
  change (UnpackedFloat.unpack .binary32 (UnpackedFloat.pack .binary32
    (UnpackedFloat.mul .binary32 a.toModel.unpack b.toModel.unpack))).isFinite = true
  rcases eq_zero_or_finite ha with ⟨s, hza⟩ | ⟨s, m, d, hm, hua, hcm, -⟩
  · rcases eq_zero_or_finite hb with ⟨t, hub⟩ | ⟨t, n, e, hn, hub, -, -⟩ <;> rw [hza, hub] <;>
      exact congrArg UnpackedFloat.isFinite (unpack_pack_zero .binary32 _)
  · rcases eq_zero_or_finite hb with ⟨t, hub⟩ | ⟨t, n, e, hn, hub, hcn, -⟩
    · rw [hua, hub]
      exact congrArg UnpackedFloat.isFinite (unpack_pack_zero .binary32 _)
    · rw [abs_value hua, abs_value hub] at h
      have hmul : UnpackedFloat.mul .binary32 (.finite s m d hm) (.finite t n e hn) =
          UnpackedFloat.round .binary32 (s * t) (m * n) (d + e) :=
        roundWithAccuracy_eq_round (add_le_targetExponent hm hn hcm hcn (by decide))
      rw [hua, hub, hmul]
      refine isFinite_round (by decide) (Nat.mul_pos hm hn) (lt_of_eq_of_lt ?_ h) _
      rw [zpow_add₀ two_ne_zero]
      push_cast
      ring

lemma abs_value_lt_overflow (h : a.isFinite = true) : |value a| < overflow .binary32 := by
  rcases eq_zero_or_finite h with ⟨s, hu⟩ | ⟨s, m, e, hm, hu, hc, hmax⟩
  · have hzero : value a = 0 := congrArg exact hu
    rw [hzero, abs_zero]
    decide +kernel
  · rw [abs_value hu]
    exact lt_overflow hc hmax

def IsFraction (x : Scalar) : Prop := -1 ≤ x ∧ x ≤ 1

lemma IsFraction.isFinite (h : a.IsFraction) : a.isFinite = true := by
  obtain ⟨-, hnan, hlow⟩ := le_iff.mp h.1
  obtain ⟨-, -, hhigh⟩ := le_iff.mp h.2
  have hminus : orderKey (-1) = (-1, 23, -8388608) := by decide +kernel
  have hplus : orderKey 1 = (1, -23, 8388608) := by decide +kernel
  rw [hminus] at hlow
  rw [hplus] at hhigh
  change a.toModel.unpack.isNaN = false at hnan
  change a.toModel.unpack.isFinite = true
  unfold orderKey at hlow hhigh
  cases hu : a.toModel.unpack with
  | notANumber =>
    rw [hu] at hnan
    cases hnan
  | infinity s =>
    rw [hu] at hlow hhigh
    cases s with
    | negative => exact absurd (.inl (by decide)) hlow
    | positive => exact absurd (.inl (by decide)) hhigh
  | zero s => rfl
  | finite s m e hm => rfl

lemma IsFraction.abs_value_le (h : a.IsFraction) : |value a| ≤ 1 := by
  have hminus : value (-1) = -1 := by decide +kernel
  have hplus : value 1 = 1 := by decide +kernel
  have hlow := (le_iff_value (by decide) h.isFinite).mp h.1
  have hhigh := (le_iff_value h.isFinite (by decide)).mp h.2
  exact abs_le.mpr ⟨hminus ▸ hlow, hplus ▸ hhigh⟩

theorem IsFraction.isFinite_mul (hb : b.IsFraction) (ha : a.isFinite = true) : (a * b).isFinite = true := by
  refine Scalar.isFinite_mul ha hb.isFinite (lt_of_le_of_lt ?_ (abs_value_lt_overflow ha))
  exact mul_le_of_le_one_right (abs_nonneg _) hb.abs_value_le

lemma isFinite_zero_add (h : a.isFinite = true) : (0 + a).isFinite = true := by
  change (UnpackedFloat.unpack .binary32 (UnpackedFloat.pack .binary32
    (UnpackedFloat.add .binary32 (.zero .positive) a.toModel.unpack))).isFinite = true
  rcases eq_zero_or_finite h with ⟨s, hu⟩ | ⟨s, m, e, hm, hu, hc, hmax⟩
  · rw [hu]
    cases s <;> exact congrArg UnpackedFloat.isFinite (unpack_pack_zero .binary32 _)
  · have hadd : UnpackedFloat.add .binary32 (.zero .positive) (.finite s m e hm) = .finite s m e hm := rfl
    rw [hu, hadd, unpack_pack_finite hm hc hmax]
    rfl

end Diorama.Scalar
