import Diorama.Proofs.Scalar.Value

namespace Diorama.Scalar

open Float.Model UnpackedFloat Binary

variable {x : Scalar} {s : Sign} {m : Nat} {e : Int}

lemma eq_of_unpack {x y : Scalar} (h : x.toModel.unpack = y.toModel.unpack) : x = y :=
  Float32.toBits_inj.mp (UInt32.toBitVec_inj.mp
    ((unpack_inj_of_valid x.toModel.valid y.toModel.valid).mp h))

lemma eq_zero_or_finite (h : x.isFinite = true) : (∃ s, x.toModel.unpack = .zero s) ∨
    ∃ s m e, ∃ hm : 0 < m, x.toModel.unpack = .finite s m e hm ∧ Canonical .binary32 m e ∧
      e ≤ maxExponent .binary32 := by
  change x.toModel.unpack.isFinite = true at h
  cases hu : x.toModel.unpack with
  | notANumber => simp [hu, UnpackedFloat.isFinite] at h
  | infinity s => simp [hu, UnpackedFloat.isFinite] at h
  | zero s => exact Or.inl ⟨s, rfl⟩
  | finite s m e hm => exact Or.inr ⟨s, m, e, hm, rfl, canonical_of_unpack (by decide) hu⟩

lemma exists_canonical_double (hm : 0 < m) (hc : Canonical .binary32 m e) (hmax : e ≤ maxExponent .binary32) :
    ∃ r t, 0 < r ∧ Canonical .binary64 r t ∧ t ≤ maxExponent .binary64 ∧ (r : ℚ) * 2 ^ t = m * 2 ^ e := by
  have hlog : m.log2 < 24 := log2_lt_mantissaBits hc.short
  obtain ⟨k, hk⟩ : ∃ k, m.log2 + k = 52 := ⟨52 - m.log2, by omega⟩
  have hlo := Nat.log2_self_le hm.ne'
  have hhi : m < 2 ^ (m.log2 + 1) := Nat.lt_log2_self
  have hleast : -149 ≤ e := hc.least
  have hmost : e ≤ 104 := hmax
  have hlow : 2 ^ 52 ≤ m * 2 ^ k := by
    rw [← hk, pow_add]
    exact Nat.mul_le_mul_right _ hlo
  have hhigh : m * 2 ^ k < 2 ^ 53 := by
    have h53 : 53 = m.log2 + 1 + k := by omega
    rw [h53, pow_add]
    exact Nat.mul_lt_mul_of_pos_right hhi (Nat.two_pow_pos k)
  refine ⟨m * 2 ^ k, e - k, Nat.mul_pos hm (Nat.two_pow_pos k), ⟨hhigh, ?_, Or.inl hlow⟩, ?_, ?_⟩
  · change (-1074 : Int) ≤ e - k
    omega
  · change e - k ≤ (971 : Int)
    omega
  · rw [zpow_sub₀ two_ne_zero, zpow_natCast]
    push_cast
    field_simp

lemma unpack_widen_zero (h : x.toModel.unpack = .zero s) : (widen x).toModel.unpack = .zero s := by
  unfold widen
  rw [h]
  exact unpack_pack_zero .binary64 s

lemma unpack_widen_finite {hm : 0 < m} (h : x.toModel.unpack = .finite s m e hm) :
    ∃ (r : Nat) (t : Int) (hr : 0 < r), (r : ℚ) * 2 ^ t = m * 2 ^ e ∧ (widen x).toModel.unpack = .finite s r t hr := by
  obtain ⟨hc, hmax⟩ := canonical_of_unpack (by decide) h
  obtain ⟨r, t, hr, hc', hmax', hv⟩ := exists_canonical_double hm hc hmax
  refine ⟨r, t, hr, hv, ?_⟩
  unfold widen
  rw [h]
  dsimp only
  rw [round_of_canonical hc' hr s hv.symm]
  exact unpack_pack_finite hr hc' hmax'

lemma isFinite_widen (h : x.isFinite = true) : (widen x).isFinite = true := by
  change (widen x).toModel.unpack.isFinite = true
  rcases eq_zero_or_finite h with ⟨s, hu⟩ | ⟨s, m, e, hm, hu, -, -⟩
  · rw [unpack_widen_zero hu]
    rfl
  · obtain ⟨r, t, hr, -, hw⟩ := unpack_widen_finite hu
    rw [hw]
    rfl

theorem narrow_widen (h : x.isFinite = true) : narrow (widen x) = x := by
  refine eq_of_unpack ?_
  rcases eq_zero_or_finite h with ⟨s, hu⟩ | ⟨s, m, e, hm, hu, hc, hmax⟩
  · unfold narrow
    rw [unpack_widen_zero hu, hu]
    exact unpack_pack_zero .binary32 s
  · obtain ⟨r, t, hr, hv, hw⟩ := unpack_widen_finite hu
    unfold narrow
    rw [hw, hu]
    dsimp only
    rw [round_of_canonical hc hm s hv]
    exact unpack_pack_finite hm hc hmax

end Diorama.Scalar
