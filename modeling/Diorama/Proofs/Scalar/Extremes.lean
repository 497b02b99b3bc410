import Diorama.Proofs.Scalar.Squares

namespace Diorama.Scalar

open Float.Model UnpackedFloat Binary

variable {a b c : Scalar}

lemma le_refl (h : a.isNaN = false) : a ≤ a := le_iff_level.mpr ⟨h, h, le_rfl⟩

lemma le_of_not_lt (ha : a.isNaN = false) (hb : b.isNaN = false) (h : ¬a < b) : b ≤ a := le_iff_not_lt.mpr ⟨hb, ha, h⟩

lemma beq_iff : (a == b) = true ↔ a ≤ b ∧ b ≤ a := by
  change (a.toModel.unpack.compare b.toModel.unpack == some .eq) = true ↔ _
  rw [compare_eq, beq_iff_eq, le_iff, le_iff, ← compareKeys_eq_gt_iff (p := orderKey a),
    ← compareKeys_eq_lt_iff (p := orderKey a)]
  cases Float32.isNaN a <;> cases Float32.isNaN b <;> simp
  cases compareKeys (orderKey a) (orderKey b) <;> simp

lemma min_le_left (h : a.isNaN = false) : Scalar.min a b ≤ a := by
  unfold Scalar.min
  split_ifs with hb hab
  · exact le_refl h
  · exact le_refl h
  · exact le_of_not_lt h (Bool.not_eq_true _ ▸ hb) hab

lemma min_le_right (h : b.isNaN = false) : Scalar.min a b ≤ b := by
  unfold Scalar.min
  rw [h, if_neg Bool.false_ne_true]
  split_ifs with hab
  · exact le_of_lt hab
  · exact le_refl h

lemma le_min (ha : c ≤ a) (hb : c ≤ b) : c ≤ Scalar.min a b := by
  unfold Scalar.min
  split_ifs
  · exact ha
  · exact ha
  · exact hb

lemma le_max_left (h : a.isNaN = false) : a ≤ Scalar.max a b := by
  unfold Scalar.max
  split_ifs with hb hab
  · exact le_refl h
  · exact le_refl h
  · exact le_of_not_lt (Bool.not_eq_true _ ▸ hb) h hab

lemma le_max_right (h : b.isNaN = false) : b ≤ Scalar.max a b := by
  unfold Scalar.max
  rw [h, if_neg Bool.false_ne_true]
  split_ifs with hab
  · exact le_of_lt hab
  · exact le_refl h

lemma max_le (ha : a ≤ c) (hb : b ≤ c) : Scalar.max a b ≤ c := by
  unfold Scalar.max
  split_ifs
  · exact ha
  · exact ha
  · exact hb

lemma isFinite_reread {u : UnpackedFloat} (h : (reread u).isFinite = true) : u.isFinite = true := by
  cases u with
  | notANumber => exact h
  | infinity s => rwa [reread_infinity] at h
  | zero s => rfl
  | finite s m e hm => rfl

lemma isFinite_of_result (op : UnpackedFloat → UnpackedFloat → UnpackedFloat)
    (hleft : ∀ u v, u.isFinite = false → (op u v).isFinite = false)
    (hright : ∀ u v, v.isFinite = false → (op u v).isFinite = false)
    (h : (reread (op a.toModel.unpack b.toModel.unpack)).isFinite = true) : a.isFinite = true ∧ b.isFinite = true := by
  have hresult := isFinite_reread h
  constructor
  · by_contra hn
    rw [hleft _ _ ((Bool.not_eq_true _).mp hn)] at hresult
    cases hresult
  · by_contra hn
    rw [hright _ _ ((Bool.not_eq_true _).mp hn)] at hresult
    cases hresult

lemma isFinite_of_sub (h : (a - b).isFinite = true) : a.isFinite = true ∧ b.isFinite = true := by
  refine isFinite_of_result (UnpackedFloat.sub .binary32) (fun u v hu => ?_) (fun u v hv => ?_) h
  · cases u with
    | notANumber => rfl
    | infinity s =>
      cases v with
      | infinity t => cases s <;> cases t <;> rfl
      | notANumber => rfl
      | zero t => rfl
      | finite t n e hn => rfl
    | zero s => cases hu
    | finite s m e hm => cases hu
  · cases v with
    | notANumber => cases u <;> rfl
    | infinity t =>
      cases u with
      | infinity s => cases s <;> cases t <;> rfl
      | notANumber => rfl
      | zero s => rfl
      | finite s m e hm => rfl
    | zero t => cases hv
    | finite t n e hn => cases hv

lemma isFinite_of_mul (h : (a * b).isFinite = true) : a.isFinite = true ∧ b.isFinite = true := by
  refine isFinite_of_result (UnpackedFloat.mul .binary32) (fun u v hu => ?_) (fun u v hv => ?_) h
  · cases u with
    | notANumber => rfl
    | infinity s => cases v <;> rfl
    | zero s => cases hu
    | finite s m e hm => cases hu
  · cases v with
    | notANumber => cases u <;> rfl
    | infinity t => cases u <;> rfl
    | zero t => cases hv
    | finite t n e hn => cases hv

lemma sub_le_of_nonneg (ha : a.isFinite = true) (hb : b.isFinite = true) (h0 : 0 ≤ b) : a - b ≤ a :=
  (makes_sub ha hb).le (makes_self ha) (sub_le_self _ (value_nonneg hb h0))

lemma le_add_of_nonneg (ha : a.isFinite = true) (hb : b.isFinite = true) (h0 : 0 ≤ b) : a ≤ a + b :=
  (makes_self ha).le (makes_add ha hb) (le_add_of_nonneg_right (value_nonneg hb h0))

lemma unpack_abs (a : Scalar) : a.abs.toModel.unpack = reread a.toModel.unpack.abs := rfl

lemma abs_nonneg (h : a.isFinite = true) : a.abs.isFinite = true ∧ 0 ≤ a.abs := by
  have hvalue : a.abs.isFinite = true ∧ 0 ≤ value a.abs := by
    change a.abs.toModel.unpack.isFinite = true ∧ 0 ≤ exact a.abs.toModel.unpack
    rcases eq_zero_or_finite h with ⟨s, hu⟩ | ⟨s, m, e, hm, hu, hc, hmax⟩
    · rw [unpack_abs, hu, UnpackedFloat.abs, reread_zero]
      exact ⟨rfl, le_rfl⟩
    · rw [unpack_abs, hu, UnpackedFloat.abs, reread, unpack_pack_finite hm hc hmax]
      exact ⟨rfl, exact_positive_pos.le⟩
  exact ⟨hvalue.1, nonneg_iff.mpr ⟨isNaN_of_isFinite hvalue.1, level_of_isFinite hvalue.1 ▸ hvalue.2⟩⟩

lemma isFinite_of_abs (h : a.abs.isFinite = true) : a.isFinite = true := by
  have hu : a.toModel.unpack.abs.isFinite = true := isFinite_reread h
  change a.toModel.unpack.isFinite = true
  cases hv : a.toModel.unpack with
  | notANumber => rw [hv] at hu; exact hu
  | infinity s => rw [hv] at hu; exact hu
  | zero s => rfl
  | finite s m e hm => rfl

lemma unpack_sub_self (h : a.isFinite = true) : ∃ s, (a - a).toModel.unpack = .zero s := by
  rcases eq_zero_or_finite h with ⟨s, hu⟩ | ⟨s, m, e, hm, hu, -, -⟩
  · rw [unpack_sub, hu]
    cases s <;> exact ⟨_, reread_zero _⟩
  · refine ⟨.positive, ?_⟩
    rw [unpack_sub, hu]
    simp only [UnpackedFloat.sub, sub_self]
    exact reread_zero _

lemma abs_sub_self_le (h : a.isFinite = true) (h0 : 0 ≤ c) : (a - a).abs ≤ c := by
  obtain ⟨s, hu⟩ := unpack_sub_self h
  have hzero : (a - a).abs.toModel.unpack = .zero .positive := by
    rw [unpack_abs, hu]
    exact reread_zero _
  have hlevel : level (a - a).abs = 0 := by
    rw [level, hzero]
    rfl
  have hnumber : (a - a).abs.isNaN = false := congrArg UnpackedFloat.isNaN hzero
  obtain ⟨hc, hc0⟩ := nonneg_iff.mp h0
  exact le_iff_level.mpr ⟨hnumber, hc, hlevel ▸ hc0⟩

end Diorama.Scalar
