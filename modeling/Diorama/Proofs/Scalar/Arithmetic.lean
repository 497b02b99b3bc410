import Diorama.Proofs.Scalar.Level

namespace Diorama.Scalar

open Float.Model UnpackedFloat Binary

variable {a b c x y : Scalar} {s : Sign}

lemma isFinite_zero : Float32.isFinite 0 = true := by decide +kernel

lemma value_zero : value 0 = 0 := by decide +kernel

lemma level_zero : level 0 = 0 := by rw [level_of_isFinite isFinite_zero, value_zero]

lemma nonneg_iff : 0 ≤ a ↔ a.isNaN = false ∧ 0 ≤ level a := by
  rw [le_iff_level, level_zero]
  exact and_iff_right (isNaN_of_isFinite isFinite_zero)

lemma pos_iff : 0 < a ↔ a.isNaN = false ∧ 0 < level a := by
  rw [lt_iff_level, level_zero]
  exact and_iff_right (isNaN_of_isFinite isFinite_zero)

lemma value_pos (hf : a.isFinite = true) (h : 0 < a) : 0 < value a := level_of_isFinite hf ▸ (pos_iff.mp h).2

lemma value_nonneg (hf : a.isFinite = true) (h : 0 ≤ a) : 0 ≤ value a := level_of_isFinite hf ▸ (nonneg_iff.mp h).2

lemma lt_of_lt_of_le (hab : a < b) (hbc : b ≤ c) : a < c := by
  obtain ⟨ha, -, hab⟩ := lt_iff_level.mp hab
  obtain ⟨-, hc, hbc⟩ := le_iff_level.mp hbc
  exact lt_iff_level.mpr ⟨ha, hc, hab.trans_le hbc⟩

lemma lt_of_le_of_lt (hab : a ≤ b) (hbc : b < c) : a < c := by
  obtain ⟨ha, -, hab⟩ := le_iff_level.mp hab
  obtain ⟨-, hc, hbc⟩ := lt_iff_level.mp hbc
  exact lt_iff_level.mpr ⟨ha, hc, hab.trans_lt hbc⟩

lemma unpack_ne_infinity (h : a.isFinite = true) : a.toModel.unpack ≠ .infinity s := by
  intro hu
  change a.toModel.unpack.isFinite = true at h
  rw [hu] at h
  cases h

lemma le_infinite (hx : x.isNaN = false) (hy : y.toModel.unpack = .infinity .positive) : x ≤ y := by
  refine le_iff_level.mpr ⟨hx, isNaN_of_infinite hy, (abs_le.mp (abs_level_le hx)).2.trans ?_⟩
  rw [level_of_infinite hy]
  simp [Sign.apply]

lemma infinite_le (hx : x.toModel.unpack = .infinity .negative) (hy : y.isNaN = false) : x ≤ y := by
  refine le_iff_level.mpr ⟨isNaN_of_infinite hx, hy, ?_⟩
  rw [level_of_infinite hx]
  simpa [Sign.apply] using (abs_le.mp (abs_level_le hy)).1

lemma finite_or_infinite_of_le (h : a ≤ b) : (a.isFinite = true ∧ b.isFinite = true) ∨
    a.toModel.unpack = .infinity .negative ∨ b.toModel.unpack = .infinity .positive := by
  obtain ⟨ha, hb, hab⟩ := le_iff_level.mp h
  rcases finite_or_infinite ha with hfa | ⟨s, hua⟩
  · rcases finite_or_infinite hb with hfb | ⟨t, hub⟩
    · exact .inl ⟨hfa, hfb⟩
    · cases t with
      | positive => exact .inr (.inr hub)
      | negative =>
        have hlow := (abs_lt.mp (abs_value_lt_limit hfa)).1
        rw [level_of_isFinite hfa, level_of_infinite hub] at hab
        simp only [Sign.apply, Int.cast_neg, Int.cast_one, neg_mul, one_mul] at hab
        exact absurd hab (not_le.mpr hlow)
  · cases s with
    | negative => exact .inr (.inl hua)
    | positive =>
      rcases finite_or_infinite hb with hfb | ⟨t, hub⟩
      · have hhigh := (abs_lt.mp (abs_value_lt_limit hfb)).2
        rw [level_of_isFinite hfb, level_of_infinite hua] at hab
        simp only [Sign.apply, Int.cast_one, one_mul] at hab
        exact absurd hab (not_le.mpr hhigh)
      · cases t with
        | positive => exact .inr (.inr hub)
        | negative =>
          rw [level_of_infinite hua, level_of_infinite hub] at hab
          have := limit_pos
          simp only [Sign.apply, Int.cast_neg, Int.cast_one, neg_mul, one_mul] at hab
          linarith

lemma finite_or_infinite_of_nonneg (h : 0 ≤ a) : a.isFinite = true ∨ a.toModel.unpack = .infinity .positive := by
  rcases finite_or_infinite_of_le h with ⟨-, h⟩ | h | h
  · exact .inl h
  · exact absurd h (unpack_ne_infinity isFinite_zero)
  · exact .inr h

lemma isFinite_of_nonneg_of_le (h0 : 0 ≤ a) (h : a ≤ b) (hb : b.isFinite = true) : a.isFinite = true := by
  rcases finite_or_infinite_of_le h with ⟨ha, -⟩ | hu | hu
  · exact ha
  · rcases finite_or_infinite_of_nonneg h0 with ha | hu'
    · exact ha
    · rw [hu] at hu'
      cases hu'
  · exact absurd hu (unpack_ne_infinity hb)

lemma unpack_of_pos (hf : a.isFinite = true) (h : 0 < a) :
    ∃ m e, ∃ hm : 0 < m, a.toModel.unpack = .finite .positive m e hm := by
  have hpos := value_pos hf h
  rcases eq_zero_or_finite hf with ⟨s, hu⟩ | ⟨s, m, e, hm, hu, -, -⟩
  · rw [value, hu] at hpos
    exact absurd hpos (lt_irrefl 0)
  · rw [value, hu, exact_pos_iff] at hpos
    exact ⟨m, e, hm, hpos ▸ hu⟩

lemma unpack_div_infinite (hc : c.isFinite = true) (h0 : 0 < c) (ha : a.toModel.unpack = .infinity s) :
    (a / c).toModel.unpack = .infinity s := by
  obtain ⟨m, e, hm, hu⟩ := unpack_of_pos hc h0
  rw [unpack_div, ha, hu]
  cases s <;> exact reread_infinity _

lemma isNaN_div (hc : c.isFinite = true) (h0 : 0 < c) (ha : a.isNaN = false) : (a / c).isNaN = false := by
  rcases finite_or_infinite ha with ha | ⟨s, hu⟩
  · exact (makes_div ha hc (value_pos hc h0).ne').1
  · exact isNaN_of_infinite (unpack_div_infinite hc h0 hu)

theorem div_le_div (hc : c.isFinite = true) (h0 : 0 < c) (h : a ≤ b) : a / c ≤ b / c := by
  obtain ⟨ha, hb, -⟩ := le_iff_level.mp h
  rcases finite_or_infinite_of_le h with ⟨hfa, hfb⟩ | hua | hub
  · have hab := (le_iff_value hfa hfb).mp h
    have hpos := value_pos hc h0
    exact (makes_div hfa hc hpos.ne').le (makes_div hfb hc hpos.ne') (div_le_div_of_nonneg_right hab hpos.le)
  · exact infinite_le (unpack_div_infinite hc h0 hua) (isNaN_div hc h0 hb)
  · exact le_infinite (isNaN_div hc h0 ha) (unpack_div_infinite hc h0 hub)

theorem zero_le_div (hc : c.isFinite = true) (h0 : 0 < c) (ha : 0 ≤ a) : 0 ≤ a / c := by
  have hpos := value_pos hc h0
  rcases finite_or_infinite_of_nonneg ha with hfa | hua
  · exact (makes_self isFinite_zero).le (makes_div hfa hc hpos.ne')
      (value_zero.trans_le (div_nonneg (value_nonneg hfa ha) hpos.le))
  · exact le_infinite (isNaN_of_isFinite isFinite_zero) (unpack_div_infinite hc h0 hua)

lemma div_infinite (ha : a.isFinite = true) (hb : b.toModel.unpack = .infinity s) :
    (a / b).isFinite = true ∧ value (a / b) = 0 := by
  have hzero : ∃ t, (a / b).toModel.unpack = .zero t := by
    rcases eq_zero_or_finite ha with ⟨t, hu⟩ | ⟨t, m, e, hm, hu, -, -⟩ <;> rw [unpack_div, hu, hb] <;>
      exact ⟨_, reread_zero _⟩
  obtain ⟨t, ht⟩ := hzero
  exact ⟨congrArg UnpackedFloat.isFinite ht, congrArg exact ht⟩

lemma infinite_div (ha : a.toModel.unpack = .infinity s) (hb : 0 < b) : (a / b).isFinite = false := by
  rcases finite_or_infinite_of_nonneg (le_of_lt hb) with hfb | hub
  · exact congrArg UnpackedFloat.isFinite (unpack_div_infinite hfb hb ha)
  · change (a / b).toModel.unpack.isFinite = false
    rw [unpack_div, ha, hub]
    cases s <;> rfl

lemma unpack_mul_infinite (hc : c.isFinite = true) (h0 : 0 < c) (ha : a.toModel.unpack = .infinity s) :
    (c * a).toModel.unpack = .infinity s := by
  obtain ⟨m, e, hm, hu⟩ := unpack_of_pos hc h0
  rw [unpack_mul, ha, hu]
  cases s <;> exact reread_infinity _

lemma isNaN_mul (hc : c.isFinite = true) (h0 : 0 < c) (ha : a.isNaN = false) : (c * a).isNaN = false := by
  rcases finite_or_infinite ha with ha | ⟨s, hu⟩
  · exact (makes_mul hc ha).1
  · exact isNaN_of_infinite (unpack_mul_infinite hc h0 hu)

theorem mul_le_mul_left (hc : c.isFinite = true) (h0 : 0 < c) (h : a ≤ b) : c * a ≤ c * b := by
  obtain ⟨ha, hb, -⟩ := le_iff_level.mp h
  rcases finite_or_infinite_of_le h with ⟨hfa, hfb⟩ | hua | hub
  · have hab := (le_iff_value hfa hfb).mp h
    exact (makes_mul hc hfa).le (makes_mul hc hfb) (mul_le_mul_of_nonneg_left hab (value_pos hc h0).le)
  · exact infinite_le (unpack_mul_infinite hc h0 hua) (isNaN_mul hc h0 hb)
  · exact le_infinite (isNaN_mul hc h0 ha) (unpack_mul_infinite hc h0 hub)

theorem zero_le_mul (hc : c.isFinite = true) (h0 : 0 < c) (ha : 0 ≤ a) : 0 ≤ c * a := by
  rcases finite_or_infinite_of_nonneg ha with hfa | hua
  · exact (makes_self isFinite_zero).le (makes_mul hc hfa)
      (value_zero.trans_le (mul_nonneg (value_pos hc h0).le (value_nonneg hfa ha)))
  · exact le_infinite (isNaN_of_isFinite isFinite_zero) (unpack_mul_infinite hc h0 hua)

lemma unpack_add_infinite (ha : 0 ≤ a) (hb : 0 ≤ b)
    (h : a.toModel.unpack = .infinity .positive ∨ b.toModel.unpack = .infinity .positive) :
    (a + b).toModel.unpack = .infinity .positive := by
  rw [unpack_add]
  rcases h with hu | hu
  · rcases finite_or_infinite_of_nonneg hb with hfb | hub
    · rcases eq_zero_or_finite hfb with ⟨s, hub⟩ | ⟨s, m, e, hm, hub, -, -⟩ <;> rw [hu, hub] <;>
        exact reread_infinity _
    · rw [hu, hub]
      exact reread_infinity _
  · rcases finite_or_infinite_of_nonneg ha with hfa | hua
    · rcases eq_zero_or_finite hfa with ⟨s, hua⟩ | ⟨s, m, e, hm, hua, -, -⟩ <;> rw [hu, hua] <;>
        exact reread_infinity _
    · rw [hu, hua]
      exact reread_infinity _

lemma isNaN_add (ha : 0 ≤ a) (hb : 0 ≤ b) : (a + b).isNaN = false := by
  rcases finite_or_infinite_of_nonneg ha with hfa | hua
  · rcases finite_or_infinite_of_nonneg hb with hfb | hub
    · exact (makes_add hfa hfb).1
    · exact isNaN_of_infinite (unpack_add_infinite ha hb (.inr hub))
  · exact isNaN_of_infinite (unpack_add_infinite ha hb (.inl hua))

theorem add_le_add_left (hc : 0 ≤ c) (ha : 0 ≤ a) (h : a ≤ b) : c + a ≤ c + b := by
  have hb := le_trans ha h
  rcases finite_or_infinite_of_nonneg hc with hfc | huc
  · rcases finite_or_infinite_of_le h with ⟨hfa, hfb⟩ | hua | hub
    · have hab := (le_iff_value hfa hfb).mp h
      exact (makes_add hfc hfa).le (makes_add hfc hfb) (add_le_add_right hab _)
    · rcases finite_or_infinite_of_nonneg ha with hfa | hua'
      · exact absurd hua (unpack_ne_infinity hfa)
      · rw [hua] at hua'
        cases hua'
    · exact le_infinite (isNaN_add hc ha) (unpack_add_infinite hc hb (.inr hub))
  · exact le_infinite (isNaN_add hc ha) (unpack_add_infinite hc hb (.inl huc))

lemma le_add_right (ha : 0 ≤ a) (hb : 0 ≤ b) : a ≤ a + b := by
  rcases finite_or_infinite_of_nonneg ha with hfa | hua
  · rcases finite_or_infinite_of_nonneg hb with hfb | hub
    · exact (makes_self hfa).le (makes_add hfa hfb) (le_add_of_nonneg_right (value_nonneg hfb hb))
    · exact le_infinite (le_iff.mp ha).2.1 (unpack_add_infinite ha hb (.inr hub))
  · exact le_infinite (le_iff.mp ha).2.1 (unpack_add_infinite ha hb (.inl hua))

lemma le_add_left (ha : 0 ≤ a) (hb : 0 ≤ b) : b ≤ a + b := by
  rcases finite_or_infinite_of_nonneg hb with hfb | hub
  · rcases finite_or_infinite_of_nonneg ha with hfa | hua
    · exact (makes_self hfb).le (makes_add hfa hfb) (le_add_of_nonneg_left (value_nonneg hfa ha))
    · exact le_infinite (le_iff.mp hb).2.1 (unpack_add_infinite ha hb (.inl hua))
  · exact le_infinite (le_iff.mp hb).2.1 (unpack_add_infinite ha hb (.inr hub))

theorem makes_ofInt (n : Int) : (ofInt n).Makes n := by
  have h := isRounded_normalize (f := .binary32) n 0 .positive
  rw [zpow_zero, mul_one] at h
  exact makes_of_isRounded h

theorem ofInt_mono {m n : Int} (h : m ≤ n) : ofInt m ≤ ofInt n :=
  (makes_ofInt m).le (makes_ofInt n) (by exact_mod_cast h)

lemma ofInt_nonneg {n : Int} (h : 0 ≤ n) : 0 ≤ ofInt n :=
  (makes_self isFinite_zero).le (makes_ofInt n) (value_zero.trans_le (by exact_mod_cast h))

end Diorama.Scalar
