import Diorama.Proofs.Scalar.Operations

/-! The level of a scalar: the number that it is, where an infinite one stands at the end of the range. Scalars are
ordered as their levels, and an operation gives the exact result, rounded and cut off at the ends. -/

namespace Diorama.Scalar

open Float.Model UnpackedFloat Binary

def limit : ℚ := 2 ^ 128

def levelOf : UnpackedFloat → ℚ
  | .infinity s => s.apply 1 * limit
  | x => exact x

def level (x : Scalar) : ℚ := levelOf x.toModel.unpack

def clamp (q : ℚ) : ℚ := max (-limit) (min limit q)

variable {a b c x y : Scalar} {p q : ℚ} {s : Sign} {m : Nat} {e : Int}

lemma limit_pos : 0 < limit := by unfold limit; positivity

lemma clamp_mono (h : p ≤ q) : clamp p ≤ clamp q := max_le_max le_rfl (min_le_min le_rfl h)

lemma clamp_of_abs_le (h : |q| ≤ limit) : clamp q = q := by
  obtain ⟨hlow, hhigh⟩ := abs_le.mp h
  rw [clamp, min_eq_right hhigh, max_eq_right hlow]

lemma finite_or_infinite (h : a.isNaN = false) : a.isFinite = true ∨ ∃ s, a.toModel.unpack = .infinity s := by
  change a.toModel.unpack.isNaN = false at h
  change a.toModel.unpack.isFinite = true ∨ _
  cases hu : a.toModel.unpack with
  | notANumber => simp [hu, UnpackedFloat.isNaN] at h
  | infinity s => exact .inr ⟨s, rfl⟩
  | zero s => exact .inl rfl
  | finite s m e hm => exact .inl rfl

lemma isNaN_of_infinite (h : a.toModel.unpack = .infinity s) : a.isNaN = false := by
  change a.toModel.unpack.isNaN = false
  rw [h]
  rfl

lemma level_of_isFinite (h : a.isFinite = true) : level a = value a := by
  rcases eq_zero_or_finite h with ⟨s, hu⟩ | ⟨s, m, e, hm, hu, -, -⟩ <;> rw [level, value, hu] <;> rfl

lemma level_of_infinite (h : a.toModel.unpack = .infinity s) : level a = s.apply 1 * limit := by rw [level, h]; rfl

lemma overflow_lt_limit : overflow .binary32 < limit := by decide +kernel

lemma abs_value_lt_limit (h : a.isFinite = true) : |value a| < limit :=
  (abs_value_lt_overflow h).trans overflow_lt_limit

lemma abs_level_le (h : a.isNaN = false) : |level a| ≤ limit := by
  rcases finite_or_infinite h with h | ⟨s, hu⟩
  · rw [level_of_isFinite h]
    exact (abs_value_lt_limit h).le
  · rw [level_of_infinite hu]
    cases s <;> simp [Sign.apply, abs_of_pos limit_pos]

lemma orderKey_of_infinite (h : a.toModel.unpack = .infinity s) : orderKey a = (2 * s.apply 1, 0, 0) := by
  rw [orderKey, h]
  cases s <;> rfl

lemma orderKey_of_isFinite (h : a.isFinite = true) : -1 ≤ (orderKey a).1 ∧ (orderKey a).1 ≤ 1 := by
  rcases eq_zero_or_finite h with ⟨s, hu⟩ | ⟨s, m, e, hm, hu, -, -⟩ <;> rw [orderKey, hu] <;> cases s <;>
    simp [key]

lemma precedes_iff_level (ha : a.isNaN = false) (hb : b.isNaN = false) :
    Precedes (orderKey a) (orderKey b) ↔ level a < level b := by
  have hlimit := limit_pos
  rcases finite_or_infinite ha with hfa | ⟨s, hua⟩
  · have hka := orderKey_of_isFinite hfa
    obtain ⟨hlow, hhigh⟩ := abs_lt.mp (abs_value_lt_limit hfa)
    rcases finite_or_infinite hb with hfb | ⟨t, hub⟩
    · rw [level_of_isFinite hfa, level_of_isFinite hfb]
      exact precedes_iff (held_of_isFinite hfa) (held_of_isFinite hfb)
    · rw [level_of_isFinite hfa, level_of_infinite hub, orderKey_of_infinite hub, Precedes]
      cases t with
      | negative => exact iff_of_false (by simp [Sign.apply]; omega) (by simp [Sign.apply]; linarith)
      | positive => exact iff_of_true (.inl (by simp [Sign.apply]; omega)) (by simpa [Sign.apply] using hhigh)
  · rcases finite_or_infinite hb with hfb | ⟨t, hub⟩
    · have hkb := orderKey_of_isFinite hfb
      obtain ⟨hlow, hhigh⟩ := abs_lt.mp (abs_value_lt_limit hfb)
      rw [level_of_isFinite hfb, level_of_infinite hua, orderKey_of_infinite hua, Precedes]
      cases s with
      | negative => exact iff_of_true (.inl (by simp [Sign.apply]; omega)) (by simpa [Sign.apply] using hlow)
      | positive => exact iff_of_false (by simp [Sign.apply]; omega) (by simp [Sign.apply]; linarith)
    · rw [level_of_infinite hua, level_of_infinite hub, orderKey_of_infinite hua, orderKey_of_infinite hub, Precedes]
      cases s <;> cases t <;> simp [Sign.apply] <;> linarith

lemma lt_iff_level : a < b ↔ a.isNaN = false ∧ b.isNaN = false ∧ level a < level b := by
  rw [lt_iff]
  exact and_congr_right fun ha => and_congr_right fun hb => precedes_iff_level ha hb

lemma le_iff_level : a ≤ b ↔ a.isNaN = false ∧ b.isNaN = false ∧ level a ≤ level b := by
  rw [le_iff]
  exact and_congr_right fun ha => and_congr_right fun hb => (not_congr (precedes_iff_level hb ha)).trans not_lt

def reread (u : UnpackedFloat) : UnpackedFloat := UnpackedFloat.unpack .binary32 (UnpackedFloat.pack .binary32 u)

lemma reread_notANumber : reread .notANumber = .notANumber := rfl

lemma reread_infinity (s : Sign) : reread (.infinity s) = .infinity s := unpack_pack_infinity .binary32 s

lemma reread_zero (s : Sign) : reread (.zero s) = .zero s := unpack_pack_zero .binary32 s

lemma unpack_add (a b : Scalar) :
    (a + b).toModel.unpack = reread (.add .binary32 a.toModel.unpack b.toModel.unpack) := rfl

lemma unpack_sub (a b : Scalar) :
    (a - b).toModel.unpack = reread (.sub .binary32 a.toModel.unpack b.toModel.unpack) := rfl

lemma unpack_mul (a b : Scalar) :
    (a * b).toModel.unpack = reread (.mul .binary32 a.toModel.unpack b.toModel.unpack) := rfl

lemma unpack_div (a b : Scalar) :
    (a / b).toModel.unpack = reread (.div .binary32 a.toModel.unpack b.toModel.unpack) := rfl

def Makes (x : Scalar) (q : ℚ) : Prop := x.isNaN = false ∧ ∃ v, Rounds .binary32 q v ∧ level x = clamp v

theorem Makes.le (hx : x.Makes p) (hy : y.Makes q) (h : p ≤ q) : x ≤ y := by
  obtain ⟨hxn, v, hv, hxv⟩ := hx
  obtain ⟨hyn, w, hw, hyw⟩ := hy
  exact le_iff_level.mpr ⟨hxn, hyn, hxv ▸ hyw ▸ clamp_mono (hv.mono hw h)⟩

lemma level_pack {u : UnpackedFloat} (h : Held .binary32 u) : (Float32.ofModel (.pack u)).isNaN = false ∧
    level (.ofModel (.pack u)) = clamp (exact u) := by
  change (reread u).isNaN = false ∧ levelOf (reread u) = _
  cases u with
  | notANumber => exact h.elim
  | infinity s => exact h.elim
  | zero s =>
    rw [reread_zero]
    have hzero : |exact (.zero s)| ≤ limit := by simpa [exact] using limit_pos.le
    exact ⟨rfl, (clamp_of_abs_le hzero).symm⟩
  | finite s m e hm =>
    have hc : Canonical .binary32 m e := h
    have hsign : |exact (.finite s m e hm)| = m * 2 ^ e := by
      rw [exact_finite, abs_mul, abs_of_nonneg (by positivity : (0 : ℚ) ≤ m * 2 ^ e)]
      cases s <;> simp [Sign.apply]
    by_cases hmax : e ≤ maxExponent .binary32
    · rw [reread, unpack_pack_finite hm hc hmax]
      exact ⟨rfl, (clamp_of_abs_le (hsign ▸ ((lt_overflow hc hmax).trans overflow_lt_limit).le)).symm⟩
    · rw [reread, pack_overflow hm (not_le.mp hmax), unpack_pack_infinity]
      refine ⟨rfl, ?_⟩
      have hbig : limit ≤ m * 2 ^ e := by
        have hfull : 2 ^ 23 ≤ m := hc.full.resolve_right fun he => hmax (he ▸ (by decide))
        have hexp : (2 : ℚ) ^ (105 : Int) ≤ 2 ^ e := zpow_le_zpow_right₀ (by norm_num) (not_le.mp hmax)
        calc limit = (2 ^ 23 : Nat) * 2 ^ (105 : Int) := by unfold limit; norm_num
          _ ≤ m * 2 ^ e := mul_le_mul (by exact_mod_cast hfull) hexp (by positivity) (by positivity)
      have hlimit := limit_pos
      rw [exact_finite, levelOf, clamp]
      cases s with
      | negative =>
        have hlow : Sign.negative.apply 1 * ((m : ℚ) * 2 ^ e) ≤ -limit := by simp only [Sign.apply]; push_cast; linarith
        rw [max_eq_left (min_le_of_right_le hlow)]
        simp [Sign.apply]
      | positive =>
        have hhigh : limit ≤ Sign.positive.apply 1 * ((m : ℚ) * 2 ^ e) := by simp only [Sign.apply]; push_cast; linarith
        rw [min_eq_left hhigh, max_eq_right (by linarith)]
        simp [Sign.apply]

lemma makes_of_isRounded {u : UnpackedFloat} (h : IsRounded .binary32 q u) : Makes (.ofModel (.pack u)) q :=
  ⟨(level_pack h.1).1, _, h.2, (level_pack h.1).2⟩

lemma makes_self (h : a.isFinite = true) : a.Makes (value a) := by
  refine ⟨isNaN_of_isFinite h, _, (isRounded_self (held_of_isFinite h)).2, ?_⟩
  rw [level_of_isFinite h]
  exact (clamp_of_abs_le (abs_value_lt_limit h).le).symm

theorem makes_sub (ha : a.isFinite = true) (hb : b.isFinite = true) : (a - b).Makes (value a - value b) :=
  makes_of_isRounded (isRounded_sub (held_of_isFinite ha) (held_of_isFinite hb))

theorem makes_add (ha : a.isFinite = true) (hb : b.isFinite = true) : (a + b).Makes (value a + value b) :=
  makes_of_isRounded (isRounded_add (held_of_isFinite ha) (held_of_isFinite hb))

theorem makes_mul (ha : a.isFinite = true) (hb : b.isFinite = true) : (a * b).Makes (value a * value b) :=
  makes_of_isRounded (isRounded_mul (by decide) (held_of_isFinite ha) (held_of_isFinite hb))

theorem makes_div (ha : a.isFinite = true) (hb : b.isFinite = true) (h : value b ≠ 0) :
    (a / b).Makes (value a / value b) :=
  makes_of_isRounded (isRounded_div (held_of_isFinite ha) (held_of_isFinite hb) h)

end Diorama.Scalar
