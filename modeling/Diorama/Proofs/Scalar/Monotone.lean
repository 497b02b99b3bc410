import Diorama.Proofs.Scalar.Products

namespace Diorama.Binary

open Float.Model UnpackedFloat Scalar

variable {f : Format} {s : Sign} {m n r k : Nat} {d e t : Int} {p q v w : ℚ}

lemma Nearest.mono (hr : Nearest p r) (hk : Nearest q k) (hpq : p ≤ q) : r ≤ k := by
  by_contra hlt
  have hstep : (k : ℚ) + 1 ≤ r := by exact_mod_cast not_le.mp hlt
  have hp := abs_le.mp hr.1
  have hq := abs_le.mp hk.1
  -- Both numbers lie halfway between the two integers, and only one of these is even.
  have hpr : p - r = -(1 / 2) := by linarith
  have hqk : q - k = 1 / 2 := by linarith
  have hreven := hr.2 (by rw [hpr]; norm_num)
  have hkeven := hk.2 (by rw [hqk]; norm_num)
  have hnext : (r : ℚ) = (k + 1 : Nat) := by
    push_cast
    linarith
  have : r = k + 1 := by exact_mod_cast hnext
  omega

/-- Whether a number is rounded at an exponent: its mantissa there is short enough, and of full length unless the
exponent is the least one. -/
structure RoundedAt (f : Format) (q : ℚ) (t : Int) : Prop where
  least : f.minExponent ≤ t
  below : q < 2 ^ f.mantissaBits * 2 ^ t
  full : 2 ^ f.mantissaBitsWithoutImplicit * 2 ^ t ≤ q ∨ t = f.minExponent

lemma RoundedAt.le (h : RoundedAt f q t) (hr : Nearest (q / 2 ^ t) r) : r ≤ 2 ^ f.mantissaBits := by
  refine hr.le ?_
  push_cast
  exact (div_lt_iff₀ (by positivity)).mpr h.below

lemma RoundedAt.ge (h : RoundedAt f q t) (hr : Nearest (q / 2 ^ t) r) :
    2 ^ f.mantissaBitsWithoutImplicit ≤ r ∨ t = f.minExponent := by
  refine h.full.imp_left fun h => hr.ge ?_
  push_cast
  exact (le_div_iff₀ (by positivity)).mpr h

def RoundsUnsigned (f : Format) (q v : ℚ) : Prop :=
  ∃ (t : Int) (r : Nat), RoundedAt f q t ∧ Nearest (q / 2 ^ t) r ∧ v = r * 2 ^ t

lemma two_pow_mantissaBits_le (f : Format) {d e : Int} (h : d < e) :
    (2 : ℚ) ^ f.mantissaBits * 2 ^ d ≤ 2 ^ f.mantissaBitsWithoutImplicit * 2 ^ e := by
  rw [mantissaBits_eq, pow_succ, mul_assoc, ← zpow_one_add₀ two_ne_zero]
  exact mul_le_mul_of_nonneg_left (zpow_le_zpow_right₀ (by norm_num) (by omega)) (by positivity)

lemma RoundsUnsigned.mono (hv : RoundsUnsigned f p v) (hw : RoundsUnsigned f q w) (hpq : p ≤ q) : v ≤ w := by
  obtain ⟨t, r, ht, hr, rfl⟩ := hv
  obtain ⟨u, k, hu, hk, rfl⟩ := hw
  have htpos : (0 : ℚ) < 2 ^ t := by positivity
  have hupos : (0 : ℚ) < 2 ^ u := by positivity
  rcases lt_trichotomy t u with htu | rfl | hut
  · -- The first is at most the end of its binade, the second at least the beginning of its own.
    have hrtop : (r : ℚ) ≤ 2 ^ f.mantissaBits := by exact_mod_cast ht.le hr
    have hkfull : (2 : ℚ) ^ f.mantissaBitsWithoutImplicit ≤ k := by
      exact_mod_cast (hu.ge hk).resolve_right (ht.least.trans_lt htu).ne'
    calc (r : ℚ) * 2 ^ t ≤ 2 ^ f.mantissaBits * 2 ^ t := mul_le_mul_of_nonneg_right hrtop htpos.le
      _ ≤ 2 ^ f.mantissaBitsWithoutImplicit * 2 ^ u := two_pow_mantissaBits_le f htu
      _ ≤ k * 2 ^ u := mul_le_mul_of_nonneg_right hkfull hupos.le
  · have hrk : (r : ℚ) ≤ k := by
      exact_mod_cast hr.mono hk (div_le_div_of_nonneg_right hpq htpos.le)
    exact mul_le_mul_of_nonneg_right hrk htpos.le
  · have hfull := ht.full.resolve_right (hu.least.trans_lt hut).ne'
    exact absurd (hpq.trans_lt hu.below) (not_lt.mpr ((two_pow_mantissaBits_le f hut).trans hfull))

lemma RoundsUnsigned.nonneg (h : RoundsUnsigned f q v) : 0 ≤ v := by
  obtain ⟨t, r, -, -, rfl⟩ := h
  positivity

lemma roundsUnsigned_self (hc : Canonical f m e) : RoundsUnsigned f (m * 2 ^ e) (m * 2 ^ e) := by
  have he : (0 : ℚ) < 2 ^ e := by positivity
  refine ⟨e, m, ⟨hc.least, ?_, ?_⟩, ?_, rfl⟩
  · exact mul_lt_mul_of_pos_right (by exact_mod_cast hc.short) he
  · exact hc.full.imp_left fun h => mul_le_mul_of_nonneg_right (by exact_mod_cast h) he.le
  · rw [mul_div_cancel_right₀ _ he.ne']
    exact nearest_self m

lemma roundsUnsigned_zero : RoundsUnsigned f 0 0 := by
  refine ⟨f.minExponent, 0, ⟨le_rfl, by positivity, .inr rfl⟩, ?_, by simp⟩
  rw [zero_div]
  exact_mod_cast nearest_self 0

def Rounds (f : Format) (q v : ℚ) : Prop :=
  0 ≤ q ∧ RoundsUnsigned f q v ∨ q ≤ 0 ∧ RoundsUnsigned f (-q) (-v)

theorem Rounds.mono (hv : Rounds f p v) (hw : Rounds f q w) (hpq : p ≤ q) : v ≤ w := by
  rcases hv with ⟨hp, hv⟩ | ⟨hp, hv⟩
  · rcases hw with ⟨-, hw⟩ | ⟨hq, hw⟩
    · exact hv.mono hw hpq
    · obtain rfl : p = 0 := le_antisymm (hpq.trans hq) hp
      obtain rfl : q = 0 := le_antisymm hq hpq
      have hv0 := hv.mono roundsUnsigned_zero le_rfl
      have hw0 := hw.mono roundsUnsigned_zero neg_zero.le
      linarith
  · rcases hw with ⟨-, hw⟩ | ⟨-, hw⟩
    · linarith [hv.nonneg, hw.nonneg]
    · exact neg_le_neg_iff.mp (hw.mono hv (neg_le_neg hpq))

lemma Rounds.neg (h : Rounds f q v) : Rounds f (-q) (-v) := by
  rcases h with ⟨hq, h⟩ | ⟨hq, h⟩
  · exact .inr ⟨neg_nonpos.mpr hq, by rwa [neg_neg, neg_neg]⟩
  · exact .inl ⟨neg_nonneg.mpr hq, h⟩

lemma RoundsUnsigned.signed (h : RoundsUnsigned f q v) (hq : 0 ≤ q) (s : Sign) :
    Rounds f (s.apply 1 * q) (s.apply 1 * v) := by
  have hpositive : Rounds f q v := .inl ⟨hq, h⟩
  cases s with
  | positive => simpa [Sign.apply] using hpositive
  | negative => simpa [Sign.apply] using hpositive.neg

lemma rounds_zero : Rounds f 0 0 := .inl ⟨le_rfl, roundsUnsigned_zero⟩

end Diorama.Binary
