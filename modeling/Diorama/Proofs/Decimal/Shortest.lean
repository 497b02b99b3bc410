import Diorama.Decimal.Shortest
import Mathlib

namespace Diorama

namespace Decimal

def value (d : Decimal) : ℚ := d.digits * 10 ^ d.exponent

end Decimal

namespace RoundingInterval

variable {i : RoundingInterval} {tie : Tie} {place : Int} {digits : Nat}

structure Proper (i : RoundingInterval) : Prop where
  low_pos : 0 < i.low
  low_le : i.low ≤ i.middle
  middle_le : i.middle ≤ i.high
  high_le : i.high ≤ 2 * i.middle

lemma proper_around {mantissa : Nat} (h : 0 < mantissa) (exponent : Int) (thin : Bool) :
    (around mantissa exponent thin).Proper := by
  have hthin : (if thin then 1 else 2) ≤ 2 := by split <;> decide
  constructor
  · change 0 < 4 * mantissa - if thin then 1 else 2
    omega
  · change 4 * mantissa - (if thin then 1 else 2) ≤ 4 * mantissa
    omega
  · change 4 * mantissa ≤ 4 * mantissa + 2
    omega
  · change 4 * mantissa + 2 ≤ 2 * (4 * mantissa)
    omega

lemma unit_pos (i : RoundingInterval) (place : Int) : 0 < i.unit place := by
  rw [unit, Nat.shiftLeft_eq]
  exact Nat.mul_pos (Nat.pow_pos (by decide)) (Nat.two_pow_pos _)

lemma step_pos (i : RoundingInterval) (place : Int) : 0 < i.step place := by
  rw [step, Nat.shiftLeft_eq]
  exact Nat.mul_pos (Nat.pow_pos (by decide)) (Nat.two_pow_pos _)

lemma zpow_toNat {b : ℚ} (hb : b ≠ 0) (k : Int) : b ^ k.toNat = b ^ k * b ^ (-k).toNat := by
  rw [← zpow_natCast, ← zpow_natCast, ← zpow_add₀ hb]
  congr 1
  omega

lemma step_eq (i : RoundingInterval) (place : Int) :
    (i.step place : ℚ) * 2 ^ i.exponent = 10 ^ place * i.unit place := by
  have hten := zpow_toNat (by norm_num : (10 : ℚ) ≠ 0) place
  have htwo := zpow_toNat (by norm_num : (2 : ℚ) ≠ 0) i.exponent
  simp only [step, unit, Nat.shiftLeft_eq, Nat.pow_eq]
  push_cast
  rw [hten, htwo]
  ring

lemma grid_le_iff (k : Nat) : digits * i.step place ≤ k * i.unit place ↔
    (digits : ℚ) * 10 ^ place ≤ k * 2 ^ i.exponent := by
  have hunit : (0 : ℚ) < i.unit place := by exact_mod_cast i.unit_pos place
  have htwo : (0 : ℚ) < 2 ^ i.exponent := by positivity
  have hpoint : (digits * i.step place : ℚ) * 2 ^ i.exponent = digits * 10 ^ place * i.unit place := by
    rw [mul_assoc, step_eq, mul_assoc]
  have hend : (k * i.unit place : ℚ) * 2 ^ i.exponent = k * 2 ^ i.exponent * i.unit place := by ring
  rw [← mul_le_mul_iff_left₀ hunit, ← hpoint, ← hend, mul_le_mul_iff_left₀ htwo]
  exact_mod_cast Iff.rfl

lemma contains_bounds (h : i.contains place digits = true) :
    i.low * i.unit place ≤ digits * i.step place ∧ digits * i.step place ≤ i.high * i.unit place := by
  rw [contains] at h
  split at h
  · rwa [Bool.and_eq_true, decide_eq_true_eq, decide_eq_true_eq] at h
  · rw [Bool.and_eq_true, decide_eq_true_eq, decide_eq_true_eq] at h
    exact ⟨h.1.le, h.2.le⟩

lemma contains_of_nearest? (h : i.nearest? tie place = some digits) : i.contains place digits = true := by
  simp only [nearest?] at h
  generalize i.middle * i.unit place / i.step place = below at h
  split at h
  · cases h
  · rename_i hbelow habove
    cases h
    exact hbelow
  · rename_i hbelow habove
    cases h
    exact habove
  · rename_i hbelow habove
    split at h
    · cases h
      exact hbelow
    · split at h
      · cases h
        exact habove
      · cases tie with
        | upper =>
          cases h
          exact habove
        | even =>
          cases h
          rcases Nat.mod_two_eq_zero_or_one below with heven | hodd
          · rw [heven]
            exact hbelow
          · rw [hodd]
            exact habove

lemma search_spec (hi : i.Proper) (fuel : Nat) (place : Int)
    (hlast : (10 : ℚ) ^ (place - fuel) ≤ i.middle * 2 ^ i.exponent) :
    0 < (i.search tie fuel place).digits ∧ (i.search tie fuel place).value ≤ i.high * 2 ^ i.exponent := by
  induction fuel generalizing place with
  | zero =>
    have hone : 1 * i.step place ≤ i.middle * i.unit place := by
      rw [grid_le_iff]
      simpa using hlast
    refine ⟨Nat.div_pos (by rwa [one_mul] at hone) (i.step_pos place), (grid_le_iff i.high).mp ?_⟩
    exact (Nat.div_mul_le_self _ _).trans (Nat.mul_le_mul_right _ hi.middle_le)
  | succ fuel ih =>
    rw [search]
    split
    · rename_i digits hnearest
      obtain ⟨hlow, hhigh⟩ := contains_bounds (contains_of_nearest? hnearest)
      refine ⟨?_, (grid_le_iff i.high).mp hhigh⟩
      exact Nat.pos_of_mul_pos_right ((Nat.mul_pos hi.low_pos (i.unit_pos place)).trans_le hlow)
    · refine ih (place - 1) ?_
      have hplace : place - 1 - (fuel : Int) = place - (fuel + 1 : Nat) := by
        push_cast
        ring
      rwa [hplace]

lemma lt_pow_length (n : Nat) : n < 10 ^ (Nat.toDigits 10 n).length :=
  (Nat.length_toDigits_le_iff (by decide) Nat.length_toDigits_pos).mp le_rfl

lemma pow_length_le {n : Nat} (h : 0 < n) : 10 ^ ((Nat.toDigits 10 n).length - 1) ≤ n := by
  rcases Nat.eq_zero_or_pos ((Nat.toDigits 10 n).length - 1) with hzero | hpos
  · rw [hzero, pow_zero]
    exact h
  · rw [← not_lt, ← Nat.length_toDigits_le_iff (by decide) hpos]
    omega

lemma whole_le (i : RoundingInterval) :
    (((i.high <<< i.exponent.toNat) >>> (-i.exponent).toNat : Nat) : ℚ) ≤ i.high * 2 ^ i.exponent := by
  have hpos : (0 : ℚ) < 2 ^ (-i.exponent).toNat := by positivity
  have hle : (i.high <<< i.exponent.toNat) >>> (-i.exponent).toNat * 2 ^ (-i.exponent).toNat ≤
      i.high * 2 ^ i.exponent.toNat := by
    rw [Nat.shiftRight_eq_div_pow, ← Nat.shiftLeft_eq i.high]
    exact Nat.div_mul_le_self _ _
  refine le_of_mul_le_mul_right ?_ hpos
  rw [mul_assoc, ← zpow_toNat (by norm_num)]
  exact_mod_cast hle

lemma inverse_pow_le (hhigh : 0 < i.high) (hwhole : (i.high <<< i.exponent.toNat) >>> (-i.exponent).toNat = 0) :
    ((10 : ℚ) ^ (Nat.toDigits 10 ((1 <<< (-i.exponent).toNat) / i.high)).length)⁻¹ ≤ i.high * 2 ^ i.exponent := by
  set q := (1 <<< (-i.exponent).toNat) / i.high with hq
  have hsmall : 2 ^ (-i.exponent).toNat < (q + 1) * i.high := by
    rw [hq, ← Nat.div_lt_iff_lt_mul hhigh, Nat.shiftLeft_eq, one_mul]
    exact Nat.lt_succ_self _
  have hle : 2 ^ (-i.exponent).toNat ≤ 10 ^ (Nat.toDigits 10 q).length * i.high :=
    hsmall.le.trans (Nat.mul_le_mul_right _ (lt_pow_length q))
  have hle' : (2 : ℚ) ^ (-i.exponent).toNat ≤ 10 ^ (Nat.toDigits 10 q).length * i.high := by exact_mod_cast hle
  have hneg : i.exponent.toNat = 0 := by
    rw [Nat.shiftRight_eq_div_pow, Nat.div_eq_zero_iff, Nat.shiftLeft_eq] at hwhole
    by_contra hne
    have hzero : (-i.exponent).toNat = 0 := by omega
    rw [hzero, pow_zero] at hwhole
    have hproduct := Nat.mul_pos hhigh (Nat.two_pow_pos i.exponent.toNat)
    omega
  have htwo := zpow_toNat (by norm_num : (2 : ℚ) ≠ 0) i.exponent
  rw [hneg, pow_zero] at htwo
  rw [inv_le_iff_one_le_mul₀ (by positivity), htwo]
  calc (2 : ℚ) ^ i.exponent * 2 ^ (-i.exponent).toNat
      ≤ 2 ^ i.exponent * (10 ^ (Nat.toDigits 10 q).length * i.high) :=
        mul_le_mul_of_nonneg_left hle' (by positivity)
    _ = i.high * 2 ^ i.exponent * 10 ^ (Nat.toDigits 10 q).length := by ring

lemma coarsest_le (hi : i.Proper) : (10 : ℚ) ^ (i.coarsest - 1) ≤ i.high * 2 ^ i.exponent := by
  have hhigh : 0 < i.high := (hi.low_pos.trans_le hi.low_le).trans_le hi.middle_le
  simp only [coarsest]
  split
  · rename_i hwhole
    rw [Nat.cast_one, sub_sub_cancel_left, zpow_neg, zpow_natCast]
    exact inverse_pow_le hhigh hwhole
  · rename_i hwhole
    have hplace (n : Nat) : ((Nat.toDigits 10 n).length : Int) - 1 = ((Nat.toDigits 10 n).length - 1 : Nat) := by
      have hdigits := Nat.length_toDigits_pos (b := 10) (n := n)
      omega
    rw [hplace, zpow_natCast]
    refine le_trans ?_ i.whole_le
    exact_mod_cast pow_length_le (Nat.pos_of_ne_zero hwhole)

lemma shortest_spec (tie : Tie) (hi : i.Proper) :
    0 < (i.shortest tie).digits ∧ (i.shortest tie).value ≤ i.high * 2 ^ i.exponent := by
  refine search_spec hi 20 i.coarsest ?_
  have hhalf : (i.high : ℚ) ≤ 2 * i.middle := by exact_mod_cast hi.high_le
  have htwo : (0 : ℚ) < 2 ^ i.exponent := by positivity
  have hten : (10 : ℚ) ^ (i.coarsest - (20 : Nat)) * 2 ≤ 10 ^ (i.coarsest - 1) := by
    have hsplit : i.coarsest - 1 = i.coarsest - (20 : Nat) + 19 := by
      push_cast
      ring
    rw [hsplit, zpow_add₀ (by norm_num)]
    exact mul_le_mul_of_nonneg_left (by norm_num) (by positivity)
  have hhigh : (i.high : ℚ) * 2 ^ i.exponent ≤ 2 * i.middle * 2 ^ i.exponent := mul_le_mul_of_nonneg_right hhalf htwo.le
  have := hten.trans ((coarsest_le hi).trans hhigh)
  linarith

end RoundingInterval

end Diorama
