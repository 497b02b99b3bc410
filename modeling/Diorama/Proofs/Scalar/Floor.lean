import Diorama.Proofs.Scalar.Arithmetic

namespace Diorama.Scalar

open Float.Model UnpackedFloat Binary

variable {x y : Scalar} {s : Sign} {m : Nat} {e low high : Int}

lemma toNat_toBits (x : Scalar) : x.toBits.toNat = (UnpackedFloat.pack .binary32 x.toModel.unpack).toNat :=
  congrArg BitVec.toNat (pack_unpack_of_valid x.toModel.valid).symm

lemma exists_fields (hc : Canonical .binary32 m e) (hmax : e ≤ 104) : ∃ exponent fraction : Nat,
    (e + 149).toNat * 2 ^ 23 + m = exponent * 2 ^ 23 + fraction ∧ fraction < 2 ^ 23 ∧ exponent < 255 ∧
      (if exponent = 0 then fraction else 0x800000 + fraction) = m ∧ (max 1 exponent : Nat) = e + 150 := by
  have hshort : m < 2 ^ 24 := hc.short
  have hleast : -149 ≤ e := hc.least
  have hfull : 2 ^ 23 ≤ m ∨ e = -149 := hc.full
  by_cases hm : m < 2 ^ 23
  · exact ⟨0, m, by omega, hm, by decide, if_pos rfl, by omega⟩
  · refine ⟨(e + 150).toNat, m - 2 ^ 23, by omega, by omega, by omega, ?_, by omega⟩
    rw [if_neg (by omega)]
    omega

lemma floor_eq_shift (hc : Canonical .binary32 m e) (hmax : e ≤ 104)
    (hbits : x.toBits.toNat = s.toBitVec.toNat * 2 ^ 31 + ((e + 149).toNat * 2 ^ 23 + m)) :
    floor low high x = if 0 ≤ e then s.apply m * 2 ^ e.toNat else s.apply m / (2 ^ (-e).toNat : Nat) := by
  obtain ⟨exponent, fraction, hfields, hfraction, hexponent, hmantissa, hmax⟩ := exists_fields hc hmax
  rw [hfields] at hbits
  have hsigned : (if 0x80000000 ≤ x.toBits.toNat then -(m : Int) else m) = s.apply m := by
    cases s with
    | negative => exact if_pos (by rw [hbits]; exact Nat.le_add_right _ _)
    | positive =>
      replace hbits : x.toBits.toNat = 0 + (exponent * 2 ^ 23 + fraction) := hbits
      exact if_neg (by omega)
  have hexponent' : (x.toBits.toNat >>> 23) % 0x100 = exponent := by
    rw [hbits, Nat.shiftRight_eq_div_pow]
    omega
  have hfraction' : x.toBits.toNat % 0x800000 = fraction := by
    rw [hbits]
    omega
  simp only [floor, hexponent', hfraction', hmantissa, hsigned, if_neg hexponent.ne]
  by_cases he : 0 ≤ e
  · have hshift : exponent - 150 = e.toNat := by omega
    rw [if_pos he, if_pos (by omega), Int.shiftLeft_eq, hshift]
  · have hshift : 150 - max 1 exponent = (-e).toNat := by omega
    rw [if_neg he, if_neg (by omega), Int.shiftRight_eq_div_pow, hshift]

theorem floor_eq (h : x.isFinite = true) : floor low high x = ⌊value x⌋ := by
  rcases eq_zero_or_finite h with ⟨s, hu⟩ | ⟨s, m, e, hm, hu, hc, hmax⟩
  · have hbits := toNat_toBits x
    rw [hu] at hbits
    have hvalue : value x = 0 := congrArg exact hu
    rw [hvalue, Int.floor_zero]
    cases s with
    | negative =>
      replace hbits : x.toBits.toNat = 2 ^ 31 := hbits
      simp [floor, hbits]
    | positive =>
      replace hbits : x.toBits.toNat = 0 := hbits
      simp [floor, hbits]
  · have hbits := toNat_toBits x
    rw [hu, toNat_pack hc hmax] at hbits
    rw [floor_eq_shift hc hmax hbits, value, hu, exact]
    split_ifs with he
    · obtain ⟨k, rfl⟩ := Int.eq_ofNat_of_zero_le he
      rw [zpow_natCast, Int.toNat_natCast]
      exact_mod_cast (Int.floor_intCast (s.apply m * 2 ^ k)).symm
    · obtain ⟨k, hk⟩ := Int.eq_ofNat_of_zero_le (a := -e) (by omega)
      obtain rfl : e = -k := by omega
      rw [neg_neg, Int.toNat_natCast, zpow_neg, zpow_natCast, ← div_eq_mul_inv, ← Rat.floor_intCast_div_natCast]
      push_cast
      rfl

lemma toNat_toBits_infinite (h : x.toModel.unpack = .infinity s) :
    x.toBits.toNat = s.toBitVec.toNat * 2 ^ 31 + 255 * 2 ^ 23 := by
  rw [toNat_toBits, h]
  cases s <;> rfl

lemma floor_infinite (h : x.toModel.unpack = .infinity s) :
    floor low high x = match s with | .negative => low | .positive => high := by
  have hbits := toNat_toBits_infinite h
  cases s with
  | negative =>
    replace hbits : x.toBits.toNat = 0xff800000 := hbits
    simp [floor, hbits]
  | positive =>
    replace hbits : x.toBits.toNat = 0x7f800000 := hbits
    simp [floor, hbits]

lemma clamp_floor (h : x.isNaN = false) (hlow : -2 ^ 128 ≤ low) (hle : low ≤ high) (hhigh : high ≤ 2 ^ 128) :
    max low (min high (floor low high x)) = max low (min high ⌊level x⌋) := by
  rcases finite_or_infinite h with hf | ⟨s, hu⟩
  · rw [floor_eq hf, level_of_isFinite hf]
  · rw [floor_infinite hu, level_of_infinite hu, limit]
    cases s with
    | negative =>
      have hfloor : ⌊((Sign.negative.apply 1 : Int) : ℚ) * 2 ^ 128⌋ = -2 ^ 128 := by
        simp only [Sign.apply]
        norm_cast
      rw [hfloor, min_eq_right hle, min_eq_right (hlow.trans hle), max_eq_left hlow, max_self]
    | positive =>
      have hfloor : ⌊((Sign.positive.apply 1 : Int) : ℚ) * 2 ^ 128⌋ = 2 ^ 128 := by
        simp only [Sign.apply]
        norm_cast
      rw [hfloor, min_self, min_eq_left hhigh]

theorem clamp_floor_mono (hlow : -2 ^ 128 ≤ low) (hle : low ≤ high) (hhigh : high ≤ 2 ^ 128) (h : x ≤ y) :
    max low (min high (floor low high x)) ≤ max low (min high (floor low high y)) := by
  obtain ⟨hx, hy, hxy⟩ := le_iff_level.mp h
  rw [clamp_floor hx hlow hle hhigh, clamp_floor hy hlow hle hhigh]
  exact max_le_max_left _ (min_le_min_left _ (Int.floor_mono hxy))

end Diorama.Scalar
