import Diorama.Json.Number
import Diorama.Proofs.Scalar.Rounding

namespace Diorama.Binary

open Float.Model UnpackedFloat

variable {f : Format} {s : Sign} {m n : Nat} {e : Int}

def overflow (f : Format) : ℚ := (2 ^ f.mantissaBits - 1 / 2) * 2 ^ maxExponent f

lemma targetExponent_le (hf : f.minExponent ≤ maxExponent f) (hm : 0 < m) (h : (m : ℚ) * 2 ^ e < overflow f) :
    f.targetExponent (totalExponent m e) ≤ maxExponent f := by
  refine max_le ?_ hf
  by_contra hlt
  have hpow : (2 : ℚ) ^ ((f.mantissaBits : Int) + maxExponent f) ≤ 2 ^ (totalExponent m e - 1) :=
    zpow_le_zpow_right₀ (by norm_num) (by omega)
  have hbig := hpow.trans (two_zpow_totalExponent hm e).1
  rw [zpow_add₀ two_ne_zero, zpow_natCast] at hbig
  have hsmall : overflow f ≤ 2 ^ f.mantissaBits * 2 ^ maxExponent f :=
    mul_le_mul_of_nonneg_right (by linarith) (by positivity)
  linarith

theorem isFinite_round (hf : f.minExponent ≤ maxExponent f) (hm : 0 < m) (h : (m : ℚ) * 2 ^ e < overflow f) (s : Sign) :
    (UnpackedFloat.unpack f (UnpackedFloat.pack f (UnpackedFloat.round f s m e))).isFinite = true := by
  have hmax := targetExponent_le hf hm h
  obtain ⟨r, hn, hle, hfull, heq⟩ := round_eq f s hm e
  have hleast := least_targetExponent f (totalExponent m e)
  generalize f.targetExponent (totalExponent m e) = t at hmax hn hfull heq hleast
  rw [heq, settled]
  split
  · rw [unpack_pack_zero]
    rfl
  · split
    · rename_i hr hshort
      rw [unpack_pack_finite _ ⟨hshort, hleast, hfull⟩ hmax]
      rfl
    · -- One bit too many: the mantissa is rounded up, which does not happen at the greatest exponent.
      rename_i hr hlong
      obtain rfl : r = 2 ^ f.mantissaBits := le_antisymm hle (not_lt.mp hlong)
      have hlt : t < maxExponent f := by
        refine lt_of_le_of_ne hmax ?_
        rintro rfl
        have hq : (m : ℚ) * 2 ^ (e - maxExponent f) < 2 ^ f.mantissaBits - 1 / 2 := by
          rw [zpow_sub₀ two_ne_zero, mul_div_assoc', div_lt_iff₀ (by positivity)]
          exact h
        have hnear := (abs_le.mp hn.1).1
        push_cast at hnear
        linarith
      have hcanonical : Canonical f (2 ^ f.mantissaBitsWithoutImplicit) (t + 1) :=
        ⟨Nat.pow_lt_pow_right (by decide) (mantissaBits_eq f ▸ Nat.lt_succ_self _), by omega, .inl le_rfl⟩
      rw [unpack_pack_finite _ hcanonical (by omega)]
      rfl

lemma roundWithAccuracy_eq_round (h : e ≤ f.targetExponent (totalExponent m e)) :
    roundWithAccuracy f s m e .exact = UnpackedFloat.round f s m e := by
  have hj : (e - f.targetExponent (totalExponent m e)).toNat = 0 := by omega
  change _ = roundWithAccuracy f s (m <<< (e - f.targetExponent (totalExponent m e)).toNat)
    (e - (e - f.targetExponent (totalExponent m e)).toNat) .exact
  rw [hj]
  simp

lemma minExponent_le_double : Format.binary64.minExponent ≤ maxExponent .binary64 := by decide

/-- The relative error of rounding a natural number to 53 bits is at most half of the last bit. -/
lemma round_nat (hn : 0 < n) : ∃ (r : Nat) (t : Int) (hr : 0 < r), 2 ^ 52 ≤ r ∧ Canonical .binary64 r t ∧
    (r : ℚ) * 2 ^ t ≤ n * (1 + 1 / 2 ^ 53) ∧
      UnpackedFloat.round .binary64 .positive n 0 = .finite .positive r t hr := by
  have htarget : Format.binary64.targetExponent (totalExponent n 0) = (n.log2 : Int) - 52 := by
    change max ((n.log2 : Int) + 1 + 0 - 53) (-1074) = _
    omega
  have hmin : Format.binary64.targetExponent (totalExponent n 0) ≠ Format.binary64.minExponent := by
    rw [htarget]
    change (n.log2 : Int) - 52 ≠ -1074
    omega
  have hq := le_value_at_target hn hmin
  obtain ⟨r, hnear, hle, hfull, heq⟩ := round_eq .binary64 .positive hn 0
  have hr : 2 ^ 52 ≤ r := hfull.resolve_right hmin
  rw [htarget] at hq hnear heq
  generalize ht : (n.log2 : Int) - 52 = t at hq hnear heq
  have hpos : (0 : ℚ) < 2 ^ t := by positivity
  have hq' : (2 : ℚ) ^ 52 ≤ n * 2 ^ (0 - t) := by
    refine le_trans ?_ hq
    change (2 : ℚ) ^ 52 ≤ (2 ^ 52 : Nat)
    norm_num
  have hvalue : (r : ℚ) * 2 ^ t ≤ n * (1 + 1 / 2 ^ 53) := by
    have hup := (abs_le.mp hnear.1).1
    have hback : (n : ℚ) * 2 ^ (0 - t) * 2 ^ t = n := by
      rw [mul_assoc, ← zpow_add₀ two_ne_zero, sub_add_cancel, zpow_zero, mul_one]
    calc (r : ℚ) * 2 ^ t ≤ n * 2 ^ (0 - t) * (1 + 1 / 2 ^ 53) * 2 ^ t :=
          mul_le_mul_of_nonneg_right (by linarith) hpos.le
      _ = n * 2 ^ (0 - t) * 2 ^ t * (1 + 1 / 2 ^ 53) := by ring
      _ = n * (1 + 1 / 2 ^ 53) := by rw [hback]
  have hleast : Format.binary64.minExponent ≤ t := by
    change (-1074 : Int) ≤ t
    omega
  rw [heq, settled, dif_neg (by omega)]
  split
  · rename_i hshort
    exact ⟨r, t, by omega, hr, ⟨hshort, hleast, .inl hr⟩, hvalue, rfl⟩
  · rename_i hlong
    obtain rfl : r = 2 ^ 53 := le_antisymm hle (not_lt.mp hlong)
    refine ⟨2 ^ 52, t + 1, by decide, le_rfl, ⟨by decide, by omega, .inl le_rfl⟩, ?_, rfl⟩
    rw [zpow_add_one₀ two_ne_zero]
    push_cast at hvalue ⊢
    linarith

lemma unpack_nearest_zero : (NumberText.nearest 0).toModel.unpack = .zero .positive :=
  unpack_pack_zero .binary64 .positive

lemma unpack_nearest (hn : 0 < n) (h : (n : ℚ) < overflow .binary64) : ∃ (r : Nat) (t : Int) (hr : 0 < r), 2 ^ 52 ≤ r ∧
    Canonical .binary64 r t ∧ (r : ℚ) * 2 ^ t ≤ n * (1 + 1 / 2 ^ 53) ∧
      (NumberText.nearest n).toModel.unpack = .finite .positive r t hr := by
  obtain ⟨r, t, hr, hfull, hcanonical, hvalue, hround⟩ := round_nat hn
  refine ⟨r, t, hr, hfull, hcanonical, hvalue, ?_⟩
  have hfinite := isFinite_round minExponent_le_double hn (e := 0) (by simpa using h) .positive
  have hmax : t ≤ maxExponent .binary64 := by
    by_contra hlt
    rw [hround, pack_overflow hr (not_le.mp hlt), unpack_pack_infinity] at hfinite
    cases hfinite
  have hnearest : (NumberText.nearest n).toModel.unpack =
      UnpackedFloat.unpack .binary64
        (UnpackedFloat.pack .binary64 (UnpackedFloat.normalize .binary64 n 0 .positive)) := rfl
  rw [hnearest, UnpackedFloat.normalize, Int.compare_eq_gt.mpr (by exact_mod_cast hn)]
  dsimp only
  rw [Int.toNat_natCast, hround, unpack_pack_finite hr hcanonical hmax]

theorem isFinite_mul_nearest {a b : Nat} (hb : 0 < b) (hb' : (b : ℚ) < overflow .binary64)
    (h : (a : ℚ) * b * (1 + 1 / 2 ^ 53) ^ 2 < overflow .binary64) :
    (NumberText.nearest a * NumberText.nearest b).isFinite = true := by
  obtain ⟨q, u, hq, hqfull, -, hqvalue, hbu⟩ := unpack_nearest hb hb'
  change (UnpackedFloat.unpack .binary64 (UnpackedFloat.pack .binary64 (UnpackedFloat.mul .binary64
    (NumberText.nearest a).toModel.unpack (NumberText.nearest b).toModel.unpack))).isFinite = true
  rw [hbu]
  rcases Nat.eq_zero_or_pos a with rfl | ha
  · rw [unpack_nearest_zero]
    exact congrArg UnpackedFloat.isFinite (unpack_pack_zero .binary64 _)
  · have hb1 : (1 : ℚ) ≤ b := by exact_mod_cast hb
    have ha0 : (0 : ℚ) ≤ a := Nat.cast_nonneg a
    have ha' : (a : ℚ) < overflow .binary64 := by
      refine lt_of_le_of_lt ?_ h
      calc (a : ℚ) = a * 1 * 1 := by ring
        _ ≤ a * b * (1 + 1 / 2 ^ 53) ^ 2 :=
          mul_le_mul (mul_le_mul_of_nonneg_left hb1 ha0) (by norm_num) zero_le_one (by positivity)
    obtain ⟨r, t, hr, hrfull, -, hrvalue, hau⟩ := unpack_nearest ha ha'
    rw [hau]
    -- Both mantissas have full length, so that the product's has more bits than the format keeps.
    have hlong : 2 ^ 104 ≤ r * q := (pow_add 2 52 52).trans_le (Nat.mul_le_mul hrfull hqfull)
    have hlog : 104 ≤ (r * q).log2 := (Nat.le_log2 (Nat.mul_pos hr hq).ne').mpr hlong
    have htarget : t + u ≤ Format.binary64.targetExponent (totalExponent (r * q) (t + u)) := by
      refine le_trans ?_ (le_max_left _ _)
      change t + u ≤ ((r * q).log2 : Int) + 1 + (t + u) - 53
      omega
    have hvalue : ((r * q : Nat) : ℚ) * 2 ^ (t + u) < overflow .binary64 := by
      refine lt_of_le_of_lt ?_ h
      calc ((r * q : Nat) : ℚ) * 2 ^ (t + u) = r * 2 ^ t * (q * 2 ^ u) := by
            rw [zpow_add₀ two_ne_zero]
            push_cast
            ring
        _ ≤ a * (1 + 1 / 2 ^ 53) * (b * (1 + 1 / 2 ^ 53)) := mul_le_mul hrvalue hqvalue (by positivity) (by positivity)
        _ = a * b * (1 + 1 / 2 ^ 53) ^ 2 := by ring
    have hmul : UnpackedFloat.mul .binary64 (.finite .positive r t hr) (.finite .positive q u hq) =
        UnpackedFloat.round .binary64 .positive (r * q) (t + u) := roundWithAccuracy_eq_round htarget
    rw [hmul]
    exact isFinite_round minExponent_le_double (Nat.mul_pos hr hq) hvalue .positive

end Diorama.Binary
