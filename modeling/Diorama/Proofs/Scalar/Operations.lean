import Diorama.Proofs.Scalar.Monotone

namespace Diorama.Binary

open Float.Model UnpackedFloat Scalar

variable {f : Format} {s : Sign} {m n r : Nat} {d e t : Int} {q : ℚ}

def IsRounded (f : Format) (q : ℚ) (x : UnpackedFloat) : Prop := Held f x ∧ Rounds f q (exact x)

lemma isRounded_zero (s : Sign) : IsRounded f 0 (.zero s) := ⟨trivial, rounds_zero⟩

lemma exact_finite {hm : 0 < m} : exact (.finite s m e hm) = s.apply 1 * (m * 2 ^ e) := by
  rw [exact, apply_cast, mul_assoc]

lemma isRounded_self {x : UnpackedFloat} (h : Held f x) : IsRounded f (exact x) x := by
  refine ⟨h, ?_⟩
  cases x with
  | notANumber => exact h.elim
  | infinity s => exact h.elim
  | zero s => exact rounds_zero
  | finite s m e hm =>
    rw [exact_finite]
    exact (roundsUnsigned_self h).signed (by positivity) s

lemma settled_spec (s : Sign) (hr : r ≤ 2 ^ f.mantissaBits) (ht : f.minExponent ≤ t)
    (hfull : 2 ^ f.mantissaBitsWithoutImplicit ≤ r ∨ t = f.minExponent) :
    Held f (settled f s r t) ∧ exact (settled f s r t) = s.apply 1 * (r * 2 ^ t) := by
  unfold settled
  split_ifs with hzero hshort
  · rw [hzero]
    exact ⟨trivial, by simp [exact]⟩
  · exact ⟨⟨hshort, ht, hfull⟩, exact_finite⟩
  · obtain rfl : r = 2 ^ f.mantissaBits := le_antisymm hr (not_lt.mp hshort)
    refine ⟨⟨Nat.pow_lt_pow_right (by decide) (mantissaBits_eq f ▸ Nat.lt_succ_self _), by omega, .inl le_rfl⟩, ?_⟩
    rw [exact_finite, zpow_add_one₀ two_ne_zero, mantissaBits_eq, pow_succ]
    push_cast
    ring

lemma isRounded_settled (s : Sign) (hq : 0 ≤ q) (ht : RoundedAt f q t) (hr : Nearest (q / 2 ^ t) r) :
    IsRounded f (s.apply 1 * q) (settled f s r t) := by
  obtain ⟨hheld, hexact⟩ := settled_spec s (ht.le hr) ht.least (ht.ge hr)
  exact ⟨hheld, hexact ▸ RoundsUnsigned.signed ⟨t, r, ht, hr, rfl⟩ hq s⟩

lemma isRounded_round (s : Sign) (hm : 0 < m) (e : Int) :
    IsRounded f (s.apply 1 * (m * 2 ^ e)) (UnpackedFloat.round f s m e) := by
  obtain ⟨r, hr, -, -, heq⟩ := round_eq f s hm e
  have hbelow := value_lt_at_target f m e
  have habove := le_value_at_target (f := f) (e := e) hm
  have hleast := least_targetExponent f (totalExponent m e)
  set t := f.targetExponent (totalExponent m e)
  have ht : (0 : ℚ) < 2 ^ t := by positivity
  have hscaled : (m : ℚ) * 2 ^ (e - t) = m * 2 ^ e / 2 ^ t := by rw [zpow_sub₀ two_ne_zero, mul_div_assoc]
  rw [hscaled] at hr hbelow habove
  rw [heq]
  refine isRounded_settled s (by positivity) ⟨hleast, (div_lt_iff₀ ht).mp hbelow, ?_⟩ hr
  by_cases hmin : t = f.minExponent
  · exact .inr hmin
  · have := (le_div_iff₀ ht).mp (habove hmin)
    push_cast at this
    exact .inl this

lemma isRounded_normalize (n e : Int) (s : Sign) :
    IsRounded f (n * 2 ^ e) (UnpackedFloat.normalize f n e s) := by
  unfold UnpackedFloat.normalize
  rcases lt_trichotomy n 0 with hn | rfl | hn
  · rw [Int.compare_eq_lt.mpr hn]
    have hcast : (n : ℚ) * 2 ^ e = Sign.negative.apply 1 * ((-n).toNat * 2 ^ e) := by
      have hnat : ((-n).toNat : ℚ) = -n := by exact_mod_cast Int.toNat_of_nonneg (a := -n) (by omega)
      rw [hnat]
      simp [Sign.apply]
    rw [hcast]
    exact isRounded_round .negative (by omega) e
  · rw [Int.cast_zero, zero_mul]
    exact isRounded_zero s
  · rw [Int.compare_eq_gt.mpr hn]
    have hcast : (n : ℚ) * 2 ^ e = Sign.positive.apply 1 * (n.toNat * 2 ^ e) := by
      have hnat : (n.toNat : ℚ) = n := by exact_mod_cast Int.toNat_of_nonneg hn.le
      rw [hnat]
      simp [Sign.apply]
    rw [hcast]
    exact isRounded_round .positive (by omega) e

lemma apply_neg (s : Sign) : (-s).apply 1 = -s.apply 1 := by cases s <;> rfl

lemma apply_mul (s t : Sign) : (s * t).apply 1 = s.apply 1 * t.apply 1 := by cases s <;> cases t <;> rfl

lemma apply_div (s t : Sign) : (s / t).apply 1 = s.apply 1 * t.apply 1 := by cases s <;> cases t <;> rfl

lemma exact_neg {hm : 0 < m} : exact (.finite (-s) m e hm) = -exact (.finite s m e hm) := by
  rw [exact_finite, exact_finite, apply_neg]
  push_cast
  ring

lemma apply_decreased (hm : 0 < m) (h : d ≤ e) :
    ((s.apply (decreaseExponent m e d).1 : Int) : ℚ) * 2 ^ d = exact (.finite s m e hm) := by
  rw [apply_cast, mul_assoc, decreased_mul m h, exact_finite]

theorem isRounded_sub {x y : UnpackedFloat} (hx : Held f x) (hy : Held f y) :
    IsRounded f (exact x - exact y) (UnpackedFloat.sub f x y) := by
  cases x with
  | notANumber => exact hx.elim
  | infinity s => exact hx.elim
  | zero s =>
    cases y with
    | notANumber => exact hy.elim
    | infinity t => exact hy.elim
    | zero t =>
      have hzero : exact (.zero s) - exact (.zero t) = 0 := sub_zero 0
      rw [hzero]
      cases s <;> cases t <;> exact isRounded_zero _
    | finite t n e hn =>
      have hneg : exact (.zero s) - exact (.finite t n e hn) = exact (.finite (-t) n e hn) := by
        rw [exact_neg]
        exact zero_sub _
      rw [hneg]
      exact isRounded_self hy
  | finite s m d hm =>
    cases y with
    | notANumber => exact hy.elim
    | infinity t => exact hy.elim
    | zero t =>
      have hsame : exact (.finite s m d hm) - exact (.zero t) = exact (.finite s m d hm) := sub_zero _
      rw [hsame]
      exact isRounded_self hx
    | finite t n e hn =>
      rw [← apply_decreased hm (min_le_left d e), ← apply_decreased hn (min_le_right d e), ← sub_mul,
        ← Int.cast_sub]
      exact isRounded_normalize _ _ _

theorem isRounded_add {x y : UnpackedFloat} (hx : Held f x) (hy : Held f y) :
    IsRounded f (exact x + exact y) (UnpackedFloat.add f x y) := by
  cases x with
  | notANumber => exact hx.elim
  | infinity s => exact hx.elim
  | zero s =>
    have hsame : exact (.zero s) + exact y = exact y := zero_add _
    rw [hsame]
    cases y with
    | notANumber => exact hy.elim
    | infinity t => exact hy.elim
    | zero t => cases s <;> cases t <;> exact isRounded_zero _
    | finite t n e hn => exact isRounded_self hy
  | finite s m d hm =>
    cases y with
    | notANumber => exact hy.elim
    | infinity t => exact hy.elim
    | zero t =>
      have hsame : exact (.finite s m d hm) + exact (.zero t) = exact (.finite s m d hm) := add_zero _
      rw [hsame]
      exact isRounded_self hx
    | finite t n e hn =>
      rw [← apply_decreased hm (min_le_left d e), ← apply_decreased hn (min_le_right d e), ← add_mul,
        ← Int.cast_add]
      exact isRounded_normalize _ _ _

theorem isRounded_mul {x y : UnpackedFloat} (hf : f.minExponent ≤ 0) (hx : Held f x) (hy : Held f y) :
    IsRounded f (exact x * exact y) (UnpackedFloat.mul f x y) := by
  cases x with
  | notANumber => exact hx.elim
  | infinity s => exact hx.elim
  | zero s =>
    have hzero : exact (.zero s) * exact y = 0 := zero_mul _
    rw [hzero]
    cases y with
    | notANumber => exact hy.elim
    | infinity t => exact hy.elim
    | zero t => exact isRounded_zero _
    | finite t n e hn => exact isRounded_zero _
  | finite s m d hm =>
    cases y with
    | notANumber => exact hy.elim
    | infinity t => exact hy.elim
    | zero t =>
      have hzero : exact (.finite s m d hm) * exact (.zero t) = 0 := mul_zero _
      rw [hzero]
      exact isRounded_zero _
    | finite t n e hn =>
      have hmul : UnpackedFloat.mul f (.finite s m d hm) (.finite t n e hn) =
          UnpackedFloat.round f (s * t) (m * n) (d + e) :=
        roundWithAccuracy_eq_round (add_le_targetExponent hm hn hx hy hf)
      have hexact : exact (.finite s m d hm) * exact (.finite t n e hn) =
          (s * t).apply 1 * ((m * n : Nat) * 2 ^ (d + e)) := by
        rw [exact_finite, exact_finite, zpow_add₀ two_ne_zero, apply_mul]
        push_cast
        ring
      rw [hmul, hexact]
      exact isRounded_round _ (Nat.mul_pos hm hn) _

lemma stands_quotient (m : Nat) (hn : 0 < n) :
    Stands (.ofMantissaAndAccuracy (m / n) (accuracyOfFraction (m % n) n)) (m / n) := by
  have hnq : (0 : ℚ) < n := by exact_mod_cast hn
  have hsplit : (m : ℚ) / n = (m / n : Nat) + (m % n : Nat) / n := by
    have : (m : ℚ) = n * (m / n : Nat) + (m % n : Nat) := by exact_mod_cast (Nat.div_add_mod m n).symm
    rw [this, add_div, mul_div_cancel_left₀ _ hnq.ne']
  have hless : ((m % n : Nat) : ℚ) / n < 1 := by
    rw [div_lt_one hnq]
    exact_mod_cast Nat.mod_lt m hn
  unfold accuracyOfFraction
  split_ifs with hzero
  · rw [hsplit, hzero]
    simp [Stands, ExtendedMantissa.ofMantissaAndAccuracy]
  · have hpos : (0 : ℚ) < (m % n : Nat) / n := div_pos (by exact_mod_cast Nat.pos_of_ne_zero hzero) hnq
    rw [hsplit]
    rcases lt_trichotomy (2 * (m % n)) n with h | h | h
    · have hhalf : ((m % n : Nat) : ℚ) / n < 1 / 2 := by
        rw [div_lt_div_iff₀ hnq two_pos]
        exact_mod_cast (by omega : m % n * 2 < 1 * n)
      rw [Nat.compare_eq_lt.mpr h]
      exact ⟨lt_add_of_pos_right _ hpos, (add_lt_add_iff_left _).mpr hhalf⟩
    · have hhalf : ((m % n : Nat) : ℚ) / n = 1 / 2 := by
        rw [div_eq_div_iff hnq.ne' two_ne_zero]
        exact_mod_cast (by omega : m % n * 2 = 1 * n)
      rw [Nat.compare_eq_eq.mpr h, hhalf]
      rfl
    · have hhalf : (1 : ℚ) / 2 < (m % n : Nat) / n := by
        rw [div_lt_div_iff₀ two_pos hnq]
        exact_mod_cast (by omega : 1 * n < m % n * 2)
      rw [Nat.compare_eq_gt.mpr h]
      exact ⟨(add_lt_add_iff_left _).mpr hhalf, (add_lt_add_iff_left _).mpr hless⟩

lemma exists_roundWithAccuracy {a : Accuracy} (h : Stands (.ofMantissaAndAccuracy m a) q)
    (ht : f.targetExponent (totalExponent m e) = t) (he : e ≤ t) (hbelow : q * 2 ^ e < 2 ^ f.mantissaBits * 2 ^ t)
    (s : Sign) : ∃ r, Nearest (q * 2 ^ e / 2 ^ t) r ∧ roundWithAccuracy f s m e a = settled f s r t := by
  have hk : e + ((t - e).toNat : Int) = t := by omega
  have hshift : shiftToTargetExponent f m e a =
      (ExtendedMantissa.ofMantissaAndAccuracy m a >>> (t - e).toNat, t) := by
    simp only [shiftToTargetExponent, ht, shiftToExponent, hk]
  have hscaled : q / 2 ^ (t - e).toNat = q * 2 ^ e / 2 ^ t := by
    rw [← zpow_natCast, Int.toNat_of_nonneg (by omega), zpow_sub₀ two_ne_zero]
    field_simp
  have hr := (h.shift (t - e).toNat).rounded
  rw [hscaled] at hr
  refine ⟨_, hr, ?_⟩
  rw [roundWithAccuracy_eq, hshift]
  · rw [hshift]
    exact hr.le (by push_cast; exact (div_lt_iff₀ (by positivity)).mpr hbelow)
  · rw [hshift, ← ht]
    exact least_targetExponent f _

lemma targetExponent_mono (f : Format) (h : d ≤ e) : f.targetExponent d ≤ f.targetExponent e :=
  max_le_max_right _ (sub_le_sub_right h _)

lemma quotient_lt (m : Nat) (hn : 0 < n) : (m : ℚ) / n < (m / n : Nat) + 1 := by
  rw [div_lt_iff₀ (by exact_mod_cast hn)]
  exact_mod_cast Nat.lt_mul_of_div_lt (Nat.lt_succ_self _) hn

lemma quotient_small (hn : 0 < n) (hlow : (2 : ℚ) ^ (d - 1) < m / n * 2 ^ e) (he : e ≤ f.targetExponent d)
    (ht : f.targetExponent (totalExponent (m / n) e) = t) (hzero : m / n = 0) :
    e ≤ t ∧ RoundedAt f (m / n * 2 ^ e) t := by
  have hless := quotient_lt m hn
  rw [hzero, Nat.cast_zero, zero_add] at hless
  have hsmall : (m : ℚ) / n * 2 ^ e < 2 ^ e := mul_lt_of_lt_one_left (by positivity) hless
  have hde : d - 1 < e := (zpow_lt_zpow_iff_right₀ (by norm_num : (1 : ℚ) < 2)).mp (hlow.trans hsmall)
  have hbits := mantissaBits_eq f
  have hmin : e ≤ f.minExponent := by
    unfold Format.targetExponent at he
    omega
  have htmin : t = f.minExponent := by
    rw [← ht, hzero]
    unfold Format.targetExponent totalExponent
    simp only [Nat.log2_zero]
    omega
  refine ⟨htmin ▸ hmin, htmin.ge, hsmall.trans_le ?_, .inr htmin⟩
  calc (2 : ℚ) ^ e ≤ 2 ^ t := zpow_le_zpow_right₀ (by norm_num) (htmin ▸ hmin)
    _ ≤ 2 ^ f.mantissaBits * 2 ^ t := le_mul_of_one_le_left (by positivity) (one_le_pow₀ (by norm_num))

lemma quotient_large (hn : 0 < n) (hlow : (2 : ℚ) ^ (d - 1) < m / n * 2 ^ e) (he : e ≤ f.targetExponent d)
    (ht : f.targetExponent (totalExponent (m / n) e) = t) (hpos : 0 < m / n) :
    e ≤ t ∧ RoundedAt f (m / n * 2 ^ e) t := by
  have hepos : (0 : ℚ) < 2 ^ e := by positivity
  have hlo := (two_zpow_totalExponent hpos e).1.trans (mul_le_mul_of_nonneg_right Nat.cast_div_le hepos.le)
  have hhi : (m : ℚ) / n * 2 ^ e < 2 ^ totalExponent (m / n) e := by
    have hsucc : ((m / n : Nat) : ℚ) + 1 ≤ 2 ^ ((m / n).log2 + 1) := by exact_mod_cast Nat.lt_log2_self
    calc (m : ℚ) / n * 2 ^ e < 2 ^ ((m / n).log2 + 1) * 2 ^ e :=
          mul_lt_mul_of_pos_right ((quotient_lt m hn).trans_le hsucc) hepos
      _ = 2 ^ totalExponent (m / n) e := by
        rw [← zpow_natCast, ← zpow_add₀ two_ne_zero]
        rfl
  have hd : d ≤ totalExponent (m / n) e := by
    have := (zpow_lt_zpow_iff_right₀ (by norm_num : (1 : ℚ) < 2)).mp (hlow.trans hhi)
    omega
  refine ⟨ht ▸ he.trans (targetExponent_mono f hd), ht ▸ least_targetExponent f _, hhi.trans_le ?_, ?_⟩
  · rw [← zpow_natCast, ← zpow_add₀ two_ne_zero]
    refine zpow_le_zpow_right₀ (by norm_num) ?_
    rw [← ht]
    unfold Format.targetExponent
    omega
  · by_cases hmin : t = f.minExponent
    · exact .inr hmin
    · refine .inl (le_trans (le_of_eq ?_) hlo)
      rw [← zpow_natCast, ← zpow_add₀ two_ne_zero]
      congr 1
      have hbits := mantissaBits_eq f
      unfold Format.targetExponent at ht
      omega

lemma isRounded_quotient (s : Sign) (hn : 0 < n) (hlow : (2 : ℚ) ^ (d - 1) < m / n * 2 ^ e)
    (he : e ≤ f.targetExponent d) : IsRounded f (s.apply 1 * (m / n * 2 ^ e))
      (roundWithAccuracy f s (m / n) e (accuracyOfFraction (m % n) n)) := by
  generalize ht : f.targetExponent (totalExponent (m / n) e) = t
  have hspec : e ≤ t ∧ RoundedAt f (m / n * 2 ^ e) t := by
    rcases Nat.eq_zero_or_pos (m / n) with hzero | hpos
    · exact quotient_small hn hlow he ht hzero
    · exact quotient_large hn hlow he ht hpos
  obtain ⟨r, hr, heq⟩ := exists_roundWithAccuracy (stands_quotient m hn) ht hspec.1 hspec.2.below s
  rw [heq]
  exact isRounded_settled s (by positivity) hspec.2 hr

theorem isRounded_div {x y : UnpackedFloat} (hx : Held f x) (hy : Held f y) (hne : exact y ≠ 0) :
    IsRounded f (exact x / exact y) (UnpackedFloat.div f x y) := by
  cases y with
  | notANumber => exact hy.elim
  | infinity t => exact hy.elim
  | zero t => exact absurd rfl hne
  | finite t n e hn =>
    cases x with
    | notANumber => exact hx.elim
    | infinity s => exact hx.elim
    | zero s =>
      have hzero : exact (.zero s) / exact (.finite t n e hn) = 0 := zero_div _
      rw [hzero]
      exact isRounded_zero _
    | finite s m d hm =>
      -- The exponent of the quotient that is computed, and the mantissa that is divided to have it.
      set u := min (d - e) (f.targetExponent (totalExponent m d - totalExponent n e))
      set k := (d - e - u).toNat
      have hdiv : UnpackedFloat.div f (.finite s m d hm) (.finite t n e hn) = roundWithAccuracy f (s / t)
          ((m <<< k) / n) u (accuracyOfFraction ((m <<< k) % n) n) := rfl
      have hquotient : ((m <<< k : Nat) : ℚ) / n * 2 ^ u = m * 2 ^ d / (n * 2 ^ e) := by
        have hnq : (n : ℚ) ≠ 0 := by exact_mod_cast hn.ne'
        have hpow : (2 : ℚ) ^ d = 2 ^ k * 2 ^ u * 2 ^ e := by
          rw [← zpow_natCast, ← zpow_add₀ two_ne_zero, ← zpow_add₀ two_ne_zero]
          congr 1
          omega
        rw [Nat.shiftLeft_eq, hpow]
        push_cast
        field_simp
      have hexact : exact (.finite s m d hm) / exact (.finite t n e hn) =
          (s / t).apply 1 * (m * 2 ^ d / (n * 2 ^ e)) := by
        rw [exact_finite, exact_finite, apply_div]
        cases t <;> simp [Sign.apply] <;> ring
      rw [hdiv, hexact, ← hquotient]
      refine isRounded_quotient (d := totalExponent m d - totalExponent n e) _ hn ?_ (min_le_right _ _)
      rw [hquotient, lt_div_iff₀ (by positivity)]
      calc (2 : ℚ) ^ (totalExponent m d - totalExponent n e - 1) * (n * 2 ^ e)
          < 2 ^ (totalExponent m d - totalExponent n e - 1) * 2 ^ totalExponent n e :=
            mul_lt_mul_of_pos_left (two_zpow_totalExponent hn e).2 (by positivity)
        _ = 2 ^ (totalExponent m d - 1) := by
          rw [← zpow_add₀ two_ne_zero]
          congr 1
          ring
        _ ≤ m * 2 ^ d := (two_zpow_totalExponent hm d).1

end Diorama.Binary
