import Diorama.Proofs.Scalar.Format

/-! Rounding to a binary format. The mantissa that is found is the nearest to the exact one, an even one on a tie,
and the result is in the form in which the format holds it. -/

namespace Diorama.Binary

open Float.Model UnpackedFloat

variable {f : Format} {s : Sign} {m k r : Nat} {e : Int} {q : ℚ}

def Nearest (q : ℚ) (r : Nat) : Prop := |q - r| ≤ 1 / 2 ∧ (|q - r| = 1 / 2 → r % 2 = 0)

lemma nearest_self (m : Nat) : Nearest m m := by
  constructor
  · simp
  · intro h
    norm_num at h

lemma Nearest.eq_of_nat (h : Nearest m r) : r = m := by
  have hb := abs_le.mp h.1
  have h1 : (r : ℚ) < m + 1 := by linarith
  have h2 : (m : ℚ) < r + 1 := by linarith
  have h1' : r < m + 1 := by exact_mod_cast h1
  have h2' : m < r + 1 := by exact_mod_cast h2
  omega

lemma Nearest.le (h : Nearest q r) (hq : q < m) : r ≤ m := by
  have hb := abs_le.mp h.1
  have hr : (r : ℚ) < m + 1 := by linarith
  have hr' : r < m + 1 := by exact_mod_cast hr
  omega

lemma Nearest.ge (h : Nearest q r) (hq : (m : ℚ) ≤ q) : m ≤ r := by
  have hb := abs_le.mp h.1
  have hr : (m : ℚ) < r + 1 := by linarith
  have hr' : m < r + 1 := by exact_mod_cast hr
  omega

/-! The bits kept behind a mantissa. -/

/-- Whether a mantissa with its two bits stands for a rational number: the first bit says whether the rest is at
least a half, the second whether more follows. -/
def Stands (x : ExtendedMantissa) (q : ℚ) : Prop :=
  match x.roundBit, x.stickyBit with
  | false, false => q = x.mantissa
  | false, true => (x.mantissa : ℚ) < q ∧ q < x.mantissa + 1 / 2
  | true, false => q = x.mantissa + 1 / 2
  | true, true => (x.mantissa : ℚ) + 1 / 2 < q ∧ q < x.mantissa + 1

lemma stands_exact (m : Nat) : Stands (.ofMantissaAndAccuracy m .exact) m := rfl

lemma Stands.rounded {x : ExtendedMantissa} (h : Stands x q) : Nearest q x.roundedMantissa := by
  obtain ⟨m, r, s⟩ := x
  unfold Nearest
  cases r with
  | false =>
    cases s with
    | false =>
      obtain rfl : q = m := h
      exact nearest_self m
    | true =>
      obtain ⟨hlo, hhi⟩ : (m : ℚ) < q ∧ q < m + 1 / 2 := h
      change |q - (m : ℚ)| ≤ 1 / 2 ∧ (|q - (m : ℚ)| = 1 / 2 → m % 2 = 0)
      rw [abs_of_pos (by linarith)]
      exact ⟨by linarith, fun h => by linarith⟩
  | true =>
    cases s with
    | false =>
      obtain rfl : q = m + 1 / 2 := h
      change |(m : ℚ) + 1 / 2 - ((m + m % 2 : Nat) : ℚ)| ≤ 1 / 2 ∧ (_ → (m + m % 2) % 2 = 0)
      refine ⟨?_, fun _ => by omega⟩
      rcases Nat.mod_two_eq_zero_or_one m with h | h <;> rw [h] <;> push_cast <;> rw [abs_le] <;>
        constructor <;> linarith
    | true =>
      obtain ⟨hlo, hhi⟩ : (m : ℚ) + 1 / 2 < q ∧ q < m + 1 := h
      change |q - ((m + 1 : Nat) : ℚ)| ≤ 1 / 2 ∧ (|q - ((m + 1 : Nat) : ℚ)| = 1 / 2 → (m + 1) % 2 = 0)
      push_cast
      rw [abs_of_neg (by linarith)]
      exact ⟨by linarith, fun h => by linarith⟩

lemma Stands.half {x : ExtendedMantissa} (h : Stands x q) : Stands x.shiftRightOne (q / 2) := by
  obtain ⟨m, r, s⟩ := x
  have hm : (m : ℚ) = 2 * (m / 2 : Nat) + (m % 2 : Nat) := by exact_mod_cast (Nat.div_add_mod m 2).symm
  rcases Nat.mod_two_eq_zero_or_one m with hmod | hmod <;> rw [hmod] at hm <;> push_cast at hm <;>
    cases r <;> cases s <;>
    simp only [Stands, ExtendedMantissa.shiftRightOne, hmod, bne_self_eq_false, Bool.or_false, Bool.or_true,
      Bool.or_self, show ((1 : Nat) != 0) = true from rfl] at h ⊢
  all_goals first | linarith | exact ⟨by linarith, by linarith⟩

lemma Stands.shift {x : ExtendedMantissa} (h : Stands x q) (k : Nat) : Stands (x >>> k) (q / 2 ^ k) := by
  induction k with
  | zero => simpa [HShiftRight.hShiftRight, Nat.repeat] using h
  | succ k ih =>
    rw [pow_succ, ← div_div]
    exact ih.half

lemma nearest_shift (m k : Nat) :
    Nearest ((m : ℚ) / 2 ^ k) (ExtendedMantissa.ofMantissaAndAccuracy m .exact >>> k).roundedMantissa :=
  ((stands_exact m).shift k).rounded

/-! The exponent that a format gives a number. -/

lemma least_targetExponent (f : Format) (e : Int) : f.minExponent ≤ f.targetExponent e := le_max_right _ _

lemma targetExponent_of_canonical (h : Canonical f m e) (hm : 0 < m) :
    f.targetExponent (totalExponent m e) = e := by
  have hlog := log2_lt_mantissaBits h.short
  have hbits := mantissaBits_eq f
  have hleast := h.least
  unfold Format.targetExponent totalExponent
  rcases h.full with hn | rfl
  · have := (Nat.le_log2 hm.ne').mpr hn
    omega
  · omega

lemma log2_shiftLeft (hm : 0 < m) (k : Nat) : (m <<< k).log2 = m.log2 + k := by
  induction k with
  | zero => simp
  | succ k ih =>
    have hk : m <<< (k + 1) = 2 * (m <<< k) := by
      simp only [Nat.shiftLeft_eq, pow_succ]
      ring
    rw [hk, Nat.log2_two_mul (Nat.shiftLeft_pos_iff.mpr hm).ne', ih]
    rfl

lemma totalExponent_shiftLeft (hm : 0 < m) (k : Nat) (e : Int) :
    totalExponent (m <<< k) (e - k) = totalExponent m e := by
  unfold totalExponent
  rw [log2_shiftLeft hm]
  push_cast
  ring

lemma shiftToTargetExponent_of_le (h : f.targetExponent (totalExponent m e) ≤ e) (a : Accuracy) :
    shiftToTargetExponent f m e a = (.ofMantissaAndAccuracy m a, e) := by
  have hk : (f.targetExponent (totalExponent m e) - e).toNat = 0 := by omega
  simp [shiftToTargetExponent, shiftToExponent, hk, HShiftRight.hShiftRight, Nat.repeat]

def settled (f : Format) (s : Sign) (r : Nat) (e : Int) : UnpackedFloat :=
  if h : r = 0 then .zero s
  else if r < 2 ^ f.mantissaBits then .finite s r e (Nat.pos_of_ne_zero h)
  else .finite s (2 ^ f.mantissaBitsWithoutImplicit) (e + 1) (Nat.two_pow_pos _)

lemma roundWithAccuracy_eq (f : Format) (s : Sign) (m : Nat) (e : Int) (a : Accuracy)
    (hr : (shiftToTargetExponent f m e a).1.roundedMantissa ≤ 2 ^ f.mantissaBits)
    (he : f.minExponent ≤ (shiftToTargetExponent f m e a).2) :
    roundWithAccuracy f s m e a = settled f s (shiftToTargetExponent f m e a).1.roundedMantissa
      (shiftToTargetExponent f m e a).2 := by
  unfold roundWithAccuracy settled
  generalize shiftToTargetExponent f m e a = first at hr he ⊢
  obtain ⟨x, t⟩ := first
  dsimp only at hr he ⊢
  generalize x.roundedMantissa = r at hr ⊢
  have hbits := mantissaBits_eq f
  by_cases hsmall : r < 2 ^ f.mantissaBits
  · have ht : f.targetExponent (totalExponent r t) ≤ t := by
      have := log2_lt_mantissaBits hsmall
      unfold Format.targetExponent totalExponent
      omega
    simp only [shiftToTargetExponent_of_le ht, hsmall, if_true]
    rfl
  · obtain rfl : r = 2 ^ f.mantissaBits := le_antisymm hr (not_lt.mp hsmall)
    have ht : f.targetExponent (totalExponent (2 ^ f.mantissaBits) t) = t + 1 := by
      unfold Format.targetExponent totalExponent
      rw [Nat.log2_two_pow]
      omega
    have hone : (t + 1 - t).toNat = 1 := by omega
    have hhalf : 2 ^ f.mantissaBits / 2 = 2 ^ f.mantissaBitsWithoutImplicit := by
      rw [hbits, pow_succ, Nat.mul_div_cancel _ (by decide)]
    have hshift : shiftToTargetExponent f (2 ^ f.mantissaBits) t .exact =
        (⟨2 ^ f.mantissaBitsWithoutImplicit, 2 ^ f.mantissaBits % 2 != 0, false⟩, t + 1) := by
      simp only [shiftToTargetExponent, ht, shiftToExponent, hone, ← hhalf]
      rfl
    simp only [hshift, lt_irrefl, if_false, (Nat.two_pow_pos f.mantissaBits).ne',
      (Nat.two_pow_pos f.mantissaBitsWithoutImplicit).ne', dite_false]

lemma value_lt_at_target (f : Format) (m : Nat) (e : Int) :
    (m : ℚ) * 2 ^ (e - f.targetExponent (totalExponent m e)) < 2 ^ f.mantissaBits := by
  set t := f.targetExponent (totalExponent m e)
  have hlt : (m : ℚ) < 2 ^ (m.log2 + 1) := by exact_mod_cast Nat.lt_log2_self
  calc (m : ℚ) * 2 ^ (e - t) < 2 ^ (m.log2 + 1) * 2 ^ (e - t) := by
        exact mul_lt_mul_of_pos_right hlt (by positivity)
    _ = 2 ^ ((m.log2 + 1 : Nat) + (e - t)) := by rw [zpow_add₀ two_ne_zero, zpow_natCast]
    _ ≤ 2 ^ (f.mantissaBits : Int) := by
        refine zpow_le_zpow_right₀ (by norm_num) ?_
        have : totalExponent m e - f.mantissaBits ≤ t := le_max_left _ _
        unfold totalExponent at this
        push_cast
        omega
    _ = 2 ^ f.mantissaBits := zpow_natCast _ _

lemma le_value_at_target (hm : 0 < m) (hmin : f.targetExponent (totalExponent m e) ≠ f.minExponent) :
    ((2 ^ f.mantissaBitsWithoutImplicit : Nat) : ℚ) ≤ m * 2 ^ (e - f.targetExponent (totalExponent m e)) := by
  have htarget : f.targetExponent (totalExponent m e) = totalExponent m e - f.mantissaBits :=
    (max_choice (totalExponent m e - f.mantissaBits) f.minExponent).resolve_right hmin
  have hself : ((2 : ℚ) ^ m.log2) ≤ m := by exact_mod_cast Nat.log2_self_le hm.ne'
  have hexp : (f.mantissaBitsWithoutImplicit : Int) = m.log2 + (e - f.targetExponent (totalExponent m e)) := by
    have hbits := mantissaBits_eq f
    rw [htarget]
    unfold totalExponent
    omega
  calc ((2 ^ f.mantissaBitsWithoutImplicit : Nat) : ℚ)
      = 2 ^ (f.mantissaBitsWithoutImplicit : Int) := by push_cast; rw [zpow_natCast]
    _ = 2 ^ m.log2 * 2 ^ (e - f.targetExponent (totalExponent m e)) := by
        rw [hexp, zpow_add₀ two_ne_zero, zpow_natCast]
    _ ≤ m * 2 ^ (e - f.targetExponent (totalExponent m e)) := mul_le_mul_of_nonneg_right hself (by positivity)

/-- Rounding a positive dyadic number takes its mantissa at the exponent that the format gives it, rounds it to
the nearest integer, and makes a number of it. -/
theorem round_eq (f : Format) (s : Sign) (hm : 0 < m) (e : Int) :
    ∃ r, Nearest (m * 2 ^ (e - f.targetExponent (totalExponent m e))) r ∧ r ≤ 2 ^ f.mantissaBits ∧
      (2 ^ f.mantissaBitsWithoutImplicit ≤ r ∨ f.targetExponent (totalExponent m e) = f.minExponent) ∧
      UnpackedFloat.round f s m e = settled f s r (f.targetExponent (totalExponent m e)) := by
  have hbelow := value_lt_at_target f m e
  have habove := le_value_at_target (f := f) (e := e) hm
  set t := f.targetExponent (totalExponent m e) with ht
  -- First the exponent is lowered to the format's, then the mantissa is shortened to it: one of the two does nothing.
  let j := (e - t).toNat
  let k := (t - (e - j)).toNat
  have hdown : f.targetExponent (totalExponent (m <<< j) (e - j)) = t := by
    rw [totalExponent_shiftLeft hm]
  have hk : (e - (j : Int)) + k = t := by omega
  have hfirst : shiftToTargetExponent f (m <<< j) (e - j) .exact =
      (ExtendedMantissa.ofMantissaAndAccuracy (m <<< j) .exact >>> k, t) := by
    simp only [shiftToTargetExponent, hdown, shiftToExponent]
    rw [hk]
  have hvalue : ((m <<< j : Nat) : ℚ) / 2 ^ k = m * 2 ^ (e - t) := by
    have he : e - t = j - k := by omega
    rw [he, zpow_sub₀ two_ne_zero, zpow_natCast, zpow_natCast, Nat.shiftLeft_eq]
    push_cast
    ring
  have hn : Nearest (m * 2 ^ (e - t))
      (ExtendedMantissa.ofMantissaAndAccuracy (m <<< j) .exact >>> k).roundedMantissa := by
    rw [← hvalue]
    exact nearest_shift _ _
  have hle := hn.le (m := 2 ^ f.mantissaBits) (by exact_mod_cast hbelow)
  refine ⟨_, hn, hle, ?_, ?_⟩
  · by_cases hmin : t = f.minExponent
    · exact Or.inr hmin
    · exact Or.inl (hn.ge (habove hmin))
  · have hround : UnpackedFloat.round f s m e = roundWithAccuracy f s (m <<< j) (e - j) .exact := rfl
    rw [hround, roundWithAccuracy_eq]
    · rw [hfirst]
    · rw [hfirst]
      exact hle
    · rw [hfirst]
      exact least_targetExponent f _

/-! What rounding gives. -/

lemma settled_of_canonical (h : Canonical f m e) (hm : 0 < m) (s : Sign) : settled f s m e = .finite s m e hm := by
  simp only [settled, hm.ne', h.short, dite_false, if_true]

lemma exists_settled (s : Sign) (hr : 0 < r) (he : f.minExponent ≤ e)
    (hfull : 2 ^ f.mantissaBitsWithoutImplicit ≤ r ∨ e = f.minExponent) :
    ∃ r' t, ∃ hr' : 0 < r', Canonical f r' t ∧ settled f s r e = .finite s r' t hr' := by
  by_cases hshort : r < 2 ^ f.mantissaBits
  · exact ⟨r, e, hr, ⟨hshort, he, hfull⟩, settled_of_canonical ⟨hshort, he, hfull⟩ hr s⟩
  · refine ⟨2 ^ f.mantissaBitsWithoutImplicit, e + 1, Nat.two_pow_pos _, ⟨?_, by omega, Or.inl le_rfl⟩, ?_⟩
    · exact Nat.pow_lt_pow_right (by decide) (mantissaBits_eq f ▸ Nat.lt_succ_self _)
    · simp only [settled, hr.ne', hshort, dite_false, if_false]

lemma two_zpow_totalExponent (hm : 0 < m) (e : Int) :
    (2 : ℚ) ^ (totalExponent m e - 1) ≤ m * 2 ^ e ∧ (m : ℚ) * 2 ^ e < 2 ^ totalExponent m e := by
  have hlo : (2 : ℚ) ^ m.log2 ≤ m := by exact_mod_cast Nat.log2_self_le hm.ne'
  have hhi : (m : ℚ) < 2 ^ (m.log2 + 1) := by exact_mod_cast Nat.lt_log2_self
  have he : (0 : ℚ) < 2 ^ e := by positivity
  have h1 : totalExponent m e - 1 = (m.log2 : Int) + e := by
    unfold totalExponent
    ring
  have h2 : totalExponent m e = ((m.log2 + 1 : Nat) : Int) + e := by
    unfold totalExponent
    push_cast
    ring
  rw [h1, h2, zpow_add₀ two_ne_zero, zpow_add₀ two_ne_zero, zpow_natCast, zpow_natCast]
  exact ⟨mul_le_mul_of_nonneg_right hlo he.le, mul_lt_mul_of_pos_right hhi he⟩

lemma totalExponent_le_of_value {m' : Nat} {e' : Int} (hm : 0 < m) (hm' : 0 < m')
    (hv : (m : ℚ) * 2 ^ e ≤ m' * 2 ^ e') : totalExponent m e ≤ totalExponent m' e' := by
  have h := ((two_zpow_totalExponent hm e).1.trans hv).trans_lt (two_zpow_totalExponent hm' e').2
  have := (zpow_lt_zpow_iff_right₀ (by norm_num : (1 : ℚ) < 2)).mp h
  omega

theorem round_of_canonical (h : Canonical f r e) (hr : 0 < r) (s : Sign) {e' : Int}
    (hv : (m : ℚ) * 2 ^ e' = r * 2 ^ e) : UnpackedFloat.round f s m e' = .finite s r e hr := by
  have hm : 0 < m := by
    rcases Nat.eq_zero_or_pos m with rfl | hm
    · have : (0 : ℚ) < r * 2 ^ e := by positivity
      rw [← hv] at this
      simp at this
    · exact hm
  have htotal : totalExponent m e' = totalExponent r e :=
    le_antisymm (totalExponent_le_of_value hm hr hv.le) (totalExponent_le_of_value hr hm hv.ge)
  obtain ⟨r', hn, -, -, heq⟩ := round_eq f s hm e'
  rw [htotal, targetExponent_of_canonical h hr] at hn heq
  have hq : (m : ℚ) * 2 ^ (e' - e) = r := by
    rw [zpow_sub₀ two_ne_zero, mul_div_assoc', hv, mul_div_cancel_right₀ _ (by positivity)]
  rw [hq] at hn
  rw [heq, hn.eq_of_nat, settled_of_canonical h hr]

theorem round_pos (f : Format) (s : Sign) (hm : 0 < m) (he : f.minExponent ≤ e) :
    ∃ r t, ∃ hr : 0 < r, Canonical f r t ∧ UnpackedFloat.round f s m e = .finite s r t hr := by
  obtain ⟨r, hn, -, hfull, heq⟩ := round_eq f s hm e
  have hleast := least_targetExponent f (totalExponent m e)
  rw [heq]
  refine exists_settled s ?_ hleast hfull
  rcases hfull with hfull | hmin
  · exact (Nat.two_pow_pos _).trans_le hfull
  · have hone : ((1 : Nat) : ℚ) ≤ m * 2 ^ (e - f.targetExponent (totalExponent m e)) := by
      have hm1 : (1 : ℚ) ≤ m := by exact_mod_cast hm
      have hz : (1 : ℚ) ≤ 2 ^ (e - f.targetExponent (totalExponent m e)) :=
        one_le_zpow₀ (by norm_num) (by omega)
      simpa using one_le_mul_of_one_le_of_one_le hm1 hz
    exact hn.ge hone

end Diorama.Binary
