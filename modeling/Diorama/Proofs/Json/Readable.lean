import Diorama.Proofs.Json.Rereading
import Diorama.Proofs.Scalar.Range

/-! The numeral of a finite number is read as a number. Its digits fit a significand or are cut, which makes it
smaller, and the product with the power of ten stays in range; only the greatest numbers leave so little room that
each is looked at on its own. -/

namespace Diorama

open Float.Model (Format UnpackedFloat)
open Binary

namespace NumberText

variable {t : NumberText}

lemma isSome_scale_of_neg (x : Float) (e : Int) (h : e < 0) : (scale x e).isSome = true := by
  rw [scale]
  split
  · split
    · rfl
    · exact isSome_scale_of_neg _ (e + 308) (by omega)
  · rfl
termination_by (-e).toNat

def limit : Nat := (2 ^ 54 - 1) * 2 ^ 970

lemma overflow_double : overflow .binary64 = limit := by
  have hmax : maxExponent .binary64 = ((1 + 970 : Nat) : Int) := by decide
  have hmantissa : ((2 ^ 54 - 1 : Nat) : ℚ) = 2 ^ 54 - 1 := by norm_num
  rw [overflow, hmax, zpow_natCast, pow_add, limit, Nat.cast_mul, Nat.cast_pow, Nat.cast_ofNat, hmantissa]
  change ((2 : ℚ) ^ 53 - 1 / 2) * _ = _
  generalize (2 : ℚ) ^ 970 = scale
  ring

lemma pow_lt_limit {k : Nat} (h : k ≤ 308) : 10 ^ k < limit :=
  (Nat.pow_le_pow_right (by decide) h).trans_lt (by decide +kernel)

lemma limit_lt_pow {k : Nat} (h : 309 ≤ k) : limit < 10 ^ k :=
  lt_of_lt_of_le (by decide +kernel) (Nat.pow_le_pow_right (by decide) h)

/-- A significand scaled by a power of ten has a result if the exact product, with room for two roundings, is in
range. -/
lemma isSome_scale {n : Nat} {e : Int} (h : (n : ℚ) * 10 ^ e * (1 + 1 / 2 ^ 53) ^ 2 < overflow .binary64) :
    (scale (nearest n) e).isSome = true := by
  rcases lt_or_ge e 0 with hneg | hpos
  · exact isSome_scale_of_neg _ e hneg
  · obtain ⟨k, rfl⟩ : ∃ k : Nat, e = k := ⟨e.toNat, (Int.toNat_of_nonneg hpos).symm⟩
    rw [zpow_natCast] at h
    rw [scale, if_neg (by omega), if_neg (by omega), Int.toNat_natCast]
    split
    · rename_i hle
      have hpow : ((Nat.pow 10 k : Nat) : ℚ) < overflow .binary64 := by
        rw [overflow_double, Nat.cast_lt]
        exact pow_lt_limit (by omega)
      have hproduct : (nearest n * nearest (Nat.pow 10 k)).isFinite = true := by
        refine isFinite_mul_nearest (Nat.pow_pos (by decide)) hpow ?_
        simpa using h
      rw [if_pos hproduct]
      rfl
    · rename_i hlt
      -- No power beyond the greatest one is in range, so that it can only be taken of zero.
      have hzero : n = 0 := by
        by_contra hne
        have hbig : limit < n * 10 ^ k :=
          (limit_lt_pow (by omega)).trans_le (Nat.le_mul_of_pos_left _ (Nat.pos_of_ne_zero hne))
        have hbig' : overflow .binary64 < n * 10 ^ k := by
          rw [overflow_double]
          exact_mod_cast hbig
        have hroom : (n : ℚ) * 10 ^ k ≤ n * 10 ^ k * (1 + 1 / 2 ^ 53) ^ 2 :=
          le_mul_of_one_le_right (by positivity) (by norm_num)
        linarith
      have heq : (nearest 0 == nearest 0) = true := by decide +kernel
      rw [hzero, if_pos heq]
      rfl

lemma scaled_le_value (t : NumberText) {taken unused : List Nat} (h : t.fraction.getD [] = taken ++ unused) :
    (magnitude (t.whole ++ taken) : ℚ) * 10 ^ (t.power - taken.length) ≤ t.value := by
  have hsplit : t.power - taken.length = t.power - ((taken ++ unused).length : Nat) + unused.length := by
    rw [List.length_append]
    push_cast
    ring
  have hle : magnitude (t.whole ++ taken) * 10 ^ unused.length ≤ magnitude (t.whole ++ (taken ++ unused)) := by
    rw [← List.append_assoc, magnitude_append (t.whole ++ taken)]
    exact Nat.le_add_right _ _
  have hle' : (magnitude (t.whole ++ taken) : ℚ) * 10 ^ unused.length ≤ magnitude (t.whole ++ (taken ++ unused)) := by
    exact_mod_cast hle
  rw [value, h, hsplit, zpow_add₀ (by norm_num), zpow_natCast, mul_comm (10 ^ _ : ℚ), ← mul_assoc]
  exact mul_le_mul_of_nonneg_right hle' (by positivity)

lemma isSome_float? (hwhole : t.whole.length ≤ 19) (hdigits : ∀ d ∈ t.whole, d < 10)
    (h : t.value * (1 + 1 / 2 ^ 53) ^ 2 < overflow .binary64) : t.float?.isSome = true := by
  have hfits : magnitude t.whole < UInt64.size :=
    (magnitude_lt hdigits).trans (lt_of_le_of_lt (Nat.pow_le_pow_right (by decide) hwhole) (by decide))
  have habsorb : absorb 0 t.whole = (magnitude t.whole, []) := by
    have hall := absorb_all (n := 0) t.whole (by rwa [zero_mul, zero_add])
    rwa [zero_mul, zero_add] at hall
  obtain ⟨taken, htaken, hvalue⟩ := absorb_split (magnitude t.whole) (t.fraction.getD [])
  rw [← magnitude_append] at hvalue
  have hexponent : (([] : List Nat).length : Int) -
      ((t.fraction.getD []).length - (absorb (magnitude t.whole) (t.fraction.getD [])).2.length) + t.power =
        t.power - taken.length := by
    have hlength := congrArg List.length htaken
    rw [List.length_append] at hlength
    rw [List.length_nil]
    omega
  have hscale := isSome_scale (lt_of_le_of_lt (mul_le_mul_of_nonneg_right (scaled_le_value t htaken) (by positivity)) h)
  obtain ⟨x, hx⟩ := Option.isSome_iff_exists.mp hscale
  simp only [float?, habsorb, hexponent, hvalue, hx, Option.bind_eq_bind, Option.bind_some]
  rfl

lemma isSome_float?_signed (t : NumberText) (negative : Bool) :
    ({ t with negative := negative } : NumberText).float?.isSome = t.float?.isSome := by
  simp only [float?, power, Option.bind_eq_bind, Option.isSome_bind]
  rfl

lemma exists_json_of_float? (hfloat : t.float?.isSome = true) (h : t.isWhole = false) : ∃ y, t.json = .real y := by
  obtain ⟨y, hy⟩ := Option.isSome_iff_exists.mp hfloat
  refine ⟨y, ?_⟩
  rw [json, h, Bool.not_false, if_pos rfl, hy]

end NumberText

namespace NumeralStyle

variable {n : NumeralStyle} {format : Format} {m : Nat} {e : Int}

lemma isSome_float?_spelling (greatest : Nat) (hn : n.greatest = some (greatest : Int))
    (hg : greatest ≤ 18) (hm : 0 < m)
    (h : ((m : ℚ) + 1 / 2) * 2 ^ e * (1 + 1 / 2 ^ 53) ^ 2 < overflow .binary64) :
    (n.spelling (n.shortest format m e)).float?.isSome = true := by
  obtain ⟨hpos, hvalue⟩ := RoundingInterval.shortest_spec n.tie (RoundingInterval.proper_around hm e
    (m = 1 <<< format.mantissaBitsWithoutImplicit && format.minExponent < e))
  have hhigh : (n.spelling (n.shortest format m e)).value ≤ ((m : ℚ) + 1 / 2) * 2 ^ e := by
    rw [value_spelling]
    refine hvalue.trans_eq ?_
    change ((4 * m + 2 : Nat) : ℚ) * 2 ^ (e - 2) = _
    rw [zpow_sub₀ two_ne_zero]
    push_cast
    ring
  refine NumberText.isSome_float? ((length_whole_spelling hn _).trans (by omega)) (proper_spelling n hpos).whole.2 ?_
  exact lt_of_le_of_lt (mul_le_mul_of_nonneg_right hhigh (by positivity)) h

lemma exists_json_spelled? {x : UnpackedFloat} {t : NumberText} (ht : n.spelled? format x = some t)
    (h : ∀ s m e hm, x = .finite s m e hm → (n.spelling (n.shortest format m e)).float?.isSome = true) :
    ∃ y, t.json = .real y := by
  cases x with
  | zero sign =>
    obtain rfl := Option.some.inj ht
    have hzero : (⟨false, [0], some [0], none⟩ : NumberText).float?.isSome = true := by decide +kernel
    exact NumberText.exists_json_of_float? ((NumberText.isSome_float?_signed _ _).trans hzero) rfl
  | finite sign m e hm =>
    obtain rfl := Option.some.inj ht
    refine NumberText.exists_json_of_float? ?_ (isWhole_spelling n _)
    rw [NumberText.isSome_float?_signed]
    exact h sign m e hm rfl
  | _ => cases ht

end NumeralStyle

namespace Json

/-- The greatest doubles are read, though their numerals leave no room for two roundings. -/
lemma isSome_float?_greatest : ∀ k < 3,
    (floatNumeral.spelling (floatNumeral.shortest .binary64 (2 ^ 53 - 3 + k) 971)).float?.isSome = true := by
  decide +kernel

lemma lt_overflow_of_le {q a unit : ℚ} (hunit : 0 < unit)
    (hoverflow : overflow .binary64 = (2 ^ 53 - 1 / 2) * (2 * unit))
    (hq : q ≤ a * unit) (ha : a * (1 + 1 / 2 ^ 53) ^ 2 < (2 ^ 53 - 1 / 2) * 2) :
    q * (1 + 1 / 2 ^ 53) ^ 2 < overflow .binary64 :=
  calc q * (1 + 1 / 2 ^ 53) ^ 2 ≤ a * unit * (1 + 1 / 2 ^ 53) ^ 2 := mul_le_mul_of_nonneg_right hq (by positivity)
    _ = a * (1 + 1 / 2 ^ 53) ^ 2 * unit := by ring
    _ < (2 ^ 53 - 1 / 2) * 2 * unit := mul_lt_mul_of_pos_right ha hunit
    _ = overflow .binary64 := by rw [hoverflow, mul_assoc]

lemma isSome_float?_real {m : Nat} {e : Int} (hm : 0 < m) (hc : Canonical .binary64 m e) (he : e ≤ 971) :
    (floatNumeral.spelling (floatNumeral.shortest .binary64 m e)).float?.isSome = true := by
  have hshort : m < 2 ^ 53 := hc.short
  have hunit : (0 : ℚ) < 2 ^ (970 : Int) := by positivity
  have hdouble : (2 : ℚ) ^ (971 : Int) = 2 * 2 ^ (970 : Int) := zpow_one_add₀ two_ne_zero 970
  have hoverflow : overflow .binary64 = (2 ^ 53 - 1 / 2) * (2 * 2 ^ (970 : Int)) := by
    have hmax : maxExponent .binary64 = 971 := by decide
    rw [overflow, hmax, hdouble]
    rfl
  rcases lt_or_eq_of_le he with hlt | rfl
  · -- Below the greatest exponent half the range is left.
    refine NumeralStyle.isSome_float?_spelling 15 rfl (by decide) hm
      (lt_overflow_of_le (a := 2 ^ 53 - 1 / 2) hunit hoverflow ?_ (by norm_num))
    have hm' : (m : ℚ) + 1 ≤ (2 ^ 53 : Nat) := by exact_mod_cast hshort
    have he' : (2 : ℚ) ^ e ≤ 2 ^ (970 : Int) := zpow_le_zpow_right₀ (by norm_num) (by omega)
    push_cast at hm'
    exact mul_le_mul (by linarith) he' (by positivity) (by norm_num)
  · rcases Nat.lt_or_ge m (2 ^ 53 - 3) with hless | hmore
    · -- Two roundings move a number by two of its last places at most.
      refine NumeralStyle.isSome_float?_spelling 15 rfl (by decide) hm
        (lt_overflow_of_le (a := (2 ^ 53 - 4 + 1 / 2) * 2) hunit hoverflow ?_ (by norm_num))
      have hm' : (m : ℚ) + 4 ≤ (2 ^ 53 : Nat) := by
        have hcast : m + 4 ≤ 2 ^ 53 := by omega
        exact_mod_cast hcast
      push_cast at hm'
      rw [hdouble, mul_assoc]
      exact mul_le_mul_of_nonneg_right (by linarith) (by positivity)
    · have hm' : 2 ^ 53 - 3 + (m - (2 ^ 53 - 3)) = m := by omega
      exact hm' ▸ isSome_float?_greatest (m - (2 ^ 53 - 3)) (by omega)

lemma isSome_float?_single {m : Nat} {e : Int} (hm : 0 < m) (hc : Canonical .binary32 m e) (he : e ≤ 104) :
    (scalarNumeral.spelling (scalarNumeral.shortest .binary32 m e)).float?.isSome = true := by
  have hshort : m < 2 ^ 24 := hc.short
  refine NumeralStyle.isSome_float?_spelling 12 rfl (by decide) hm ?_
  have hm' : (m : ℚ) + 1 ≤ (2 ^ 24 : Nat) := by exact_mod_cast hshort
  push_cast at hm'
  have he' : (2 : ℚ) ^ e ≤ 2 ^ (104 : Int) := zpow_le_zpow_right₀ (by norm_num) he
  have hproduct : ((m : ℚ) + 1 / 2) * 2 ^ e ≤ 2 ^ 24 * 2 ^ (104 : Int) :=
    mul_le_mul (by linarith) he' (by positivity) (by norm_num)
  have hbound : (2 : ℚ) ^ 24 * 2 ^ (104 : Int) * (1 + 1 / 2 ^ 53) ^ 2 < 10 ^ 40 := by norm_num
  have hlimit : (10 : ℚ) ^ 40 < overflow .binary64 := by
    rw [NumberText.overflow_double]
    exact_mod_cast NumberText.pow_lt_limit (k := 40) (by decide)
  exact ((mul_le_mul_of_nonneg_right hproduct (by positivity)).trans_lt hbound).trans hlimit

theorem exists_ofText?_real {x : Float} (h : x.isFinite = true) :
    ∃ y, ofText? (Json.real x).compact = some (.real y) := by
  obtain ⟨t, ht⟩ := NumeralStyle.exists_spelled? floatNumeral .binary64 h
  have hread : ofText? (Json.real x).compact = some t.json :=
    ofText?_numeral (NumeralStyle.proper_spelled? ht) (NumeralStyle.toList_unpacked plain_floatNumeral ht)
  obtain ⟨y, hy⟩ : ∃ y, t.json = .real y := by
    refine NumeralStyle.exists_json_spelled? ht fun s m e hm hx => ?_
    obtain ⟨hc, he⟩ := canonical_of_unpack (by decide) hx
    exact isSome_float?_real hm hc he
  exact ⟨y, hy ▸ hread⟩

theorem exists_ofText?_single {x : Scalar} (h : x.isFinite = true) :
    ∃ y, ofText? (Json.single x).compact = some (.real y) := by
  obtain ⟨t, ht⟩ := NumeralStyle.exists_spelled? scalarNumeral .binary32 h
  have hread : ofText? (Json.single x).compact = some t.json :=
    ofText?_numeral (NumeralStyle.proper_spelled? ht) (NumeralStyle.toList_unpacked plain_scalarNumeral ht)
  obtain ⟨y, hy⟩ : ∃ y, t.json = .real y := by
    refine NumeralStyle.exists_json_spelled? ht fun s m e hm hx => ?_
    obtain ⟨hc, he⟩ := canonical_of_unpack (by decide) hx
    exact isSome_float?_single hm hc he
  exact ⟨y, hy ▸ hread⟩

lemma exists_readBack_real {x : Float} (h : x.isFinite = true) : ∃ y, (Json.real x).readBack = .real y :=
  (exists_ofText?_real h).imp fun _ => readBack_of_ofText?

lemma exists_readBack_single {x : Scalar} (h : x.isFinite = true) : ∃ y, (Json.single x).readBack = .real y :=
  (exists_ofText?_single h).imp fun _ => readBack_of_ofText?

lemma readBack_single_of_not_finite {x : Scalar} (h : x.isFinite = false) : (Json.single x).readBack = .null :=
  readBack_of_ofText? (ofText?_missing (compact_single_of_not_finite h))

lemma ofText?_readBack {j j' : Json} (h : ofText? j.compact = some j') : ofText? j.compact = some j.readBack := by
  rw [readBack_of_ofText? h, h]

lemma ofText?_scalar (x : Scalar) : ofText? (scalarNumeral.scalar x) = some (Json.single x).readBack := by
  change ofText? (Json.single x).compact = _
  cases hx : Float32.isFinite x with
  | true => exact ofText?_readBack (exists_ofText?_single hx).choose_spec
  | false => exact ofText?_readBack (ofText?_missing (compact_single_of_not_finite hx))

lemma ofText?_float (x : Float) : ofText? (floatNumeral.float x) = some (Json.real x).readBack := by
  change ofText? (Json.real x).compact = _
  cases hx : x.isFinite with
  | true => exact ofText?_readBack (exists_ofText?_real hx).choose_spec
  | false => exact ofText?_readBack (ofText?_missing (compact_real_of_not_finite hx))

end Json

end Diorama
