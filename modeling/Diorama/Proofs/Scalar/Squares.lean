import Diorama.Proofs.Scalar.Arithmetic

/-! Squares of differences. A square below another is that of a number closer to zero, before rounding as after it, and
the square of a difference is that of the opposite one. -/

namespace Diorama.Scalar

open Float.Model UnpackedFloat Binary

variable {a b c d x y : Scalar} {q : ℚ} {s t : Sign}

lemma unpack_of_isNaN (h : a.isNaN = true) : a.toModel.unpack = .notANumber := by
  change a.toModel.unpack.isNaN = true at h
  cases hu : a.toModel.unpack <;> simp_all [UnpackedFloat.isNaN]

lemma not_isNaN_of_result (op : UnpackedFloat → UnpackedFloat → UnpackedFloat)
    (hleft : ∀ v, op .notANumber v = .notANumber) (hright : ∀ u, op u .notANumber = .notANumber)
    (h : (reread (op a.toModel.unpack b.toModel.unpack)).isNaN = false) : a.isNaN = false ∧ b.isNaN = false := by
  constructor
  · by_contra hn
    rw [unpack_of_isNaN ((Bool.not_eq_false _).mp hn), hleft, reread_notANumber] at h
    cases h
  · by_contra hn
    rw [unpack_of_isNaN ((Bool.not_eq_false _).mp hn), hright, reread_notANumber] at h
    cases h

lemma not_isNaN_of_add (h : (a + b).isNaN = false) : a.isNaN = false ∧ b.isNaN = false :=
  not_isNaN_of_result (UnpackedFloat.add .binary32) (fun _ => rfl) (fun u => by cases u <;> rfl) h

lemma not_isNaN_of_sub (h : (a - b).isNaN = false) : a.isNaN = false ∧ b.isNaN = false :=
  not_isNaN_of_result (UnpackedFloat.sub .binary32) (fun _ => rfl) (fun u => by cases u <;> rfl) h

lemma not_isNaN_of_mul (h : (a * b).isNaN = false) : a.isNaN = false ∧ b.isNaN = false :=
  not_isNaN_of_result (UnpackedFloat.mul .binary32) (fun _ => rfl) (fun u => by cases u <;> rfl) h

lemma unpack_sub_infinite (ha : a.isFinite = true) (hb : b.toModel.unpack = .infinity s) :
    (a - b).toModel.unpack = .infinity (-s) := by
  rcases eq_zero_or_finite ha with ⟨t, hu⟩ | ⟨t, m, e, hm, hu, -, -⟩ <;> rw [unpack_sub, hu, hb] <;>
    exact reread_infinity _

lemma unpack_square_infinite (h : d.toModel.unpack = .infinity s) : (d * d).toModel.unpack = .infinity .positive := by
  rw [unpack_mul, h]
  cases s <;> exact reread_infinity _

lemma square_nonneg (h : d.isNaN = false) : 0 ≤ d * d := by
  rcases finite_or_infinite h with hf | ⟨s, hu⟩
  · exact (makes_self isFinite_zero).le (makes_mul hf hf) ((level_of_isFinite isFinite_zero ▸ level_zero).trans_le
      (mul_self_nonneg _))
  · exact le_infinite (isNaN_of_isFinite isFinite_zero) (unpack_square_infinite hu)

lemma square_le_square (hx : x.isFinite = true) (hd : d.isNaN = false) (h : |value x| ≤ |level d|) : x * x ≤ d * d := by
  rcases finite_or_infinite hd with hf | ⟨s, hu⟩
  · rw [level_of_isFinite hf] at h
    exact (makes_mul hx hx).le (makes_mul hf hf) (abs_le_iff_mul_self_le.mp h)
  · exact le_infinite (makes_mul hx hx).1 (unpack_square_infinite hu)

lemma abs_level_lt_of_square_lt (hx : x.isFinite = true) (h : d * d < x * x) : |level d| < |value x| := by
  have hd := (not_isNaN_of_mul (lt_iff.mp h).1).1
  by_contra hle
  exact (le_iff_not_lt.mp (square_le_square hx hd (not_lt.mp hle))).2.2 h

lemma Makes.abs_lt_value (hx : x.Makes q) (hy : y.isFinite = true) (h : |level x| < value y) : |q| < value y := by
  obtain ⟨-, v, hv, hlevel⟩ := hx
  obtain ⟨hlow, hhigh⟩ := abs_lt.mp h
  have hself := (isRounded_self (held_of_isFinite hy)).2
  have hkept : clamp (value y) = value y := clamp_of_abs_le (abs_value_lt_limit hy).le
  have hkept' : clamp (-value y) = -value y := clamp_of_abs_le (abs_neg (value y) ▸ (abs_value_lt_limit hy).le)
  rw [hlevel] at hlow hhigh
  refine abs_lt.mpr ⟨?_, ?_⟩
  · by_contra hle
    have := clamp_mono (hv.mono hself.neg (not_lt.mp hle))
    exact absurd hlow (not_lt.mpr (this.trans_eq hkept'))
  · by_contra hle
    have := clamp_mono (hself.mono hv (not_lt.mp hle))
    exact absurd hhigh (not_lt.mpr (hkept.symm.trans_le this))

lemma abs_sub_lt_value (ha : a.isFinite = true) (hx : x.isFinite = true) (hn : (a - b).isNaN = false)
    (h : |level (a - b)| < value x) : b.isFinite = true ∧ |value a - value b| < value x := by
  rcases finite_or_infinite (not_isNaN_of_sub hn).2 with hb | ⟨s, hu⟩
  · exact ⟨hb, (makes_sub ha hb).abs_lt_value hx h⟩
  · have hlimit : |level (a - b)| = limit := by
      rw [level_of_infinite (unpack_sub_infinite ha hu), abs_mul, abs_of_pos limit_pos]
      cases s <;> exact one_mul _
    exact absurd (hlimit ▸ h) (not_lt.mpr ((le_abs_self _).trans (abs_value_lt_limit hx).le))

lemma mul_neg_neg (f : Format) (u : UnpackedFloat) :
    UnpackedFloat.mul f (UnpackedFloat.neg u) (UnpackedFloat.neg u) = UnpackedFloat.mul f u u := by
  cases u with
  | notANumber => rfl
  | infinity s => cases s <;> rfl
  | zero s => cases s <;> rfl
  | finite s m e hm => cases s <;> rfl

lemma round_neg (f : Format) (s : Sign) (m : Nat) (e : Int) :
    UnpackedFloat.round f (-s) m e = UnpackedFloat.neg (UnpackedFloat.round f s m e) := by
  simp only [UnpackedFloat.round, roundWithAccuracy, UnpackedFloat.neg]
  split <;> rfl

lemma normalize_neg (f : Format) {n : Int} (e : Int) (hn : n ≠ 0) : UnpackedFloat.normalize f (-n) e .positive =
    UnpackedFloat.neg (UnpackedFloat.normalize f n e .positive) := by
  unfold UnpackedFloat.normalize
  rcases lt_or_gt_of_ne hn with hn | hn
  · rw [Int.compare_eq_lt.mpr hn, Int.compare_eq_gt.mpr (Int.neg_pos.mpr hn)]
    exact round_neg f .negative _ e
  · rw [Int.compare_eq_gt.mpr hn, Int.compare_eq_lt.mpr (Int.neg_neg_of_pos hn), neg_neg]
    exact round_neg f .positive _ e

lemma sub_swap (f : Format) (u v : UnpackedFloat) :
    UnpackedFloat.sub f v u = UnpackedFloat.neg (UnpackedFloat.sub f u v) ∨
      ∃ s t, UnpackedFloat.sub f u v = .zero s ∧ UnpackedFloat.sub f v u = .zero t := by
  cases u with
  | notANumber => exact .inl (by cases v <;> rfl)
  | infinity s =>
    cases v with
    | notANumber => exact .inl rfl
    | infinity t => exact .inl (by cases s <;> cases t <;> rfl)
    | zero t => exact .inl rfl
    | finite t n d hn => exact .inl rfl
  | zero s =>
    cases v with
    | notANumber => exact .inl rfl
    | infinity t => exact .inl (by cases t <;> rfl)
    | zero t => exact .inr (by cases s <;> cases t <;> exact ⟨_, _, rfl, rfl⟩)
    | finite t n d hn => exact .inl (by cases t <;> rfl)
  | finite s m e hm =>
    cases v with
    | notANumber => exact .inl rfl
    | infinity t => exact .inl (by cases t <;> rfl)
    | zero t => exact .inl rfl
    | finite t n d hn =>
      simp only [UnpackedFloat.sub, min_comm d e]
      rw [← neg_sub (s.apply _)]
      generalize s.apply ((decreaseExponent m e (min e d)).1 : Int) -
        t.apply ((decreaseExponent n d (min e d)).1 : Int) = k
      by_cases hk : k = 0
      · exact .inr ⟨.positive, .positive, by rw [hk]; rfl, by rw [hk]; rfl⟩
      · exact .inl (normalize_neg f _ hk)

lemma reread_neg {u : UnpackedFloat} (h : Held .binary32 u ∨ u.isFinite = false) :
    reread (UnpackedFloat.neg u) = UnpackedFloat.neg (reread u) := by
  cases u with
  | notANumber => rfl
  | infinity s => rw [UnpackedFloat.neg, reread_infinity, reread_infinity, UnpackedFloat.neg]
  | zero s => rw [UnpackedFloat.neg, reread_zero, reread_zero, UnpackedFloat.neg]
  | finite s m e hm =>
    have hc : Canonical .binary32 m e := h.resolve_right (by simp [UnpackedFloat.isFinite])
    unfold UnpackedFloat.neg reread
    by_cases hmax : e ≤ maxExponent .binary32
    · rw [unpack_pack_finite hm hc hmax, unpack_pack_finite hm hc hmax]
    · have hlarge := not_le.mp hmax
      rw [pack_overflow hm hlarge, pack_overflow hm hlarge, unpack_pack_infinity, unpack_pack_infinity]

lemma held_sub (a b : Scalar) : Held .binary32 (UnpackedFloat.sub .binary32 a.toModel.unpack b.toModel.unpack) ∨
    (UnpackedFloat.sub .binary32 a.toModel.unpack b.toModel.unpack).isFinite = false := by
  have hcases : ∀ c : Scalar,
      c.isFinite = true ∨ c.toModel.unpack = .notANumber ∨ ∃ s, c.toModel.unpack = .infinity s := by
    intro c
    cases hn : c.isNaN with
    | true => exact .inr (.inl (unpack_of_isNaN hn))
    | false => exact (finite_or_infinite hn).imp_right .inr
  rcases hcases a with ha | ha | ⟨s, ha⟩
  · rcases hcases b with hb | hb | ⟨t, hb⟩
    · exact .inl (isRounded_sub (held_of_isFinite ha) (held_of_isFinite hb)).1
    · rw [hb]
      exact .inr (by cases a.toModel.unpack <;> rfl)
    · rw [hb]
      rcases eq_zero_or_finite ha with ⟨u, ha⟩ | ⟨u, m, e, hm, ha, -, -⟩ <;> rw [ha] <;> exact .inr rfl
  · rw [ha]
    exact .inr rfl
  · rw [ha]
    refine .inr ?_
    cases b.toModel.unpack with
    | infinity t => cases s <;> cases t <;> rfl
    | notANumber => rfl
    | zero t => rfl
    | finite t m e hm => rfl

theorem square_sub_comm (a b : Scalar) : (a - b) * (a - b) = (b - a) * (b - a) := by
  have hsquare : ∀ d : Scalar,
      d * d = .ofModel (.pack (UnpackedFloat.mul .binary32 d.toModel.unpack d.toModel.unpack)) := fun _ => rfl
  rw [hsquare, hsquare, unpack_sub, unpack_sub]
  rcases sub_swap .binary32 a.toModel.unpack b.toModel.unpack with h | ⟨s, t, hs, ht⟩
  · rw [h, reread_neg (held_sub a b), mul_neg_neg]
  · rw [hs, ht, reread_zero, reread_zero]
    cases s <;> cases t <;> rfl

end Diorama.Scalar
