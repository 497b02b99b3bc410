import Diorama.Proofs.Scalar.Order
import Diorama.Proofs.Scalar.Rounding

namespace Diorama.Scalar

open Float.Model UnpackedFloat Binary

def exact : UnpackedFloat → ℚ
  | .finite s m e _ => s.apply m * 2 ^ e
  | _ => 0

def value (x : Scalar) : ℚ := exact x.toModel.unpack

variable {a b : Scalar} {s t : Sign} {m n : Nat} {d e : Int}

lemma Canonical.lt_iff {f : Format} (hm : Canonical f m d) (hn : Canonical f n e) :
    (m : ℚ) * 2 ^ d < n * 2 ^ e ↔ d < e ∨ d = e ∧ m < n := by
  -- A greater exponent goes with a mantissa of full length, and that outweighs every shorter number.
  have hstep : ∀ {m n : Nat} {d e : Int}, Canonical f m d → Canonical f n e → d < e →
      (m : ℚ) * 2 ^ d < n * 2 ^ e := by
    intro m n d e hm hn hlt
    have hfull : 2 ^ f.mantissaBitsWithoutImplicit ≤ n := hn.full.resolve_right (by have := hm.least; omega)
    have hshort : (m : ℚ) < 2 ^ f.mantissaBits := by exact_mod_cast hm.short
    have hfull' : (2 : ℚ) ^ f.mantissaBitsWithoutImplicit ≤ n := by exact_mod_cast hfull
    have hd : (0 : ℚ) < 2 ^ d := by positivity
    have hde : (2 : ℚ) * 2 ^ d ≤ 2 ^ e := by
      rw [← zpow_one_add₀ two_ne_zero]
      exact zpow_le_zpow_right₀ (by norm_num) (by omega)
    rw [mantissaBits_eq, pow_succ] at hshort
    nlinarith
  constructor
  · intro h
    rcases lt_trichotomy d e with hlt | rfl | hgt
    · exact Or.inl hlt
    · exact Or.inr ⟨rfl, by exact_mod_cast lt_of_mul_lt_mul_right h (by positivity)⟩
    · exact (lt_asymm h (hstep hn hm hgt)).elim
  · rintro (hlt | ⟨rfl, hlt⟩)
    · exact hstep hm hn hlt
    · exact mul_lt_mul_of_pos_right (by exact_mod_cast hlt) (by positivity)

def Held (f : Format) : UnpackedFloat → Prop
  | .zero _ => True
  | .finite _ m e _ => Canonical f m e
  | _ => False

lemma held_of_isFinite (h : a.isFinite = true) : Held .binary32 a.toModel.unpack := by
  change a.toModel.unpack.isFinite = true at h
  cases hu : a.toModel.unpack with
  | notANumber => simp [hu, UnpackedFloat.isFinite] at h
  | infinity s => simp [hu, UnpackedFloat.isFinite] at h
  | zero s => trivial
  | finite s m e hm => exact (canonical_of_unpack (by decide) hu).1

lemma isNaN_of_isFinite (h : a.isFinite = true) : a.isNaN = false := by
  change a.toModel.unpack.isFinite = true at h
  change a.toModel.unpack.isNaN = false
  cases hu : a.toModel.unpack <;> simp_all [UnpackedFloat.isFinite, UnpackedFloat.isNaN]

lemma exact_positive_pos {hm : 0 < m} : 0 < exact (.finite .positive m e hm) := by
  simp only [exact, Sign.apply]
  positivity

lemma exact_negative {hm : 0 < m} : exact (.finite .negative m e hm) = -exact (.finite .positive m e hm) := by
  simp [exact, Sign.apply]

lemma exact_neg_iff {hm : 0 < m} : exact (.finite s m e hm) < 0 ↔ s = .negative := by
  have := @exact_positive_pos m e hm
  cases s with
  | negative => simpa [exact_negative] using this
  | positive => simpa using this.le

lemma exact_pos_iff {hm : 0 < m} : 0 < exact (.finite s m e hm) ↔ s = .positive := by
  have := @exact_positive_pos m e hm
  cases s with
  | negative => simpa [exact_negative] using this.le
  | positive => simpa using this

lemma precedes_iff {f : Format} {x y : UnpackedFloat} (hx : Held f x) (hy : Held f y) :
    Precedes (key x) (key y) ↔ exact x < exact y := by
  cases x with
  | notANumber => exact hx.elim
  | infinity s => exact hx.elim
  | zero s =>
    cases y with
    | notANumber => exact hy.elim
    | infinity t => exact hy.elim
    | zero t => simp [key, Precedes, exact]
    | finite t n e hn =>
      rw [show exact (.zero s) = 0 from rfl, exact_pos_iff]
      cases t <;> simp [key, Precedes]
  | finite s m d hm =>
    cases y with
    | notANumber => exact hy.elim
    | infinity t => exact hy.elim
    | zero t =>
      rw [show exact (.zero t) = 0 from rfl, exact_neg_iff]
      cases s <;> simp [key, Precedes]
    | finite t n e hn =>
      have hlt := Canonical.lt_iff (show Canonical f m d from hx) (show Canonical f n e from hy)
      have hgt := Canonical.lt_iff (show Canonical f n e from hy) (show Canonical f m d from hx)
      have hm' := @exact_positive_pos m d hm
      have hn' := @exact_positive_pos n e hn
      cases s with
      | negative =>
        cases t with
        | negative =>
          rw [exact_negative, exact_negative, neg_lt_neg_iff]
          refine Iff.trans ?_ hgt.symm
          simp only [key, Precedes, lt_irrefl, false_or, true_and]
          omega
        | positive =>
          rw [exact_negative]
          exact iff_of_true (by simp [key, Precedes]) (by linarith)
      | positive =>
        cases t with
        | negative =>
          rw [exact_negative]
          exact iff_of_false (by simp [key, Precedes]) (by linarith)
        | positive =>
          refine Iff.trans ?_ hlt.symm
          simp only [key, Precedes, lt_irrefl, false_or, true_and]
          omega

lemma lt_iff_value (ha : a.isFinite = true) (hb : b.isFinite = true) : a < b ↔ value a < value b := by
  rw [lt_iff]
  simp only [isNaN_of_isFinite ha, isNaN_of_isFinite hb, true_and]
  exact precedes_iff (held_of_isFinite ha) (held_of_isFinite hb)

lemma le_iff_value (ha : a.isFinite = true) (hb : b.isFinite = true) : a ≤ b ↔ value a ≤ value b := by
  rw [le_iff_not_lt, lt_iff_value hb ha, not_lt]
  simp only [isNaN_of_isFinite ha, isNaN_of_isFinite hb, true_and]

lemma min_cases (ha : a.isFinite = true) (hb : b.isFinite = true) :
    (Scalar.min a b).isFinite = true ∧ value (Scalar.min a b) = min (value a) (value b) := by
  unfold Scalar.min
  simp only [isNaN_of_isFinite hb, Bool.false_eq_true, if_false]
  split
  · rename_i h
    exact ⟨ha, (min_eq_left ((lt_iff_value ha hb).mp h).le).symm⟩
  · rename_i h
    exact ⟨hb, (min_eq_right (not_lt.mp (mt (lt_iff_value ha hb).mpr h))).symm⟩

lemma max_cases (ha : a.isFinite = true) (hb : b.isFinite = true) :
    (Scalar.max a b).isFinite = true ∧ value (Scalar.max a b) = max (value a) (value b) := by
  unfold Scalar.max
  simp only [isNaN_of_isFinite hb, Bool.false_eq_true, if_false]
  split
  · rename_i h
    exact ⟨ha, (max_eq_left ((lt_iff_value hb ha).mp h).le).symm⟩
  · rename_i h
    exact ⟨hb, (max_eq_right (not_lt.mp (mt (lt_iff_value hb ha).mpr h))).symm⟩

lemma decreased_mul (m : Nat) {d e : Int} (h : e ≤ d) : ((decreaseExponent m d e).1 : ℚ) * 2 ^ e = m * 2 ^ d := by
  have hd : (2 : ℚ) ^ d = 2 ^ (d - e).toNat * 2 ^ e := by
    rw [← zpow_natCast, ← zpow_add₀ two_ne_zero]
    congr 1
    omega
  simp only [decreaseExponent, Nat.shiftLeft_eq]
  rw [hd]
  push_cast
  ring

lemma apply_cast (s : Sign) (m : Nat) : ((s.apply m : Int) : ℚ) = s.apply 1 * m := by
  cases s <;> simp [Sign.apply]

/-- The sign of a difference is that of the exact difference: rounding makes no zero of it. -/
lemma normalize_sided (n : Int) {e : Int} (he : Format.binary32.minExponent ≤ e) :
    Held .binary32 (UnpackedFloat.normalize .binary32 n e .positive) ∧
      (0 < exact (UnpackedFloat.normalize .binary32 n e .positive) ↔ 0 < n) := by
  unfold UnpackedFloat.normalize
  rcases lt_trichotomy n 0 with hn | rfl | hn
  · rw [Int.compare_eq_lt.mpr hn]
    obtain ⟨r, t, hr, hc, heq⟩ := round_pos .binary32 .negative (m := (-n).toNat) (by omega) he
    simp only [heq]
    exact ⟨hc, iff_of_false (by rw [exact_pos_iff]; simp) (by omega)⟩
  · exact ⟨trivial, iff_of_false (by simp [exact]) (lt_irrefl 0)⟩
  · rw [Int.compare_eq_gt.mpr hn]
    obtain ⟨r, t, hr, hc, heq⟩ := round_pos .binary32 .positive (m := n.toNat) (by omega) he
    simp only [heq]
    exact ⟨hc, iff_of_true (by rw [exact_pos_iff]) hn⟩

lemma sub_sided {x y : UnpackedFloat} (hx : Held .binary32 x) (hy : Held .binary32 y) :
    Held .binary32 (UnpackedFloat.sub .binary32 x y) ∧
      (0 < exact (UnpackedFloat.sub .binary32 x y) ↔ exact y < exact x) := by
  cases x with
  | notANumber => exact hx.elim
  | infinity s => exact hx.elim
  | zero s =>
    cases y with
    | notANumber => exact hy.elim
    | infinity t => exact hy.elim
    | zero t => cases s <;> cases t <;> exact ⟨trivial, iff_of_false (lt_irrefl 0) (lt_irrefl 0)⟩
    | finite t n e hn =>
      refine ⟨hy, ?_⟩
      rw [show exact (.zero s) = 0 from rfl, exact_neg_iff, UnpackedFloat.sub, exact_pos_iff]
      cases t <;> simp [Neg.neg]
  | finite s m d hm =>
    cases y with
    | notANumber => exact hy.elim
    | infinity t => exact hy.elim
    | zero t => exact ⟨hx, Iff.rfl⟩
    | finite t n e hn =>
      have hle : Format.binary32.minExponent ≤ min d e :=
        le_min (show Canonical _ m d from hx).least (show Canonical _ n e from hy).least
      obtain ⟨hh, hs⟩ := normalize_sided (s.apply (decreaseExponent m d (min d e)).1 -
        t.apply (decreaseExponent n e (min d e)).1) hle
      refine ⟨hh, hs.trans ?_⟩
      have hm' := decreased_mul m (min_le_left d e)
      have hn' := decreased_mul n (min_le_right d e)
      have hz : (0 : ℚ) < 2 ^ min d e := by positivity
      rw [sub_pos, ← Int.cast_lt (R := ℚ), ← mul_lt_mul_iff_left₀ hz, apply_cast, apply_cast, mul_assoc, mul_assoc,
        hm', hn']
      simp only [exact, apply_cast s m, apply_cast t n, mul_assoc]

lemma pos_pack_iff {x : UnpackedFloat} (hx : Held .binary32 x) :
    (0 : Scalar) < .ofModel (.pack x) ↔ 0 < exact x := by
  have hkey : orderKey 0 = (0, 0, 0) := by decide +kernel
  have hnan : Float32.isNaN 0 = false := by decide +kernel
  rw [lt_iff, hkey, hnan]
  change false = false ∧ (UnpackedFloat.unpack .binary32 (UnpackedFloat.pack .binary32 x)).isNaN = false ∧
    Precedes (0, 0, 0) (key (UnpackedFloat.unpack .binary32 (UnpackedFloat.pack .binary32 x))) ↔ _
  cases x with
  | notANumber => exact hx.elim
  | infinity s => exact hx.elim
  | zero s =>
    rw [unpack_pack_zero]
    simp [UnpackedFloat.isNaN, key, Precedes, exact]
  | finite s m e hm =>
    rw [exact_pos_iff]
    by_cases hmax : e ≤ maxExponent .binary32
    · rw [unpack_pack_finite hm hx hmax]
      cases s <;> simp [UnpackedFloat.isNaN, key, Precedes]
    · rw [pack_overflow hm (not_le.mp hmax), unpack_pack_infinity]
      cases s <;> simp [UnpackedFloat.isNaN, key, Precedes]

theorem sub_pos_iff (ha : a.isFinite = true) (hb : b.isFinite = true) : 0 < a - b ↔ value b < value a := by
  obtain ⟨hh, hs⟩ := sub_sided (held_of_isFinite ha) (held_of_isFinite hb)
  exact (pos_pack_iff hh).trans hs

lemma toNat_packComponents (s : Sign) (x : BitVec 8) (v : BitVec 23) :
    (packComponents .binary32 s x v).toNat = s.toBitVec.toNat * 2 ^ 31 + x.toNat * 2 ^ 23 + v.toNat := by
  have hx := x.isLt
  have hv := v.isLt
  rw [packComponents, BitVec.toNat_append, BitVec.toNat_append, ← Nat.shiftLeft_add_eq_or_of_lt hv,
    ← Nat.shiftLeft_add_eq_or_of_lt hx]
  simp only [Nat.shiftLeft_eq]
  ring

def place : UnpackedFloat → Int
  | .zero .positive => 0
  | .zero .negative => -1
  | .finite .positive m e _ => (e + 149) * 2 ^ 23 + m
  | .finite .negative m e _ => -1 - ((e + 149) * 2 ^ 23 + m)
  | _ => 0

lemma toNat_pack {hm : 0 < m} (hc : Canonical .binary32 m e) (hmax : e ≤ 104) :
    (UnpackedFloat.pack .binary32 (.finite s m e hm)).toNat =
      s.toBitVec.toNat * 2 ^ 31 + ((e + 149).toNat * 2 ^ 23 + m) := by
  have hshort : m < 2 ^ 24 := hc.short
  have hleast : -149 ≤ e := hc.least
  have hfits : ¬2 ^ 8 ≤ (e + 127 + 23).toNat + 1 := by omega
  have hpack : UnpackedFloat.pack .binary32 (.finite s m e hm) = if m.log2 + 1 = 24 then
      packComponents .binary32 s (BitVec.ofNat 8 (e + 127 + 23).toNat) (BitVec.ofNat 23 m)
      else packComponents .binary32 s 0#8 (BitVec.ofNat 23 m) := by
    simp only [UnpackedFloat.pack]
    exact if_neg hfits
  rw [hpack]
  by_cases hfull : 2 ^ 23 ≤ m
  · have hlog : m.log2 + 1 = 24 := by rw [(Nat.log2_eq_iff hm.ne').mpr ⟨hfull, hshort⟩]
    rw [if_pos hlog, toNat_packComponents, BitVec.toNat_ofNat, BitVec.toNat_ofNat, Nat.mod_eq_of_lt (by omega),
      Nat.mod_eq_sub_mod hfull, Nat.mod_eq_of_lt (by omega)]
    omega
  · have he : e = -149 := hc.full.resolve_left hfull
    have hlog : ¬m.log2 + 1 = 24 := by
      have := (Nat.log2_lt hm.ne').mpr (not_le.mp hfull)
      omega
    rw [if_neg hlog, toNat_packComponents, BitVec.toNat_ofNat, BitVec.toNat_ofNat, Nat.mod_eq_of_lt (not_le.mp hfull)]
    omega

lemma rank_eq_place (ha : a.isFinite = true) : rank a = place a.toModel.unpack := by
  have hbits : a.toBits.toNat = (UnpackedFloat.pack .binary32 a.toModel.unpack).toNat :=
    congrArg BitVec.toNat (pack_unpack_of_valid a.toModel.valid).symm
  have hheld := held_of_isFinite ha
  unfold rank
  rw [hbits]
  cases hu : a.toModel.unpack with
  | notANumber => exact (hu ▸ hheld).elim
  | infinity s => exact (hu ▸ hheld).elim
  | zero s => cases s <;> decide +kernel
  | finite s m e hm =>
    obtain ⟨hc, hmax⟩ := canonical_of_unpack (by decide) hu
    have hshort : m < 2 ^ 24 := hc.short
    have hleast : -149 ≤ e := hc.least
    replace hmax : e ≤ 104 := hmax
    rw [toNat_pack hc hmax]
    cases s <;> simp only [Sign.toBitVec, BitVec.toNat_ofNat, place] <;> split <;> omega

lemma place_lt_of_precedes {x y : UnpackedFloat} (hx : Held .binary32 x) (hy : Held .binary32 y)
    (h : Precedes (key x) (key y)) : place x < place y := by
  cases x with
  | notANumber => exact hx.elim
  | infinity s => exact hx.elim
  | zero s =>
    cases y with
    | notANumber => exact hy.elim
    | infinity t => exact hy.elim
    | zero t => simp [key, Precedes] at h
    | finite t n e hn =>
      have hleast : -149 ≤ e := (show Canonical .binary32 n e from hy).least
      cases s <;> cases t <;> simp [key, Precedes] at h <;> simp only [place] <;> omega
  | finite s m d hm =>
    have hd : -149 ≤ d := (show Canonical .binary32 m d from hx).least
    have hm' : m < 2 ^ 24 := (show Canonical .binary32 m d from hx).short
    cases y with
    | notANumber => exact hy.elim
    | infinity t => exact hy.elim
    | zero t => cases s <;> cases t <;> simp [key, Precedes] at h <;> simp only [place] <;> omega
    | finite t n e hn =>
      have he : -149 ≤ e := (show Canonical .binary32 n e from hy).least
      have hn' : n < 2 ^ 24 := (show Canonical .binary32 n e from hy).short
      have hdf : 2 ^ 23 ≤ m ∨ d = -149 := (show Canonical .binary32 m d from hx).full
      have hef : 2 ^ 23 ≤ n ∨ e = -149 := (show Canonical .binary32 n e from hy).full
      cases s <;> cases t <;> simp [key, Precedes] at h <;> simp only [place] <;> omega

theorem value_le_of_rank_le (ha : a.isFinite = true) (hb : b.isFinite = true) (h : rank a ≤ rank b) :
    value a ≤ value b := by
  have hha := held_of_isFinite ha
  have hhb := held_of_isFinite hb
  rw [rank_eq_place ha, rank_eq_place hb] at h
  rw [← not_lt, value, value, ← precedes_iff hhb hha]
  exact fun hlt => absurd (place_lt_of_precedes hhb hha hlt) (not_lt.mpr h)

end Diorama.Scalar
