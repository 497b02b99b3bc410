import Diorama.Scalar
import Mathlib.Logic.Basic

namespace Diorama.Scalar

open Float.Model

def key : UnpackedFloat → Int × Int × Int
  | .notANumber => (0, 0, 0)
  | .infinity .negative => (-2, 0, 0)
  | .infinity .positive => (2, 0, 0)
  | .zero _ => (0, 0, 0)
  | .finite .negative mantissa exponent _ => (-1, -exponent, -mantissa)
  | .finite .positive mantissa exponent _ => (1, exponent, mantissa)

def compareKeys (p q : Int × Int × Int) : Ordering :=
  (compare p.1 q.1).then ((compare p.2.1 q.2.1).then (compare p.2.2 q.2.2))

def Precedes (p q : Int × Int × Int) : Prop :=
  p.1 < q.1 ∨ p.1 = q.1 ∧ (p.2.1 < q.2.1 ∨ p.2.1 = q.2.1 ∧ p.2.2 < q.2.2)

lemma compare_neg (m n : Int) : compare (-m) (-n) = (compare m n).swap := by
  simp only [compare, compareOfLessAndEq]
  grind [Ordering.swap]

lemma compare_cast (m n : Nat) : compare (m : Int) (n : Int) = compare m n := by
  simp only [compare, compareOfLessAndEq]
  grind

lemma compare_eq_compareKeys (x y : UnpackedFloat) :
    x.compare y = if x.isNaN || y.isNaN then none else some (compareKeys (key x) (key y)) := by
  cases x with
  | notANumber => cases y <;> rfl
  | infinity s =>
    cases y with
    | infinity t => cases s <;> cases t <;> rfl
    | notANumber => cases s <;> rfl
    | zero t => cases s <;> rfl
    | finite t m e h => cases s <;> cases t <;> rfl
  | zero s =>
    cases y with
    | infinity t => cases t <;> rfl
    | notANumber => rfl
    | zero t => rfl
    | finite t m e h => cases t <;> rfl
  | finite s m e h =>
    cases y with
    | infinity t => cases s <;> cases t <;> rfl
    | notANumber => cases s <;> rfl
    | zero t => cases s <;> rfl
    | finite t m' e' h' =>
      cases s with
      | negative =>
        cases t with
        | negative =>
          change some ((compare e e').then (compare m m')).swap =
            some (compareKeys (-1, -e, -(m : Int)) (-1, -e', -(m' : Int)))
          simp [compareKeys, compare_neg, compare_cast, Ordering.swap_then]
        | positive => rfl
      | positive =>
        cases t with
        | negative => rfl
        | positive =>
          change some ((compare e e').then (compare m m')) = some (compareKeys (1, e, (m : Int)) (1, e', (m' : Int)))
          simp [compareKeys, compare_cast]

lemma compareKeys_eq_lt_iff {p q : Int × Int × Int} : compareKeys p q = .lt ↔ Precedes p q := by
  simp only [compareKeys, Precedes, Ordering.then_eq_lt, Int.compare_eq_lt, Int.compare_eq_eq]

lemma compareKeys_eq_gt_iff {p q : Int × Int × Int} : compareKeys p q = .gt ↔ Precedes q p := by
  simp only [compareKeys, Precedes, Ordering.then_eq_gt, Int.compare_eq_gt, Int.compare_eq_eq,
    eq_comm (a := p.1), eq_comm (a := p.2.1)]

variable {a b c : Scalar}

def orderKey (x : Scalar) : Int × Int × Int := key x.toModel.unpack

lemma compare_eq (a b : Scalar) : a.toModel.unpack.compare b.toModel.unpack =
    if a.isNaN || b.isNaN then none else some (compareKeys (orderKey a) (orderKey b)) :=
  compare_eq_compareKeys _ _

lemma lt_iff : a < b ↔ a.isNaN = false ∧ b.isNaN = false ∧ Precedes (orderKey a) (orderKey b) := by
  change a.lt b = true ↔ _
  rw [Float32.lt, decide_eq_true_iff]
  change (a.toModel.unpack.compare b.toModel.unpack == some .lt) = true ↔ _
  rw [compare_eq, beq_iff_eq, ← compareKeys_eq_lt_iff]
  cases Float32.isNaN a <;> cases Float32.isNaN b <;> simp

lemma le_iff : a ≤ b ↔ a.isNaN = false ∧ b.isNaN = false ∧ ¬Precedes (orderKey b) (orderKey a) := by
  change a.le b = true ↔ _
  rw [Float32.le, decide_eq_true_iff]
  change (a.toModel.unpack.compare b.toModel.unpack).any (·.isLE) = true ↔ _
  rw [compare_eq, ← compareKeys_eq_gt_iff]
  cases Float32.isNaN a <;> cases Float32.isNaN b <;> simp
  cases compareKeys (orderKey a) (orderKey b) <;> simp

lemma le_iff_not_lt : a ≤ b ↔ a.isNaN = false ∧ b.isNaN = false ∧ ¬b < a := by
  rw [le_iff, lt_iff]
  constructor
  · rintro ⟨ha, hb, h⟩
    exact ⟨ha, hb, fun hba => h hba.2.2⟩
  · rintro ⟨ha, hb, h⟩
    exact ⟨ha, hb, fun hba => h ⟨hb, ha, hba⟩⟩

lemma lt_iff_not_le : a < b ↔ a.isNaN = false ∧ b.isNaN = false ∧ ¬b ≤ a := by
  rw [le_iff, lt_iff]
  constructor
  · rintro ⟨ha, hb, h⟩
    exact ⟨ha, hb, fun hba => hba.2.2 h⟩
  · rintro ⟨ha, hb, h⟩
    exact ⟨ha, hb, Classical.byContradiction fun hab => h ⟨hb, ha, hab⟩⟩

lemma Precedes.trans {p q r : Int × Int × Int} (hpq : Precedes p q) (hqr : Precedes q r) : Precedes p r := by
  unfold Precedes at *
  omega

lemma Precedes.asymm {p q : Int × Int × Int} (hpq : Precedes p q) : ¬Precedes q p := by
  unfold Precedes at *
  omega

lemma le_of_lt (h : a < b) : a ≤ b := by
  obtain ⟨ha, hb, hab⟩ := lt_iff.mp h
  exact le_iff.mpr ⟨ha, hb, hab.asymm⟩

lemma lt_trans (hab : a < b) (hbc : b < c) : a < c := by
  obtain ⟨ha, _, h1⟩ := lt_iff.mp hab
  obtain ⟨_, hc, h2⟩ := lt_iff.mp hbc
  exact lt_iff.mpr ⟨ha, hc, h1.trans h2⟩

lemma le_trans (hab : a ≤ b) (hbc : b ≤ c) : a ≤ c := by
  obtain ⟨ha, _, h1⟩ := le_iff.mp hab
  obtain ⟨_, hc, h2⟩ := le_iff.mp hbc
  refine le_iff.mpr ⟨ha, hc, ?_⟩
  unfold Precedes at *
  omega

end Diorama.Scalar
