import Diorama.Geometry.Vec3
import Diorama.Proofs.Scalar.Squares

namespace Diorama.Vec3

open Scalar

variable {v p : Vec3} {radius : Scalar}

def Near (v : Vec3) (radius : Scalar) (p : Vec3) : Prop :=
  (p.x.isFinite = true ∧ |value v.x - value p.x| ≤ value radius) ∧
    (p.z.isFinite = true ∧ |value v.z - value p.z| ≤ value radius)

lemma isFinite_iff : v.isFinite = true ↔ v.x.isFinite = true ∧ v.y.isFinite = true ∧ v.z.isFinite = true := by
  rw [isFinite, Bool.and_eq_true, Bool.and_eq_true, and_assoc]

lemma distanceSquared_eq (v p : Vec3) : v.distanceSquared p =
    (v.x - p.x) * (v.x - p.x) + (v.y - p.y) * (v.y - p.y) + (v.z - p.z) * (v.z - p.z) := rfl

theorem distanceSquared_comm (v p : Vec3) : v.distanceSquared p = p.distanceSquared v := by
  rw [distanceSquared_eq, distanceSquared_eq, square_sub_comm v.x, square_sub_comm v.y, square_sub_comm v.z]

/-- Each square is at most the computed sum, and rounding to a square below another does not hide a greater number. -/
theorem near_of_distanceSquared_lt (hv : v.isFinite = true) (hr : radius.isFinite = true) (h0 : 0 ≤ radius)
    (h : v.distanceSquared p < radius * radius) : v.Near radius p := by
  obtain ⟨hx, -, hz⟩ := isFinite_iff.mp hv
  rw [distanceSquared_eq] at h
  obtain ⟨hxy, hzn⟩ := not_isNaN_of_add (lt_iff.mp h).1
  obtain ⟨hxn, hyn⟩ := not_isNaN_of_add hxy
  have hx0 := square_nonneg (not_isNaN_of_mul hxn).1
  have hy0 := square_nonneg (not_isNaN_of_mul hyn).1
  have hz0 := square_nonneg (not_isNaN_of_mul hzn).1
  have hxy0 := Scalar.le_trans hx0 (le_add_right hx0 hy0)
  have hradius : |value radius| = value radius := abs_of_nonneg (value_nonneg hr h0)
  have hkept : ∀ a b : Scalar, a.isFinite = true → (a - b) * (a - b) < radius * radius →
      b.isFinite = true ∧ |value a - value b| ≤ value radius := by
    intro a b ha hlt
    have hlevel := hradius ▸ abs_level_lt_of_square_lt hr hlt
    exact (abs_sub_lt_value ha hr (not_isNaN_of_mul (lt_iff.mp hlt).1).1 hlevel).imp_right LT.lt.le
  refine ⟨hkept _ _ hx (Scalar.lt_of_le_of_lt ?_ h), hkept _ _ hz (Scalar.lt_of_le_of_lt (le_add_left hxy0 hz0) h)⟩
  exact Scalar.le_trans (le_add_right hx0 hy0) (le_add_right hxy0 hz0)

end Diorama.Vec3
