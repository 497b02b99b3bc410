import Diorama.Pipeline.Template
import Diorama.Proofs.Scalar.Products
import Diorama.Proofs.Spatial.Placement

namespace Diorama.Template

open Rings

/-- That cosines and sines of finite angles lie between minus one and one. -/
def TurnsWithinUnit : Prop :=
  ∀ angle : Scalar, angle.isFinite = true → Scalar.IsFraction angle.cos ∧ Scalar.IsFraction angle.sin

lemma within_landmarks :
    within (ground.placementReach ⟨0, 0.5, 0⟩ landmarkSpacing landmarkCount) (step landmarkSpacing) = 17 := by
  decide +kernel

lemma isFinite_radius : ∀ k ≤ 17, (scalar k * step landmarkSpacing).isFinite = true := by decide +kernel

lemma isFinite_angle : ∀ k ≤ 17, ∀ i < 5 * k, (fullTurn * scalar i / scalar (5 * k)).isFinite = true := by
  decide +kernel

variable (hturns : TurnsWithinUnit)

include hturns

lemma isFinite_of_mem_ring {k : Nat} (hk : k ≤ 17) {place : Vec3}
    (h : place ∈ ring ⟨0, 0.5, 0⟩ (step landmarkSpacing) k) : place.isFinite = true := by
  cases k with
  | zero =>
    obtain rfl := List.mem_singleton.mp h
    decide
  | succ k =>
    obtain ⟨i, hi, rfl⟩ := List.mem_map.mp h
    obtain ⟨hcos, hsin⟩ := hturns _ (isFinite_angle _ hk i (List.mem_range.mp hi))
    have hradius := isFinite_radius _ hk
    have hx := Scalar.isFinite_zero_add (hcos.isFinite_mul hradius)
    have hz := Scalar.isFinite_zero_add (hsin.isFinite_mul hradius)
    have hy : ((0.5 : Scalar) + 0).isFinite = true := by decide
    exact Bool.and_eq_true_iff.mpr ⟨Bool.and_eq_true_iff.mpr ⟨hx, hy⟩, hz⟩

theorem isFinite_of_mem_spots : ∀ place ∈ spots, place.isFinite = true := by
  intro place h
  rw [spots, World.placements] at h
  obtain ⟨k, hk, hplace⟩ := World.mem_placementsWithin h
  exact isFinite_of_mem_ring hturns (hk.trans_eq within_landmarks) hplace

end Diorama.Template
