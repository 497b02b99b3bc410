import Diorama.Proofs.Scalar.Floor
import Diorama.Proofs.Spatial.Placement

namespace Diorama

open Scalar Float.Model

namespace Rings

variable {reach more step desired : Scalar} {near : Vec3} {m n : Nat}

lemma within_le (reach step : Scalar) : within reach step ≤ limit := by
  unfold within
  dsimp only
  split_ifs
  · exact min_le_left _ _
  · exact le_rfl

lemma within_of_not_finite (h : (reach / step).isFinite = false) : within reach step = limit := by
  unfold within
  dsimp only
  rw [h, if_neg Bool.false_ne_true]

lemma within_of_finite (h : (reach / step).isFinite = true) :
    within reach step = min limit ⌊value (reach / step)⌋.toNat := by
  unfold within
  dsimp only
  rw [if_pos h, floor_eq h]

theorem within_mono (h0 : 0 ≤ reach) (h : reach ≤ more) (hs : 0 < step) : within reach step ≤ within more step := by
  rcases finite_or_infinite_of_nonneg (Scalar.le_trans h0 h) with hmore | hmore
  · have hreach := isFinite_of_nonneg_of_le h0 h hmore
    rcases finite_or_infinite_of_nonneg (Scalar.le_of_lt hs) with hstep | hstep
    · have hle := div_le_div hstep hs h
      cases hratio : (more / step).isFinite with
      | false =>
        rw [within_of_not_finite hratio]
        exact within_le reach step
      | true =>
        have hless := isFinite_of_nonneg_of_le (zero_le_div hstep hs h0) hle hratio
        rw [within_of_finite hless, within_of_finite hratio]
        exact min_le_min_left _ (Int.toNat_le_toNat (Int.floor_mono ((le_iff_value hless hratio).mp hle)))
    · -- The step is so great that it overflows, and the reach holds ring zero only.
      obtain ⟨hfinite, hzero⟩ := div_infinite hreach hstep
      rw [within_of_finite hfinite, hzero]
      simp
  · rw [within_of_not_finite (infinite_div hmore hs)]
    exact within_le reach step

lemma step_pos (h : desired.isFinite = true) : 0 < Rings.step desired := by
  unfold Rings.step
  dsimp only
  split_ifs with hpos
  · have hs : (Scalar.max desired 0).isFinite = true := (max_cases h isFinite_zero).1
    have hfactor : stepFactor.isFinite = true := by decide +kernel
    have hone : 1 ≤ value stepFactor := by decide +kernel
    refine Scalar.lt_of_lt_of_le hpos ((makes_self hs).le (makes_mul hs hfactor) ?_)
    exact le_mul_of_one_le_right (value_pos hs hpos).le hone
  · decide +kernel

lemma samples_isPrefix (h : m ≤ n) : samples near step m <+: samples near step n := by
  obtain ⟨k, rfl⟩ := Nat.exists_eq_add_of_le h
  have hrange : List.range (m + k + 1) = List.range (m + 1) ++ (List.range k).map (m + 1 + ·) := by
    rw [Nat.add_right_comm, List.range_add]
  rw [samples, samples, hrange, List.flatMap_append]
  exact List.prefix_append _ _

end Rings

namespace World

variable {w : World} {near : Vec3} {desired : Scalar} {m n : Nat}

lemma foldl_max_nonneg (distances : List Scalar) {a : Scalar} (ha : 0 ≤ a) : 0 ≤ distances.foldl Scalar.max a := by
  induction distances generalizing a with
  | nil => exact ha
  | cons b distances ih =>
    refine ih ?_
    unfold Scalar.max
    cases hb : b.isNaN with
    | true => exact ha
    | false =>
      rw [if_neg Bool.false_ne_true]
      split_ifs with hlt
      · exact ha
      · exact Scalar.le_trans ha (le_iff_not_lt.mpr ⟨(le_iff.mp ha).2.1, hb, hlt⟩)

lemma placementReach_mono (w : World) (near : Vec3) (hdesired : desired.isFinite = true) (h : m ≤ n) :
    0 ≤ w.placementReach near desired m ∧ w.placementReach near desired m ≤ w.placementReach near desired n := by
  unfold placementReach
  dsimp only
  generalize hfar : (if w.entities.isEmpty then 0 else (w.extent.corners.map (·.distance near)).foldl Scalar.max 0) =
    farthest
  have hzero : (0 : Scalar) ≤ 0 := le_iff_not_lt.mpr (by decide +kernel)
  have hfarthest : 0 ≤ farthest := by
    rw [← hfar]
    split_ifs
    · exact hzero
    · exact foldl_max_nonneg _ hzero
  obtain ⟨hunit, hvalue⟩ := max_cases hdesired (b := 1) (by decide +kernel)
  have hpos : 0 < Scalar.max desired 1 := by
    refine (lt_iff_value isFinite_zero hunit).mpr ?_
    have hone : value 1 = 1 := by decide +kernel
    rw [hvalue, hone, value_zero]
    exact lt_max_of_lt_right one_pos
  have hm := zero_le_mul hunit hpos (ofInt_nonneg (Int.natCast_nonneg m))
  refine ⟨Scalar.le_trans hfarthest (le_add_right hfarthest hm), add_le_add_left hfarthest hm ?_⟩
  exact mul_le_mul_left hunit hpos (ofInt_mono (Int.ofNat_le.mpr h))

end World

end Diorama
