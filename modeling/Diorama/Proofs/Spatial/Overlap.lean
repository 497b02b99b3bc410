import Diorama.Geometry.Box
import Diorama.Proofs.Scalar.Value

namespace Diorama

open Scalar

def Crosses (a b c d : Scalar) : Prop := max (value a) (value c) < min (value b) (value d)

lemma Crosses.symm {a b c d : Scalar} (h : Crosses a b c d) : Crosses c d a b := by
  unfold Crosses at *
  rwa [max_comm, min_comm]

lemma Crosses.begins {a b c d : Scalar} (h : Crosses a b c d) : value c < value b :=
  (le_max_right _ _).trans_lt (h.trans_le (min_le_left _ _))

lemma Crosses.extends {a b c d : Scalar} (h : Crosses a b c d) : value a < value b :=
  (le_max_left _ _).trans_lt (h.trans_le (min_le_left _ _))

lemma shared_pos_iff {a b c d : Scalar} (ha : a.isFinite = true) (hb : b.isFinite = true) (hc : c.isFinite = true)
    (hd : d.isFinite = true) : 0 < Scalar.min b d - Scalar.max a c ↔ Crosses a b c d := by
  obtain ⟨hmin, hminv⟩ := min_cases hb hd
  obtain ⟨hmax, hmaxv⟩ := max_cases ha hc
  rw [sub_pos_iff hmin hmax, hminv, hmaxv, Crosses]

namespace Box

variable {a b : Box}

lemma finite_iff : a.isFinite = true ↔ (a.min.x.isFinite = true ∧ a.min.y.isFinite = true ∧ a.min.z.isFinite = true) ∧
    a.max.x.isFinite = true ∧ a.max.y.isFinite = true ∧ a.max.z.isFinite = true := by
  simp only [isFinite, Vec3.isFinite, Bool.and_eq_true, and_assoc]

lemma overlaps_iff (ha : a.isFinite = true) (hb : b.isFinite = true) : a.overlaps b = true ↔
    Crosses a.min.x a.max.x b.min.x b.max.x ∧ Crosses a.min.y a.max.y b.min.y b.max.y ∧
      Crosses a.min.z a.max.z b.min.z b.max.z := by
  obtain ⟨⟨hax, hay, haz⟩, hax', hay', haz'⟩ := finite_iff.mp ha
  obtain ⟨⟨hbx, hby, hbz⟩, hbx', hby', hbz'⟩ := finite_iff.mp hb
  rw [← shared_pos_iff hax hax' hbx hbx', ← shared_pos_iff hay hay' hby hby', ← shared_pos_iff haz haz' hbz hbz']
  simp only [overlaps, Bool.and_eq_true, decide_eq_true_eq, and_assoc]
  exact Iff.rfl

lemma overlaps_symm (ha : a.isFinite = true) (hb : b.isFinite = true) (h : a.overlaps b = true) :
    b.overlaps a = true := by
  obtain ⟨hx, hy, hz⟩ := (overlaps_iff ha hb).mp h
  exact (overlaps_iff hb ha).mpr ⟨hx.symm, hy.symm, hz.symm⟩

lemma not_degenerate_of_overlaps (ha : a.isFinite = true) (hb : b.isFinite = true) (h : a.overlaps b = true) :
    a.isDegenerate = false := by
  obtain ⟨⟨hax, hay, haz⟩, hax', hay', haz'⟩ := finite_iff.mp ha
  obtain ⟨hx, hy, hz⟩ := (overlaps_iff ha hb).mp h
  have hlong : ∀ {c d : Scalar}, 0 < c - d → ¬c - d ≤ 0 := fun hpos hle => (le_iff_not_lt.mp hle).2.2 hpos
  have hx' := hlong ((sub_pos_iff hax' hax).mpr hx.extends)
  have hy' := hlong ((sub_pos_iff hay' hay).mpr hy.extends)
  have hz' := hlong ((sub_pos_iff haz' haz).mpr hz.extends)
  simp only [isDegenerate, Bool.or_eq_false_iff, decide_eq_false_iff_not]
  exact ⟨⟨hx', hy'⟩, hz'⟩

end Box

end Diorama
