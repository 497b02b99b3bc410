import Diorama.Proofs.Hierarchy.Success
import Diorama.Proofs.Scalar.Extremes
import Diorama.Proofs.Spatial.Distance
import Diorama.Proofs.Spatial.Overlap
import Diorama.Validation.Rules.Layout

/-! The extent of a world. The union of two boxes is the least box that covers both, so the extent is the least one that
covers the boxes of all entities. The place of an entity lies in its box, hence in the extent. -/

namespace Diorama

open Scalar

namespace Vec3

variable {u v w : Vec3}

structure Le (v w : Vec3) : Prop where
  x : v.x ≤ w.x
  y : v.y ≤ w.y
  z : v.z ≤ w.z

lemma Le.trans (h : u.Le v) (h' : v.Le w) : u.Le w :=
  ⟨Scalar.le_trans h.x h'.x, Scalar.le_trans h.y h'.y, Scalar.le_trans h.z h'.z⟩

lemma Le.left (h : v.Le w) : v.Le v :=
  ⟨Scalar.le_refl (le_iff.mp h.x).1, Scalar.le_refl (le_iff.mp h.y).1, Scalar.le_refl (le_iff.mp h.z).1⟩

lemma Le.right (h : v.Le w) : w.Le w :=
  ⟨Scalar.le_refl (le_iff.mp h.x).2.1, Scalar.le_refl (le_iff.mp h.y).2.1, Scalar.le_refl (le_iff.mp h.z).2.1⟩

lemma le_of_isFinite (h : v.isFinite = true) : v.Le v := by
  obtain ⟨hx, hy, hz⟩ := isFinite_iff.mp h
  exact ⟨Scalar.le_refl (isNaN_of_isFinite hx), Scalar.le_refl (isNaN_of_isFinite hy),
    Scalar.le_refl (isNaN_of_isFinite hz)⟩

lemma min_le_left (h : v.Le v) : (v.min w).Le v :=
  ⟨Scalar.min_le_left (le_iff.mp h.x).1, Scalar.min_le_left (le_iff.mp h.y).1, Scalar.min_le_left (le_iff.mp h.z).1⟩

lemma min_le_right (h : w.Le w) : (v.min w).Le w :=
  ⟨Scalar.min_le_right (le_iff.mp h.x).1, Scalar.min_le_right (le_iff.mp h.y).1, Scalar.min_le_right (le_iff.mp h.z).1⟩

lemma le_min (hv : u.Le v) (hw : u.Le w) : u.Le (v.min w) :=
  ⟨Scalar.le_min hv.x hw.x, Scalar.le_min hv.y hw.y, Scalar.le_min hv.z hw.z⟩

lemma le_max_left (h : v.Le v) : v.Le (v.max w) :=
  ⟨Scalar.le_max_left (le_iff.mp h.x).1, Scalar.le_max_left (le_iff.mp h.y).1, Scalar.le_max_left (le_iff.mp h.z).1⟩

lemma le_max_right (h : w.Le w) : w.Le (v.max w) :=
  ⟨Scalar.le_max_right (le_iff.mp h.x).1, Scalar.le_max_right (le_iff.mp h.y).1, Scalar.le_max_right (le_iff.mp h.z).1⟩

lemma max_le (hv : v.Le u) (hw : w.Le u) : (v.max w).Le u :=
  ⟨Scalar.max_le hv.x hw.x, Scalar.max_le hv.y hw.y, Scalar.max_le hv.z hw.z⟩

lemma isFinite_min (hv : v.isFinite = true) (hw : w.isFinite = true) : (v.min w).isFinite = true := by
  obtain ⟨hx, hy, hz⟩ := isFinite_iff.mp hv
  obtain ⟨hx', hy', hz'⟩ := isFinite_iff.mp hw
  exact isFinite_iff.mpr ⟨(min_cases hx hx').1, (min_cases hy hy').1, (min_cases hz hz').1⟩

lemma isFinite_max (hv : v.isFinite = true) (hw : w.isFinite = true) : (v.max w).isFinite = true := by
  obtain ⟨hx, hy, hz⟩ := isFinite_iff.mp hv
  obtain ⟨hx', hy', hz'⟩ := isFinite_iff.mp hw
  exact isFinite_iff.mpr ⟨(max_cases hx hx').1, (max_cases hy hy').1, (max_cases hz hz').1⟩

lemma beq_of_le (h : v.Le w) (h' : w.Le v) : (v == w) = true := by
  have hx := beq_iff.mpr ⟨h.x, h'.x⟩
  have hy := beq_iff.mpr ⟨h.y, h'.y⟩
  have hz := beq_iff.mpr ⟨h.z, h'.z⟩
  change (v.x == w.x && (v.y == w.y && v.z == w.z)) = true
  rw [hx, hy, hz]
  rfl

end Vec3

namespace Box

variable {a b c : Box} {rest : List Box}

structure Covers (b a : Box) : Prop where
  min : b.min.Le a.min
  max : a.max.Le b.max

lemma Covers.trans (h : c.Covers b) (h' : b.Covers a) : c.Covers a := ⟨h.min.trans h'.min, h'.max.trans h.max⟩

lemma Covers.left (h : b.Covers a) : b.Covers b := ⟨h.min.left, h.max.right⟩

lemma isFinite_iff : b.isFinite = true ↔ b.min.isFinite = true ∧ b.max.isFinite = true := by
  rw [isFinite, Bool.and_eq_true]

lemma covers_of_isFinite (h : b.isFinite = true) : b.Covers b :=
  ⟨Vec3.le_of_isFinite (isFinite_iff.mp h).1, Vec3.le_of_isFinite (isFinite_iff.mp h).2⟩

lemma contains_iff {p : Vec3} : b.contains p = true ↔ b.min.Le p ∧ p.Le b.max := by
  simp only [contains, Bool.and_eq_true, decide_eq_true_eq]
  exact ⟨fun ⟨⟨⟨⟨⟨h₁, h₂⟩, h₃⟩, h₄⟩, h₅⟩, h₆⟩ => ⟨⟨h₁, h₃, h₅⟩, ⟨h₂, h₄, h₆⟩⟩,
    fun ⟨⟨h₁, h₃, h₅⟩, ⟨h₂, h₄, h₆⟩⟩ => ⟨⟨⟨⟨⟨h₁, h₂⟩, h₃⟩, h₄⟩, h₅⟩, h₆⟩⟩

lemma Covers.contains {p : Vec3} (h : b.Covers a) (hp : a.contains p = true) : b.contains p = true := by
  obtain ⟨hmin, hmax⟩ := contains_iff.mp hp
  exact contains_iff.mpr ⟨h.min.trans hmin, hmax.trans h.max⟩

lemma beq_of_covers (h : a.Covers b) (h' : b.Covers a) : (a == b) = true := by
  change (a.min == b.min && a.max == b.max) = true
  rw [Vec3.beq_of_le h.min h'.min, Vec3.beq_of_le h'.max h.max]
  rfl

lemma union_covers_left (h : a.Covers a) : (a.union b).Covers a := ⟨Vec3.min_le_left h.min, Vec3.le_max_left h.max⟩

lemma union_covers_right (h : b.Covers b) : (a.union b).Covers b := ⟨Vec3.min_le_right h.min, Vec3.le_max_right h.max⟩

lemma covers_union (ha : c.Covers a) (hb : c.Covers b) : c.Covers (a.union b) :=
  ⟨Vec3.le_min ha.min hb.min, Vec3.max_le ha.max hb.max⟩

lemma isFinite_union (ha : a.isFinite = true) (hb : b.isFinite = true) : (a.union b).isFinite = true := by
  obtain ⟨hmin, hmax⟩ := isFinite_iff.mp ha
  obtain ⟨hmin', hmax'⟩ := isFinite_iff.mp hb
  exact isFinite_iff.mpr ⟨Vec3.isFinite_min hmin hmin', Vec3.isFinite_max hmax hmax'⟩

lemma foldl_union_covers_first (h : a.Covers a) : (rest.foldl union a).Covers a := by
  induction rest generalizing a with
  | nil => exact h
  | cons b rest ih =>
    have hunion := union_covers_left (b := b) h
    exact (ih hunion.left).trans hunion

lemma foldl_union_covers (hb : b ∈ rest) (h : b.Covers b) : (rest.foldl union a).Covers b := by
  induction rest generalizing a with
  | nil => cases hb
  | cons c rest ih =>
    rcases List.mem_cons.mp hb with rfl | hb
    · have hunion := union_covers_right (a := a) h
      exact (foldl_union_covers_first hunion.left).trans hunion
    · exact ih hb

lemma covers_foldl_union (ha : c.Covers a) (h : ∀ b ∈ rest, c.Covers b) : c.Covers (rest.foldl union a) := by
  induction rest generalizing a with
  | nil => exact ha
  | cons b rest ih =>
    obtain ⟨hb, hrest⟩ := List.forall_mem_cons.mp h
    exact ih (covers_union ha hb) hrest

lemma isFinite_foldl_union (ha : a.isFinite = true) (h : ∀ b ∈ rest, b.isFinite = true) :
    (rest.foldl union a).isFinite = true := by
  induction rest generalizing a with
  | nil => exact ha
  | cons b rest ih =>
    obtain ⟨hb, hrest⟩ := List.forall_mem_cons.mp h
    exact ih (isFinite_union ha hb) hrest

lemma half_nonneg {s : Scalar} (h : (s.abs * 0.5).isFinite = true) : 0 ≤ s.abs * 0.5 := by
  have habs := (isFinite_of_mul h).1
  obtain ⟨hfinite, hnonneg⟩ := abs_nonneg (isFinite_of_abs habs)
  have hhalf : Float32.isFinite 0.5 = true ∧ (0 : Scalar) ≤ 0.5 := by decide +kernel
  exact (makes_self isFinite_zero).le (makes_mul hfinite hhalf.1)
    (value_zero.trans_le (mul_nonneg (value_nonneg hfinite hnonneg) (value_nonneg hhalf.1 hhalf.2)))

lemma around {p s : Scalar} (h : (p - s.abs * 0.5).isFinite = true) :
    p - s.abs * 0.5 ≤ p ∧ p ≤ p + s.abs * 0.5 := by
  obtain ⟨hp, hhalf⟩ := isFinite_of_sub h
  exact ⟨sub_le_of_nonneg hp hhalf (half_nonneg hhalf), le_add_of_nonneg hp hhalf (half_nonneg hhalf)⟩

lemma contains_center {center size : Vec3} (h : (ofCenterSize center size).isFinite = true) :
    (ofCenterSize center size).contains center = true := by
  obtain ⟨⟨hx, hy, hz⟩, -⟩ := finite_iff.mp h
  exact contains_iff.mpr ⟨⟨(around hx).1, (around hy).1, (around hz).1⟩, ⟨(around hx).2, (around hy).2, (around hz).2⟩⟩

lemma approxEq_self {tolerance : Scalar} (h : b.isFinite = true) (h0 : 0 ≤ tolerance) :
    b.approxEq b tolerance = true := by
  have hpoint : ∀ v : Vec3, v.isFinite = true → (v - v).abs.toList.all (· ≤ tolerance) = true := by
    intro v hv
    obtain ⟨hx, hy, hz⟩ := Vec3.isFinite_iff.mp hv
    simp only [Vec3.toList, List.all_cons, List.all_nil, Bool.and_true, Bool.and_eq_true, decide_eq_true_eq]
    exact ⟨abs_sub_self_le hx h0, abs_sub_self_le hy h0, abs_sub_self_le hz h0⟩
  rw [approxEq, Bool.and_eq_true]
  exact ⟨hpoint _ (isFinite_iff.mp h).1, hpoint _ (isFinite_iff.mp h).2⟩

end Box

namespace World

variable {w v : World} {e : Entity} {batch : List Entity}

lemma boxes_updateEntity (change : Entity → Entity) (hbox : ∀ e, (change e).box = e.box) (w : World) (id : String) :
    (w.updateEntity id change).boxes = w.boxes := by
  have h : ∀ es : List Entity, (updateFirst id change es).map (·.box) = es.map (·.box) := by
    intro es
    induction es with
    | nil => rfl
    | cons e es ih =>
      rw [updateFirst]
      split
      · rw [List.map_cons, List.map_cons, hbox]
      · rw [List.map_cons, List.map_cons, ih]
  exact h w.entities

lemma boxes_link (w : World) (e : Entity) : (w.link e).boxes = w.boxes ++ [e.box] := by
  have henter : (w.enter e).boxes = w.boxes := by
    cases hp : e.parent with
    | none => rw [enter, hp]
    | some up =>
      simp only [enter, hp]
      exact boxes_updateEntity (addChild e.id) (fun _ => rfl) w up
  rw [link_eq, boxes, List.map_append, List.map_singleton]
  exact congrArg (· ++ [e.box]) henter

lemma boxes_foldl_link (w : World) (batch : List Entity) :
    (batch.foldl link w).boxes = w.boxes ++ batch.map (·.box) := by
  induction batch generalizing w with
  | nil => simp
  | cons e batch ih =>
    rw [List.foldl_cons, ih, boxes_link]
    simp

lemma extent_covers {b : Box} (hb : b ∈ w.boxes) (h : b.Covers b) : w.extent.Covers b := by
  unfold extent
  cases hw : w.boxes with
  | nil => rw [hw] at hb; cases hb
  | cons first rest =>
    rw [hw] at hb
    rcases List.mem_cons.mp hb with rfl | hb
    · exact Box.foldl_union_covers_first h
    · exact Box.foldl_union_covers hb h

lemma covers_extent {b : Box} (hne : w.boxes ≠ []) (h : ∀ a ∈ w.boxes, b.Covers a) : b.Covers w.extent := by
  unfold extent
  cases hw : w.boxes with
  | nil => exact absurd hw hne
  | cons first rest =>
    rw [hw, List.forall_mem_cons] at h
    exact Box.covers_foldl_union h.1 h.2

lemma isFinite_extent (hne : w.boxes ≠ []) (h : ∀ a ∈ w.boxes, a.isFinite = true) : w.extent.isFinite = true := by
  unfold extent
  cases hw : w.boxes with
  | nil => exact absurd hw hne
  | cons first rest =>
    rw [hw, List.forall_mem_cons] at h
    exact Box.isFinite_foldl_union h.1 h.2

lemma extent_covers_extent (hne : w.boxes ≠ []) (hf : ∀ b ∈ w.boxes, b.isFinite = true)
    (h : ∀ b ∈ w.boxes, b ∈ v.boxes) : v.extent.Covers w.extent :=
  covers_extent hne fun b hb => extent_covers (h b hb) (Box.covers_of_isFinite (hf b hb))

structure Spanned (w : World) : Prop where
  covers : ∀ e ∈ w.entities, w.extent.Covers e.box
  least : ∀ b : Box, (∀ e ∈ w.entities, b.Covers e.box) → b.Covers w.extent
  /-- The order of the entities decides at most which of the two zeros a coordinate is. -/
  unordered : ∀ v : World, v.entities.Perm w.entities → (v.extent == w.extent) = true
  grows : ∀ e v, w.addEntity e = .ok v → v.extent.Covers w.extent
  growsAll : ∀ batch v, w.addEntities batch = .ok v → v.extent.Covers w.extent
  placed : ∀ e ∈ w.entities, w.extent.contains e.position = true
  gathered : w.entitiesInBox w.extent = w.entities
  density : 0 < w.extent.volume → w.extent.volume.isFinite = true →
    w.analysis.density = Scalar.ofInt w.analysis.entityCount / w.extent.volume
  refreshed : Rule.boundsConsistency w.refreshBounds = []

theorem extent_spans (w : World) (hne : w.entities ≠ []) (hf : ∀ e ∈ w.entities, e.box.isFinite = true) :
    w.Spanned := by
  have hboxes : w.boxes ≠ [] := by simpa [boxes] using hne
  have hfinite : ∀ b ∈ w.boxes, b.isFinite = true := by simpa [boxes] using hf
  have hmem : ∀ e ∈ w.entities, e.box ∈ w.boxes := fun e he => List.mem_map_of_mem he
  have hcovers : ∀ e ∈ w.entities, w.extent.Covers e.box := fun e he =>
    extent_covers (hmem e he) (Box.covers_of_isFinite (hf e he))
  have hplaced : ∀ e ∈ w.entities, w.extent.contains e.position = true := fun e he =>
    (hcovers e he).contains (Box.contains_center (hf e he))
  have hgathered : w.entitiesInBox w.extent = w.entities := List.filter_eq_self.mpr hplaced
  refine ⟨hcovers, fun b hb => ?_, fun v hv => ?_, fun e v hv => ?_, fun batch v hv => ?_, hplaced, hgathered,
    fun hpos hvolume => ?_, ?_⟩
  · exact covers_extent hboxes (List.forall_mem_map.mpr hb)
  · have hperm : v.boxes.Perm w.boxes := hv.map _
    refine Box.beq_of_covers ?_ ?_
    · exact extent_covers_extent hboxes hfinite fun b hb => hperm.mem_iff.mpr hb
    · have hne' : v.boxes ≠ [] := fun h => hboxes (h ▸ hperm).symm.eq_nil
      exact extent_covers_extent hne' (fun b hb => hfinite b (hperm.mem_iff.mp hb)) fun b hb => hperm.mem_iff.mp hb
  · obtain ⟨-, -, rfl⟩ := addEntity_eq_ok_iff.mp hv
    refine extent_covers_extent hboxes hfinite fun b hb => ?_
    rw [boxes_link]
    exact List.mem_append_left _ hb
  · obtain ⟨-, -, -, rfl⟩ := addEntities_eq_ok_iff.mp hv
    refine extent_covers_extent hboxes hfinite fun b hb => ?_
    rw [boxes_foldl_link]
    exact List.mem_append_left _ hb
  · have hempty : w.entities.isEmpty = false := by simpa using hne
    have hnot : (decide (w.extent.volume ≤ 0) || !w.extent.volume.isFinite) = false := by
      rw [hvolume, Bool.or_eq_false_iff, decide_eq_false_iff_not]
      exact ⟨(lt_iff_not_le.mp hpos).2.2, rfl⟩
    simp only [analysis, hempty, Bool.false_eq_true, if_false, World.density, hnot, hgathered]
  · exact if_pos (Box.approxEq_self (isFinite_extent hboxes hfinite) (by decide +kernel))

def flagged : World where
  metadata := { title := "Hill" }
  entities := [
    { id := "mast", name := "Mast", transform := { position := ⟨0, 4, 0⟩, scale := ⟨1, 8, 1⟩ } },
    { id := "flag", name := "Flag", transform := { position := ⟨2, 7, 0⟩, scale := ⟨-3, 2, 0⟩ } }]

theorem extent_spans_flagged : flagged.entities ≠ [] ∧ (∀ e ∈ flagged.entities, e.box.isFinite = true) ∧
    flagged.Spanned := by
  have hne : flagged.entities ≠ [] := by simp [flagged]
  have hf : ∀ e ∈ flagged.entities, e.box.isFinite = true := by decide +kernel
  exact ⟨hne, hf, extent_spans flagged hne hf⟩

end World

end Diorama
