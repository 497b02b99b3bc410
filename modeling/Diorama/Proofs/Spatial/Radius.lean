import Diorama.Proofs.Spatial.Grid
import Diorama.Spatial.Query

/-! The entities in a ball. Every entity whose computed squared distance is below the square of the radius is found.
One on the sphere is found if the grid files it in the rectangle of cells that the square around the ball meets, and
rounding may put it beside that rectangle. -/

namespace Diorama

open Scalar

lemma filterMap_filter_range {α : Type} (l : List α) (q r : α → Bool) :
    ((List.range l.length).filter fun i => l[i]?.any q).filterMap (fun i => l[i]?.filter r) =
      l.filter fun a => q a && r a := by
  induction l with
  | nil => rfl
  | cons a l ih =>
    rw [List.length_cons, List.range_succ_eq_map, List.filter_cons, List.filter_map, List.filter_cons]
    have htail : (((List.range l.length).filter ((fun i => (a :: l)[i]?.any q) ∘ Nat.succ)).map Nat.succ).filterMap
        (fun i => (a :: l)[i]?.filter r) = l.filter fun a => q a && r a := by
      rw [List.filterMap_map]
      simpa [Function.comp_def] using ih
    generalize ((List.range l.length).filter ((fun i => (a :: l)[i]?.any q) ∘ Nat.succ)).map Nat.succ = tail at htail
    cases hq : q a with
    | false => simpa [hq] using htail
    | true => cases hr : r a <;> simpa [hq, hr, List.filterMap_cons, Option.filter] using htail

namespace World

variable {w : World} {cellSize radius : Scalar} {center : Vec3} {e : Entity}

lemma files_grid (w : World) (cellSize : Scalar) : (w.grid cellSize).Files w.positions := Grid.files_ofPlaces _ _

def InBall (center : Vec3) (radius : Scalar) (e : Entity) : Prop :=
  center.distanceSquared e.position ≤ radius * radius

instance : DecidablePred (InBall center radius) := fun e =>
  inferInstanceAs (Decidable (center.distanceSquared e.position ≤ radius * radius))

def InsideBall (center : Vec3) (radius : Scalar) (e : Entity) : Prop :=
  center.distanceSquared e.position < radius * radius

instance : DecidablePred (InsideBall center radius) := fun e =>
  inferInstanceAs (Decidable (center.distanceSquared e.position < radius * radius))

def OnSphere (center : Vec3) (radius : Scalar) (e : Entity) : Prop :=
  InBall center radius e ∧ ¬InsideBall center radius e

instance : DecidablePred (OnSphere center radius) := fun _ => inferInstanceAs (Decidable (_ ∧ _))

def FiledNear (w : World) (cellSize : Scalar) (center : Vec3) (radius : Scalar) (e : Entity) : Prop :=
  ((w.grid cellSize).cell e.position).within ((w.grid cellSize).cell (center - .splat radius))
    ((w.grid cellSize).cell (center + .splat radius)) = true

instance : DecidablePred (w.FiledNear cellSize center radius) := fun _ => inferInstanceAs (Decidable (_ = true))

lemma entitiesInRadius_eq (hc : center.isFinite = true) (hr : radius.isFinite = true) (h0 : 0 ≤ radius) :
    w.entitiesInRadius cellSize center radius =
      w.entities.filter fun e => w.FiledNear cellSize center radius e ∧ InBall center radius e := by
  obtain ⟨-, hnan, hpos⟩ := le_iff_not_lt.mp h0
  have hfiled : (w.grid cellSize).filedWithin w.positions ((w.grid cellSize).cell (center - .splat radius))
      ((w.grid cellSize).cell (center + .splat radius)) =
        fun i => w.entities[i]?.any fun e => decide (w.FiledNear cellSize center radius e) := by
    funext i
    rw [Grid.filedWithin, positions, List.getElem?_map, Option.any_map]
    exact congrFun (congrArg _ (funext fun e => Bool.decide_eq_true.symm)) _
  have hlength : w.positions.length = w.entities.length := List.length_map _
  unfold entitiesInRadius
  rw [hnan, Bool.false_or, if_neg (mt of_decide_eq_true hpos)]
  dsimp only
  rw [(w.files_grid cellSize).candidatesNear_eq hc hr h0, hfiled, hlength]
  simp only [List.getElem?_toArray]
  refine (filterMap_filter_range w.entities _ fun e => decide (InBall center radius e)).trans ?_
  simp only [Bool.decide_and]

lemma filed_of_insideBall (hc : center.isFinite = true) (hr : radius.isFinite = true) (h0 : 0 ≤ radius)
    (h : InsideBall center radius e) : w.FiledNear cellSize center radius e ∧ InBall center radius e :=
  ⟨(w.files_grid cellSize).within_of_near hc hr (Vec3.near_of_distanceSquared_lt hc hr h0 h), le_of_lt h⟩

lemma entitiesInRadius_eq_ball_iff (hc : center.isFinite = true) (hr : radius.isFinite = true) (h0 : 0 ≤ radius) :
    w.entitiesInRadius cellSize center radius = w.entities.filter (InBall center radius ·) ↔
      ∀ e ∈ w.entities, OnSphere center radius e → w.FiledNear cellSize center radius e := by
  rw [entitiesInRadius_eq hc hr h0]
  constructor
  · intro h e he hsphere
    have hball : e ∈ w.entities.filter (InBall center radius ·) := List.mem_filter.mpr ⟨he, decide_eq_true hsphere.1⟩
    rw [← h] at hball
    exact (of_decide_eq_true (List.mem_filter.mp hball).2).1
  · intro h
    refine List.filter_congr fun e he => decide_eq_decide.mpr (and_iff_right_of_imp fun hball => ?_)
    by_cases hinside : InsideBall center radius e
    · exact (filed_of_insideBall hc hr h0 hinside).1
    · exact h e he ⟨hball, hinside⟩

/-- For every cell size, as long as the cells around the ball can be counted, the entities of the open ball are found
and none beside those of the closed ball, all in their order. They are those of the closed ball exactly if each entity
on the sphere is filed in the rectangle, and always if each of these lies in the square before rounding. -/
theorem entitiesInRadius_between (w : World) (cellSize : Scalar) (hc : center.isFinite = true)
    (hr : radius.isFinite = true) (h0 : 0 ≤ radius) (_ : (w.grid cellSize).Spans center radius) :
    (w.entities.filter (InsideBall center radius ·)).Sublist (w.entitiesInRadius cellSize center radius) ∧
      (w.entitiesInRadius cellSize center radius).Sublist (w.entities.filter (InBall center radius ·)) ∧
      (w.entitiesInRadius cellSize center radius = w.entities.filter (InBall center radius ·) ↔
        ∀ e ∈ w.entities, OnSphere center radius e → w.FiledNear cellSize center radius e) ∧
      ((∀ e ∈ w.entities, OnSphere center radius e → center.Near radius e.position) →
        w.entitiesInRadius cellSize center radius = w.entities.filter (InBall center radius ·)) := by
  refine ⟨?_, ?_, entitiesInRadius_eq_ball_iff hc hr h0, fun hnear => ?_⟩
  · rw [entitiesInRadius_eq hc hr h0]
    exact List.monotone_filter_right _ fun e he =>
      decide_eq_true (filed_of_insideBall hc hr h0 (of_decide_eq_true he))
  · rw [entitiesInRadius_eq hc hr h0]
    exact List.monotone_filter_right _ fun e he => decide_eq_true (of_decide_eq_true he).2
  · refine (entitiesInRadius_eq_ball_iff hc hr h0).mpr fun e he hsphere => ?_
    exact (w.files_grid cellSize).within_of_near hc hr (hnear e he hsphere)

/-- An entity just before a border of cells. The border is at a distance of 1000 from the point at 1016, and the greater
distance of the entity is rounded to the same. -/
def kerb : World where
  metadata := { title := "t" }
  entities := [{ id := "a", name := "A", transform := { position := ⟨15.999999, 0, 0⟩ } }]

theorem entitiesInRadius_between_kerb : kerb.entitiesInRadius 16 ⟨1016, 0, 0⟩ 1001 =
    kerb.entities.filter (InBall ⟨1016, 0, 0⟩ 1001 ·) := by
  refine (entitiesInRadius_between kerb 16 (by decide +kernel) (by decide +kernel) (by decide +kernel)
    (by decide +kernel)).2.2.2 ?_
  have hsphere : ∀ e ∈ kerb.entities, ¬OnSphere ⟨1016, 0, 0⟩ 1001 e := by decide +kernel
  exact fun e he h => (hsphere e he h).elim

theorem entitiesInRadius_split_kerb : Vec3.isFinite ⟨1016, 0, 0⟩ = true ∧ Float32.isFinite 1000 = true ∧
    (0 : Scalar) ≤ 1000 ∧ (kerb.grid 64).Spans ⟨1016, 0, 0⟩ 1000 ∧ (kerb.grid 16).Spans ⟨1016, 0, 0⟩ 1000 ∧
    kerb.entities.filter (InBall ⟨1016, 0, 0⟩ 1000 ·) = kerb.entities ∧
      kerb.entitiesInRadius 64 ⟨1016, 0, 0⟩ 1000 = kerb.entities ∧ kerb.entitiesInRadius 16 ⟨1016, 0, 0⟩ 1000 = [] := by
  have hc : Vec3.isFinite ⟨1016, 0, 0⟩ = true := by decide +kernel
  have hr : Float32.isFinite 1000 = true := by decide +kernel
  have h0 : (0 : Scalar) ≤ 1000 := by decide +kernel
  refine ⟨hc, hr, h0, by decide +kernel, by decide +kernel, List.filter_eq_self.mpr (by decide +kernel), ?_, ?_⟩
  · rw [entitiesInRadius_eq hc hr h0]
    exact List.filter_eq_self.mpr (by decide +kernel)
  · rw [entitiesInRadius_eq hc hr h0]
    exact List.filter_eq_nil_iff.mpr (by decide +kernel)

end World

end Diorama
