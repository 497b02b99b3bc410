import Diorama.Proofs.Json.SteadyForm
import Diorama.Proofs.Pipeline.Payloads

namespace Diorama

open Json

instance : SteadyForm Vec3 where
  ofJson?_toData {j} h := by
    obtain he | ⟨x, rfl, he⟩ | ⟨items, rfl, hi, he⟩ | ⟨members, data, rfl, -, -, he, -⟩ := h.toData_cases
    · rw [he]
    · rw [he]
      rfl
    · rw [he]
      match items with
      | [x, y, z] =>
        obtain ⟨hx, hy, hz⟩ : x.Definite ∧ y.Definite ∧ z.Definite := by simpa using hi
        change (do return (⟨← ofJson? x.toData, ← ofJson? y.toData, ← ofJson? z.toData⟩ : Vec3)) = _
        rw [ofJson?_toData hx, ofJson?_toData hy, ofJson?_toData hz]
        rfl
      | [] => rfl
      | [_] => rfl
      | [_, _] => rfl
      | _ :: _ :: _ :: _ :: _ => rfl
    · rw [he]
      rfl

namespace LooseVec3

lemma steady_coordinates : ∀ g ∈ coordinatesForm.fields, g.Steady := by simp [coordinatesForm]

instance : SteadyForm LooseVec3 where
  ofJson?_toData {j} h := by
    refine (if_pos h.isReadable_toData).trans (Eq.trans ?_ (if_pos h.isReadable).symm)
    have hvector : (ofJson? j.toData : Option Vec3) = ofJson? j := ofJson?_toData h
    have hcoordinates : coordinatesForm.read? j.toData = coordinatesForm.read? j :=
      RecordForm.read?_toData steady_coordinates h
    obtain he | ⟨x, rfl, he⟩ | ⟨items, rfl, -, he⟩ | ⟨members, data, rfl, -, -, he, -⟩ := h.toData_cases
    · rw [he]
    · rw [he]
      rfl
    · rw [he] at hvector ⊢
      exact congrArg (Option.map LooseVec3.array) hvector
    · rw [he] at hcoordinates ⊢
      exact congrArg (Option.map fun c : Coordinates => LooseVec3.object c.x c.y c.z) hcoordinates

end LooseVec3

instance : SteadyForm LooseColor := RecordForm.steadyForm (by simp [LooseColor.form])

instance : SteadyForm LooseTransform := RecordForm.steadyForm (by simp [LooseTransform.form])

instance : SteadyForm DraftMaterial := RecordForm.steadyForm (by simp [DraftMaterial.form])

instance : SteadyForm DraftPhysics := RecordForm.steadyForm (by simp [DraftPhysics.form])

instance : SteadyForm DraftEntity := RecordForm.steadyForm (by simp [DraftEntity.form])

instance : SteadyForm DraftLight := RecordForm.steadyForm (by simp [DraftLight.form])

instance : SteadyForm DraftInteraction := RecordForm.steadyForm (by simp [DraftInteraction.form])

instance : SteadyForm DraftMechanism := RecordForm.steadyForm (by simp [DraftMechanism.form])

instance : SteadyForm DraftTimeOfDay := RecordForm.steadyForm (by simp [DraftTimeOfDay.form])

instance : SteadyForm DraftEnvironment := RecordForm.steadyForm (by simp [DraftEnvironment.form])

instance : SteadyForm DraftInfo := RecordForm.steadyForm (by simp [DraftInfo.form])

instance : SteadyForm WorldDraft := RecordForm.steadyForm (by simp [WorldDraft.form])

instance : SteadyForm Verdict := RecordForm.steadyForm (by simp [Verdict.form])

instance : SteadyForm ColorPalette := RecordForm.steadyForm (by simp [ColorPalette.form])

instance : SteadyForm LightingDesign := RecordForm.steadyForm (by simp [LightingDesign.form])

instance : SteadyForm Vision := RecordForm.steadyForm (by simp [Vision.form])

instance : SteadyForm PhysicsPlan := RecordForm.steadyForm (by simp [PhysicsPlan.form])

instance : SteadyForm InteractionPlan := RecordForm.steadyForm (by simp [InteractionPlan.form])

instance : SteadyForm GameplayPlan := RecordForm.steadyForm (by simp [GameplayPlan.form])

instance : SteadyForm SystemsDesign := RecordForm.steadyForm (by simp [SystemsDesign.form])

instance : SteadyForm AssetNeeds := RecordForm.steadyForm (by simp [AssetNeeds.form])

instance : SteadyForm PerformanceBudget := RecordForm.steadyForm (by simp [PerformanceBudget.form])

instance : SteadyForm LodStrategy := RecordForm.steadyForm (by simp [LodStrategy.form])

instance : SteadyForm TechnicalDesign := RecordForm.steadyForm (by simp [TechnicalDesign.form])

lemma decodeAnswer_value_iff {α : Type} [JsonForm α] [SteadyForm α] {j : Json} {a : α}
    (hobject : ∃ members, j = .object members) (h : j.Definite) :
    decodeAnswer j.value = .ok a ↔ ofJson? j = some a := by
  obtain ⟨members, rfl⟩ := hobject
  rw [decodeAnswer_eq_ok_iff, ← ofJson?_toData h]
  constructor
  · rintro ⟨data, (hdata : (Json.object members).toData = .object data), hread⟩
    exact hdata ▸ hread
  · intro hread
    exact ⟨_, rfl, hread⟩

end Diorama
