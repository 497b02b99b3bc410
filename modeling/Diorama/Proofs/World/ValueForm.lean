import Diorama.Proofs.World.Forms

namespace Diorama.World

open Json

variable {v w : World}

lemma ofValue?_toValue (h : w.IsFinite) : ofValue? w.toValue = .ok w := by
  have hscalars : ∀ x ∈ (toJson w).scalars, x.isFinite = true := by
    rw [scalars_toJson_world]
    exact h
  have hread : ofJson? (toJson w).toData = some w :=
    ofJson?_of_renderedAs (renderedAs_toData (toJson w) (wellFormed w) hscalars)
  rw [ofValue?, toValue, Json.value, hread]

lemma toValue_injective (hv : v.IsFinite) (hw : w.IsFinite) (h : v.toValue = w.toValue) : v = w := by
  have hread := ofValue?_toValue hv
  rw [h, ofValue?_toValue hw] at hread
  exact (Except.ok.inj hread).symm

theorem toValue_faithful (h : w.IsFinite) : ofValue? w.toValue = .ok w ∧
    (∀ v : World, v.IsFinite → v.toValue = w.toValue → v = w) ∧
    (ofValue? w.toValue).map toValue = .ok w.toValue := by
  refine ⟨ofValue?_toValue h, fun v hv he => toValue_injective hv h he, ?_⟩
  rw [ofValue?_toValue h]
  rfl

def lamplit : World where
  metadata := { title := "Street", tags := ["night", "night"] }
  entities := [{
    id := "lamp"
    name := "Lamp"
    transform := { position := ⟨0.1, -0.0, 1e30⟩ }
    material := some { name := "Brass", emissionColor := some .white }
    parent := some "tree"
    children := ["lamp", ""]
    tags := .ofList ["b", "a"]
    metadata := .ofList [("watts", ⟨.real 0.1, by decide +kernel⟩), ("none", .null)] }]
  lights := [{ id := "lamp", name := "Glow", kind := .spot, spotAngle := some 1e-45 }]

theorem toValue_faithful_lamplit : lamplit.IsFinite ∧ ofValue? lamplit.toValue = .ok lamplit := by
  have h : lamplit.IsFinite := by
    unfold IsFinite
    decide +kernel
  exact ⟨h, (toValue_faithful h).1⟩

end Diorama.World
