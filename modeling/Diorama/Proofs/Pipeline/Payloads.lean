import Diorama.Proofs.Pipeline.Forms

namespace Diorama

open Json

def Stage.fieldNames : Stage → List String
  | .vision => Vision.form.fields.flatMap Field.names
  | .systems => SystemsDesign.form.fields.flatMap Field.names
  | .technical => TechnicalDesign.form.fields.flatMap Field.names
  | .synthesis => WorldDraft.form.fields.flatMap Field.names
  | .review => Verdict.form.fields.flatMap Field.names

section Answers

lemma exists_of_map_eq_ok {ε β γ : Type} {f : β → γ} {x : Except ε β} {c : γ} (h : f <$> x = .ok c) :
    ∃ b, x = .ok b ∧ f b = c := by
  cases x with
  | error e => cases h
  | ok b => exact ⟨b, rfl, Except.ok.inj h⟩

variable {α : Type} [JsonForm α] {v : Value} {a : α}

lemma decodeAnswer_eq_ok_iff :
    decodeAnswer v = .ok a ↔ ∃ members, v.json = .object members ∧ ofJson? (.object members) = some a := by
  rw [decodeAnswer]
  split
  · rename_i members hv
    constructor
    · intro h
      split at h
      · rename_i hread
        exact ⟨members, hv, Except.ok.inj h ▸ hread⟩
      · cases h
    · rintro ⟨other, hother, hread⟩
      obtain rfl := Json.object.inj (hv.symm.trans hother)
      rw [hread]
  · rename_i hv
    constructor
    · intro h
      cases h
    · rintro ⟨members, hmembers, -⟩
      exact (hv members hmembers).elim

lemma decodeAnswer_value (ha : Faithful a) (hobject : ∃ members, toJson a = .object members)
    (hfinite : ∀ x ∈ (toJson a).scalars, x.isFinite = true) : decodeAnswer (toJson a).value = .ok a := by
  have hread : ofJson? (toJson a).toData = some a := ha.read (renderedAs_toData _ ha.wellFormed hfinite)
  obtain ⟨members, hmembers⟩ := hobject
  rw [hmembers] at hread ⊢
  exact decodeAnswer_eq_ok_iff.mpr ⟨_, rfl, hread⟩

lemma decodeAnswer_stable [StableForm α] (hobject : ∀ b : α, ∃ members, toJson b = .object members)
    (h : decodeAnswer v = .ok a) (hfinite : ∀ x ∈ (toJson a).scalars, x.isFinite = true) :
    decodeAnswer (toJson a).value = .ok a := by
  obtain ⟨members, -, hread⟩ := decodeAnswer_eq_ok_iff.mp h
  exact decodeAnswer_value (faithful_of_ofJson? hread) (hobject a) hfinite

end Answers

namespace StageOutput

def extra : StageOutput → Dictionary Value
  | .vision design => design.extra
  | .systems design => design.extra
  | .technical design => design.extra
  | .synthesis _ => ∅
  | .review _ => ∅

end StageOutput

section Kept

variable {ρ : Type} {f : RecordForm ρ} {get : ρ → Dictionary Value} {set : Dictionary Value → ρ → ρ} {v : Value} {r : ρ}

lemma find?_of_decodeAnswer (hothers : f.others = .kept get set) (hget : ∀ extra r, get (set extra r) = extra)
    (h : @decodeAnswer ρ f.jsonForm v = .ok r) (key : String) : ((get r).find? key).map (·.json) =
      if key ∈ f.fields.flatMap Field.names then none else v.json.member? key := by
  let := f.jsonForm
  obtain ⟨members, hv, hread⟩ := decodeAnswer_eq_ok_iff.mp h
  rw [hv]
  exact RecordForm.find?_kept hothers hget (hv ▸ v.isData) hread key

end Kept

namespace StageOutput

variable {stage : Stage} {v : Value} {p : StageOutput}

lemma decode_value (h : decode stage v = .ok p) (hfinite : ∀ x ∈ p.json.scalars, x.isFinite = true) :
    decode stage p.json.value = .ok p := by
  cases stage with
  | vision =>
    obtain ⟨d, hd, rfl⟩ := exists_of_map_eq_ok h
    exact congrArg (StageOutput.vision <$> ·) (decodeAnswer_stable (fun d => ⟨_, Vision.form.write_eq d⟩) hd hfinite)
  | systems =>
    obtain ⟨d, hd, rfl⟩ := exists_of_map_eq_ok h
    exact congrArg (StageOutput.systems <$> ·)
      (decodeAnswer_stable (fun d => ⟨_, SystemsDesign.form.write_eq d⟩) hd hfinite)
  | technical =>
    obtain ⟨d, hd, rfl⟩ := exists_of_map_eq_ok h
    exact congrArg (StageOutput.technical <$> ·)
      (decodeAnswer_stable (fun d => ⟨_, TechnicalDesign.form.write_eq d⟩) hd hfinite)
  | synthesis =>
    obtain ⟨d, hd, rfl⟩ := exists_of_map_eq_ok h
    exact congrArg (StageOutput.synthesis <$> ·)
      (decodeAnswer_stable (fun d => ⟨_, WorldDraft.form.write_eq d⟩) hd hfinite)
  | review =>
    obtain ⟨verdict, hd, rfl⟩ := exists_of_map_eq_ok h
    exact congrArg (StageOutput.review <$> ·)
      (decodeAnswer_stable (fun verdict => ⟨_, Verdict.form.write_eq verdict⟩) hd hfinite)

lemma find?_extra (h : decode stage v = .ok p) (hdesign : stage ∈ Stage.design) (key : String) :
    (p.extra.find? key).map (·.json) = if key ∈ stage.fieldNames then none else v.json.member? key := by
  cases stage with
  | vision =>
    obtain ⟨d, hd, rfl⟩ := exists_of_map_eq_ok h
    exact find?_of_decodeAnswer (f := Vision.form) rfl (fun _ _ => rfl) hd key
  | systems =>
    obtain ⟨d, hd, rfl⟩ := exists_of_map_eq_ok h
    exact find?_of_decodeAnswer (f := SystemsDesign.form) rfl (fun _ _ => rfl) hd key
  | technical =>
    obtain ⟨d, hd, rfl⟩ := exists_of_map_eq_ok h
    exact find?_of_decodeAnswer (f := TechnicalDesign.form) rfl (fun _ _ => rfl) hd key
  | synthesis => exact absurd hdesign (by decide)
  | review => exact absurd hdesign (by decide)

/-- A payload that was decoded is decoded from its own data, and its kept members are those of the answer that name
no field, as they are. -/
theorem decode_stable (h : decode stage v = .ok p) :
    ((∀ x ∈ p.json.scalars, x.isFinite = true) → decode stage p.json.value = .ok p) ∧
      (stage ∈ Stage.design → ∀ key, (p.extra.find? key).map (·.json) =
        if key ∈ stage.fieldNames then none else v.json.member? key) :=
  ⟨decode_value h, find?_extra h⟩

def gardenAnswer : Value := ⟨.object [
  ("interaction_systems", .array [.object [("pose", .string "sitting"), ("type", .string "rest")]]),
  ("physics_settings", .object [("gravity", .object [("y", .integer (-4))])]),
  ("weather_plan", .array [.string "rain", .null])], by decide +kernel⟩

def gardenDesign : SystemsDesign where
  physics := { gravity := .object none (some (-4)) none }
  interactions := [{ kind := "rest", extra := .ofList [("pose", .string "sitting")] }]
  extra := .ofList [("weather_plan", ⟨.array [.string "rain", .null], rfl⟩)]

theorem decode_stable_garden : decode .systems gardenAnswer = .ok (.systems gardenDesign) ∧
    decode .systems (systems gardenDesign).json.value = .ok (.systems gardenDesign) ∧
    (gardenDesign.extra.find? "weather_plan").map (·.json) = gardenAnswer.json.member? "weather_plan" := by
  have h : decode .systems gardenAnswer = .ok (.systems gardenDesign) := rfl
  refine ⟨h, (decode_stable h).1 (by decide +kernel), ?_⟩
  exact ((decode_stable h).2 (by decide) "weather_plan").trans (if_neg (by decide))

end StageOutput

end Diorama
