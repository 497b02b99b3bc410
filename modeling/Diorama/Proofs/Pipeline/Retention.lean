import Diorama.Proofs.Json.Retention
import Diorama.Proofs.Pipeline.Payloads

/-! What a design retains of the answer that it was decoded from. The design stages keep the members that they have no
field for, and so does each interaction, but the other parts of a design drop them. -/

namespace Diorama

open Json

def LooseVec3.Spelled (j : Json) : Prop :=
  j.AllItems IsFiniteNumber ∨
    j.IsObjectWith fun name item => name ∈ ["x", "y", "z"] ∧ (item = .null ∨ item.IsFiniteNumber)

def PhysicsPlan.Spelled : Json → Prop :=
  IsObjectWith fun
    | "gravity", j => LooseVec3.Spelled j
    | name, _ => name ∈ ["collision_enabled", "physics_materials"]

def LodStrategy.Spelled : Json → Prop :=
  IsObjectWith fun
    | "lod_distances", j => j.AllItems IsFiniteNumber
    | name, _ => name = "lod_levels"

def Vision.Spelled : Json → Prop :=
  IsObjectWith fun
    | "color_palette", j => j.HasOnly ["primary", "secondary"]
    | "lighting_design", j => j.HasOnly ["type", "time_of_day", "key_sources"]
    | _, _ => True

def SystemsDesign.Spelled : Json → Prop :=
  IsObjectWith fun
    | "physics_settings", j => PhysicsPlan.Spelled j
    | "gameplay_mechanics", j => j.HasOnly ["type", "objectives"]
    | _, _ => True

def TechnicalDesign.Spelled : Json → Prop :=
  IsObjectWith fun
    | "asset_requirements", j => j.HasOnly ["models", "textures", "materials", "audio"]
    | "performance_budget", j =>
      j.HasOnly ["target_fps", "max_poly_count", "max_texture_memory_mb", "max_draw_calls"]
    | "lod_strategy", j => LodStrategy.Spelled j
    | _, _ => True

lemma ColorPalette.retains : Retains ColorPalette (HasOnly ["primary", "secondary"]) := by
  have hs : form.Separate := ⟨by simp [form, Field.spares_required], fun _ _ h => nomatch h⟩
  exact RecordForm.retains_hasOnly hs (by decide) (by decide) (by simp [form, Field.retains_verbatim]) rfl

lemma LightingDesign.retains : Retains LightingDesign (HasOnly ["type", "time_of_day", "key_sources"]) := by
  have hs : form.Separate := ⟨by simp [form, Field.spares_required], fun _ _ h => nomatch h⟩
  exact RecordForm.retains_hasOnly hs (by decide) (by decide) (by simp [form, Field.retains_verbatim]) rfl

lemma GameplayPlan.retains : Retains GameplayPlan (HasOnly ["type", "objectives"]) := by
  have hs : form.Separate := ⟨by simp [form, Field.spares_required], fun _ _ h => nomatch h⟩
  exact RecordForm.retains_hasOnly hs (by decide) (by decide) (by simp [form, Field.retains_verbatim]) rfl

lemma AssetNeeds.retains : Retains AssetNeeds (HasOnly ["models", "textures", "materials", "audio"]) := by
  have hs : form.Separate := ⟨by simp [form, Field.spares_required], fun _ _ h => nomatch h⟩
  exact RecordForm.retains_hasOnly hs (by decide) (by decide) (by simp [form, Field.retains_verbatim]) rfl

lemma PerformanceBudget.retains : Retains PerformanceBudget
    (HasOnly ["target_fps", "max_poly_count", "max_texture_memory_mb", "max_draw_calls"]) := by
  have hs : form.Separate := ⟨by simp [form, Field.spares_required], fun _ _ h => nomatch h⟩
  exact RecordForm.retains_hasOnly hs (by decide) (by decide) (by simp [form, Field.retains_verbatim]) rfl

lemma LodStrategy.retains : Retains LodStrategy LodStrategy.Spelled := by
  have hs : form.Separate := ⟨by simp [form, Field.spares_required], fun _ _ h => nomatch h⟩
  refine RecordForm.retains hs (by decide) (by decide) ?_ fun name hname j h => ?_
  · exact .cons (Field.retains_verbatim (fun _ _ => rfl) (by simp)) <|
      .cons (retains_scalar.list.optional fun _ _ => rfl) .nil
  · split at h
    · exact hname (by decide)
    · exact hname (h ▸ List.mem_cons_self)

lemma Vec3.retains : Retains Vec3 (AllItems IsFiniteNumber) :=
  fun j v hdata h => retains_scalar.list j v.toList hdata (ofJson?_toList h)

lemma LooseVec3.Coordinates.retains : @Retains Coordinates coordinatesForm.jsonForm
    (IsObjectWith fun name item => name ∈ ["x", "y", "z"] ∧ (item = .null ∨ item.IsFiniteNumber)) := by
  have hs : coordinatesForm.Separate := ⟨by simp [coordinatesForm, Field.spares_required], fun _ _ h => nomatch h⟩
  have hfield {name : String} {get : Coordinates → Option Scalar} {set : Option Scalar → Coordinates → Coordinates}
      (hget : ∀ x c, get (set x c) = x) (hname : name ∈ ["x", "y", "z"]) : (Field.optional name get set).Retains
        fun item => name ∈ ["x", "y", "z"] ∧ (item = .null ∨ item.IsFiniteNumber) :=
    (retains_scalar.option.congr fun _ _ _ => (and_iff_right hname).symm).optional hget
  refine RecordForm.retains hs (by decide) (by decide) ?_ fun name hname j h => hname h.1
  exact .cons (hfield (fun _ _ => rfl) (by decide)) <| .cons (hfield (fun _ _ => rfl) (by decide)) <|
    .cons (hfield (fun _ _ => rfl) (by decide)) .nil

lemma LooseVec3.retains : Retains LooseVec3 LooseVec3.Spelled := by
  intro j v hdata h
  obtain ⟨-, h⟩ := Option.ite_none_right_eq_some.mp h
  cases j with
  | object members =>
    obtain ⟨c, hc, rfl⟩ := Option.map_eq_some_iff.mp h
    exact (Coordinates.retains _ c hdata hc).trans (or_iff_right id).symm
  | array items =>
    obtain ⟨v, hv, rfl⟩ := Option.map_eq_some_iff.mp h
    exact (Vec3.retains _ v hdata hv).trans (or_iff_left id).symm
  | _ =>
    obtain ⟨v, hv, -⟩ := Option.map_eq_some_iff.mp h
    cases hv

lemma PhysicsPlan.retains : Retains PhysicsPlan PhysicsPlan.Spelled := by
  have hs : form.Separate := ⟨by simp [form, Field.spares_required], fun _ _ h => nomatch h⟩
  refine RecordForm.retains hs (by decide) (by decide) ?_ fun name hname j h => ?_
  · exact .cons (LooseVec3.retains.optional fun _ _ => rfl) <|
      .cons (Field.retains_verbatim (fun _ _ => rfl) (by simp)) <|
      .cons (Field.retains_verbatim (fun _ _ => rfl) (by simp)) .nil
  · split at h
    · exact hname (by decide)
    · exact hname (List.mem_cons_of_mem _ h)

lemma InteractionPlan.retains : Retains InteractionPlan fun _ => True := by
  have hs : form.Separate := ⟨by simp [form, Field.spares_required], by rintro _ _ ⟨⟩; simp [form]⟩
  have hobject : Retains InteractionPlan (IsObjectWith fun _ _ => True) := by
    refine RecordForm.retains hs (by decide) (by decide) ?_ ⟨fun _ _ => rfl, fun _ _ _ => trivial⟩
    exact .cons (Field.retains_verbatim (fun _ _ => rfl) (by simp)) <|
      .cons (Field.retains_verbatim (fun _ _ => rfl) (by simp)) .nil
  refine hobject.congr fun j p h => ?_
  obtain ⟨members, rfl, -⟩ := RecordForm.exists_members_of_read? rfl h
  exact iff_true_intro fun _ _ => trivial

lemma InteractionPlan.retains_list : Retains (List InteractionPlan) fun _ => True := by
  refine InteractionPlan.retains.list.congr fun j plans h => ?_
  cases j with
  | array items => exact iff_true_intro fun _ _ => trivial
  | _ => cases h

lemma Vision.retains : Retains Vision Vision.Spelled := by
  have hs : form.Separate := ⟨by simp [form, Field.spares_required], by rintro _ _ ⟨⟩; simp [form]⟩
  refine RecordForm.retains hs (by decide) (by decide) ?_ ⟨fun _ _ => rfl, fun name hname j => ?_⟩
  · exact .cons (Field.retains_verbatim (fun _ _ => rfl) (by simp)) <|
      .cons (ColorPalette.retains.optional fun _ _ => rfl) <|
      .cons (Field.retains_verbatim (fun _ _ => rfl) (by simp)) <|
      .cons (LightingDesign.retains.optional fun _ _ => rfl) <|
      .cons (Field.retains_verbatim (fun _ _ => rfl) (by simp)) <|
      .cons (Field.retains_verbatim (fun _ _ => rfl) (by simp)) <|
      .cons (Field.retains_verbatim (fun _ _ => rfl) (by simp)) .nil
  · dsimp only
    split
    · exact (hname (by decide)).elim
    · exact (hname (by decide)).elim
    · trivial

lemma SystemsDesign.retains : Retains SystemsDesign SystemsDesign.Spelled := by
  have hs : form.Separate := ⟨by simp [form, Field.spares_required], by rintro _ _ ⟨⟩; simp [form]⟩
  refine RecordForm.retains hs (by decide) (by decide) ?_ ⟨fun _ _ => rfl, fun name hname j => ?_⟩
  · exact .cons (PhysicsPlan.retains.optional fun _ _ => rfl) <|
      .cons (InteractionPlan.retains_list.optional fun _ _ => rfl) <|
      .cons (GameplayPlan.retains.optional fun _ _ => rfl) <|
      .cons (Field.retains_verbatim (fun _ _ => rfl) (by simp)) <|
      .cons (Field.retains_verbatim (fun _ _ => rfl) (by simp)) .nil
  · dsimp only
    split
    · exact (hname (by decide)).elim
    · exact (hname (by decide)).elim
    · trivial

lemma TechnicalDesign.retains : Retains TechnicalDesign TechnicalDesign.Spelled := by
  have hs : form.Separate := ⟨by simp [form, Field.spares_required], by rintro _ _ ⟨⟩; simp [form]⟩
  refine RecordForm.retains hs (by decide) (by decide) ?_ ⟨fun _ _ => rfl, fun name hname j => ?_⟩
  · exact .cons (AssetNeeds.retains.optional fun _ _ => rfl) <|
      .cons (PerformanceBudget.retains.optional fun _ _ => rfl) <|
      .cons (LodStrategy.retains.optional fun _ _ => rfl) <|
      .cons (Field.retains_verbatim (fun _ _ => rfl) (by simp)) <|
      .cons (Field.retains_verbatim (fun _ _ => rfl) (by simp)) <|
      .cons (Field.retains_verbatim (fun _ _ => rfl) (by simp)) .nil
  · dsimp only
    split
    · exact (hname (by decide)).elim
    · exact (hname (by decide)).elim
    · exact (hname (by decide)).elim
    · trivial

def Stage.Spelled : Stage → Json → Prop
  | .vision => Vision.Spelled
  | .systems => SystemsDesign.Spelled
  | .technical => TechnicalDesign.Spelled
  | _ => fun _ => True

section Answers

variable {α : Type} [JsonForm α] {P : Json → Prop} {v : Value} {a : α}

lemma Retains.decodeAnswer (h : Retains α P) (ha : decodeAnswer v = .ok a) :
    v.json.RetainedIn (toJson a) ↔ P v.json := by
  obtain ⟨members, hv, hread⟩ := decodeAnswer_eq_ok_iff.mp ha
  exact h v.json a v.isData (hv ▸ hread)

end Answers

namespace StageOutput

variable {stage : Stage} {v : Value} {p : StageOutput}

/-- A design says all of the answer that it was decoded from exactly if the parts of the answer that drop members
are given no other ones. -/
theorem decode_retains_iff (h : decode stage v = .ok p) (hdesign : stage ∈ Stage.design) :
    v.json.RetainedIn p.json ↔ stage.Spelled v.json := by
  cases stage with
  | vision =>
    obtain ⟨d, hd, rfl⟩ := exists_of_map_eq_ok h
    exact Vision.retains.decodeAnswer hd
  | systems =>
    obtain ⟨d, hd, rfl⟩ := exists_of_map_eq_ok h
    exact SystemsDesign.retains.decodeAnswer hd
  | technical =>
    obtain ⟨d, hd, rfl⟩ := exists_of_map_eq_ok h
    exact TechnicalDesign.retains.decodeAnswer hd
  | synthesis => exact absurd hdesign (by decide)
  | review => exact absurd hdesign (by decide)

theorem decode_retains_garden : decode .systems gardenAnswer = .ok (.systems gardenDesign) ∧
    gardenAnswer.json.RetainedIn (systems gardenDesign).json := by
  have h : decode .systems gardenAnswer = .ok (.systems gardenDesign) := rfl
  have hfall : IsFiniteNumber (.integer (-4)) := ⟨-4, rfl, by decide +kernel⟩
  refine ⟨h, (decode_retains_iff h (by decide)).mpr ?_⟩
  simp [Stage.Spelled, SystemsDesign.Spelled, PhysicsPlan.Spelled, LooseVec3.Spelled, gardenAnswer, IsObjectWith, hfall]

def accentedAnswer : Value := ⟨.object [
  ("color_palette", .object [("accent", .array [.string "#ff0000"]), ("primary", .array [.string "#ffffff"])])],
  by decide +kernel⟩

theorem decode_drops_accent : ∃ p, decode .vision accentedAnswer = .ok p ∧ ¬ accentedAnswer.json.RetainedIn p.json := by
  refine ⟨.vision { palette := { primary := ["#ffffff"] } }, rfl, ?_⟩
  rintro ⟨members, hdesign, ⟨palette, hpalette, ⟨colors, hcolors, ⟨accent, haccent, -⟩, -⟩⟩, -⟩
  obtain rfl := Json.object.inj hdesign
  obtain rfl := Json.object.inj ((Option.some.inj hpalette).trans hcolors)
  cases haccent

end StageOutput

end Diorama
