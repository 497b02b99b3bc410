import Diorama.Pipeline.Generator
import Diorama.Proofs.Json.ReadRecord
import Diorama.Proofs.World.Forms

namespace Diorama

open Json

instance : @LawfulForm LooseVec3.Coordinates LooseVec3.coordinatesForm.jsonForm :=
  RecordForm.lawfulForm (by decide) (.cons copies_optional <| .cons copies_optional <|
    .cons copies_optional .nil) fun _ => rfl

instance : LawfulForm LooseVec3 where
  wellFormed
    | .array v => wellFormed v
    | .object x y z => @LawfulForm.wellFormed _ LooseVec3.coordinatesForm.jsonForm _ ⟨x, y, z⟩
  ofJson?_of_renderedAs {v j} h := by
    have hreadable : j.isReadable = true := isReadable_of_renderedAs _ _ h
    cases v with
    | array v =>
      have hread : ofJson? j = some v := ofJson?_of_renderedAs h
      obtain ⟨items, rfl, -⟩ := h
      refine (if_pos hreadable).trans ?_
      exact congrArg (Option.map LooseVec3.array) hread
    | object x y z =>
      have hread := @ofJson?_of_renderedAs _ LooseVec3.coordinatesForm.jsonForm _ ⟨x, y, z⟩ _ h
      obtain ⟨members, -, rfl, -⟩ := h
      refine (if_pos hreadable).trans ?_
      exact congrArg (Option.map fun c : LooseVec3.Coordinates => LooseVec3.object c.x c.y c.z) hread

instance : PresentForm LooseVec3 where
  toJson_ne_null
    | .array _ => fun h => nomatch h
    | .object _ _ _ => fun h => nomatch h

instance : LawfulForm LooseColor :=
  RecordForm.lawfulForm (by decide) (.cons copies_optional <| .cons copies_optional <| .cons copies_optional <|
    .cons copies_optional .nil) fun _ => rfl

instance : PresentForm LooseColor := RecordForm.presentForm

instance : LawfulForm LooseTransform :=
  RecordForm.lawfulForm (by decide) (.cons copies_optional <| .cons copies_optional <|
    .cons copies_optional .nil) fun _ => rfl

instance : PresentForm Bool := ⟨fun _ h => nomatch h⟩

instance : PresentForm UInt8 := ⟨fun _ h => nomatch h⟩

instance {α : Type} [JsonForm α] : PresentForm (List α) := ⟨fun _ h => nomatch h⟩

instance {α : Type} [Named α] : PresentForm α := ⟨fun _ h => nomatch h⟩

instance : LawfulForm DraftMaterial :=
  RecordForm.lawfulForm (by decide) (.cons copies_optional <| .cons copies_optional <| .cons copies_optional <|
    .cons copies_optional <| .cons copies_optional <| .cons copies_optional <| .cons copies_optional <|
    .cons copies_optional <| .cons copies_optional .nil) fun _ => rfl

instance : PresentForm DraftMaterial := RecordForm.presentForm

instance : LawfulForm DraftPhysics :=
  RecordForm.lawfulForm (by decide) (.cons copies_optional <| .cons copies_optional <| .cons copies_optional <|
    .cons copies_optional <| .cons copies_optional <| .cons copies_optional <|
    .cons copies_optional .nil) fun _ => rfl

instance : PresentForm DraftPhysics := RecordForm.presentForm

instance : LawfulForm DraftEntity :=
  RecordForm.lawfulForm (by decide) (.cons copies_optional <| .cons copies_optional <| .cons copies_optional <|
    .cons copies_optional <| .cons copies_optional <| .cons copies_optional <| .cons copies_optional <|
    .cons copies_optional <| .cons copies_optional <| .cons copies_optional <|
    .cons copies_optional .nil) fun _ => rfl

instance : LawfulForm DraftLight :=
  RecordForm.lawfulForm (by decide) (.cons copies_optional <| .cons copies_optional <| .cons copies_optional <|
    .cons copies_optional <| .cons copies_optional <| .cons copies_optional <| .cons copies_optional <|
    .cons copies_optional <| .cons copies_optional .nil) fun _ => rfl

instance : LawfulForm DraftInteraction :=
  RecordForm.lawfulForm (by decide) (.cons copies_required <| .cons copies_required <| .cons copies_optional <|
    .cons copies_optional .nil) fun _ => rfl

instance : LawfulForm DraftMechanism :=
  RecordForm.lawfulForm (by decide) (.cons copies_optional <| .cons copies_optional <| .cons copies_optional <|
    .cons copies_optional <| .cons copies_optional <| .cons copies_optional <|
    .cons copies_optional .nil) fun _ => rfl

instance : LawfulForm DraftTimeOfDay :=
  RecordForm.lawfulForm (by decide) (.cons copies_optional <| .cons copies_optional <|
    .cons copies_optional .nil) fun _ => rfl

instance : PresentForm DraftTimeOfDay := RecordForm.presentForm

instance : LawfulForm DraftEnvironment :=
  RecordForm.lawfulForm (by decide) (.cons copies_optional <| .cons copies_optional <| .cons copies_optional <|
    .cons copies_optional <| .cons copies_optional <| .cons copies_optional <| .cons copies_optional <|
    .cons copies_optional .nil) fun _ => rfl

instance : LawfulForm DraftInfo :=
  RecordForm.lawfulForm (by decide) (.cons copies_optional <| .cons copies_optional <| .cons copies_optional <|
    .cons copies_optional <| .cons copies_optional <| .cons copies_optional .nil) fun _ => rfl

instance : LawfulForm WorldDraft :=
  RecordForm.lawfulForm (by decide) (.cons copies_optional <| .cons copies_optional <| .cons copies_optional <|
    .cons copies_optional <| .cons copies_optional .nil) fun _ => rfl

instance : LawfulForm Verdict :=
  RecordForm.lawfulForm (by decide) (.cons (copies_optional.orNamed "approval") <| .cons copies_optional <|
    .cons copies_optional <| .cons copies_optional <| .cons copies_optional <| .cons copies_optional <|
    .cons copies_optional <| .cons copies_optional .nil) fun _ => rfl

instance : LawfulForm ColorPalette :=
  RecordForm.lawfulForm (by decide) (.cons copies_optional <| .cons copies_optional .nil) fun _ => rfl

instance : LawfulForm LightingDesign :=
  RecordForm.lawfulForm (by decide) (.cons copies_optional <| .cons copies_optional <|
    .cons copies_optional .nil) fun _ => rfl

instance : LawfulForm PhysicsPlan :=
  RecordForm.lawfulForm (by decide) (.cons copies_optional <| .cons copies_optional <|
    .cons copies_optional .nil) fun _ => rfl

instance : LawfulForm GameplayPlan :=
  RecordForm.lawfulForm (by decide) (.cons copies_optional <| .cons copies_optional .nil) fun _ => rfl

instance : LawfulForm AssetNeeds :=
  RecordForm.lawfulForm (by decide) (.cons copies_optional <| .cons copies_optional <| .cons copies_optional <|
    .cons copies_optional .nil) fun _ => rfl

instance : LawfulForm PerformanceBudget :=
  RecordForm.lawfulForm (by decide) (.cons copies_optional <| .cons copies_optional <| .cons copies_optional <|
    .cons copies_optional .nil) fun _ => rfl

instance : LawfulForm LodStrategy :=
  RecordForm.lawfulForm (by decide) (.cons copies_optional <| .cons copies_optional .nil) fun _ => rfl

lemma InteractionPlan.faithful {p : InteractionPlan} (h : form.Clears p.extra) : Faithful p :=
  RecordForm.faithful _ (by decide) (.cons (copies_optional p) <| .cons (copies_optional p) .nil) ⟨h, rfl⟩

lemma Vision.faithful {d : Vision} (h : form.Clears d.extra) : Faithful d :=
  RecordForm.faithful _ (by decide) (.cons (copies_optional d) <| .cons (copies_optional d) <|
    .cons (copies_optional d) <| .cons (copies_optional d) <| .cons (copies_optional d) <|
    .cons (copies_optional d) <| .cons (copies_optional d) .nil) ⟨h, rfl⟩

lemma TechnicalDesign.faithful {d : TechnicalDesign} (h : form.Clears d.extra) : Faithful d :=
  RecordForm.faithful _ (by decide) (.cons (copies_optional d) <| .cons (copies_optional d) <|
    .cons (copies_optional d) <| .cons (copies_optional d) <| .cons (copies_optional d) <|
    .cons (copies_optional d) .nil) ⟨h, rfl⟩

lemma SystemsDesign.faithful {d : SystemsDesign} (h : form.Clears d.extra) (hi : Faithful d.interactions) :
    Faithful d :=
  RecordForm.faithful _ (by decide) (.cons (copies_optional d) <| .cons hi.copies_optional <|
    .cons (copies_optional d) <| .cons (copies_optional d) <| .cons (copies_optional d) .nil) ⟨h, rfl⟩

instance : StableForm InteractionPlan where
  faithful_of_ofJson? h := by
    obtain ⟨members, -, hread⟩ := RecordForm.exists_members_of_read? rfl h
    exact InteractionPlan.faithful (RecordForm.clears_of_readMembers? rfl (fun _ _ => rfl) hread)

instance : StableForm Vision where
  faithful_of_ofJson? h := by
    obtain ⟨members, -, hread⟩ := RecordForm.exists_members_of_read? rfl h
    exact Vision.faithful (RecordForm.clears_of_readMembers? rfl (fun _ _ => rfl) hread)

instance : StableForm TechnicalDesign where
  faithful_of_ofJson? h := by
    obtain ⟨members, -, hread⟩ := RecordForm.exists_members_of_read? rfl h
    exact TechnicalDesign.faithful (RecordForm.clears_of_readMembers? rfl (fun _ _ => rfl) hread)

lemma SystemsDesign.faithful_interactions {members : List (String × Json)} {d : SystemsDesign}
    (h : form.readMembers? members = some d) : Faithful d.interactions := by
  refine RecordForm.readMembers?_induction (P := fun d : SystemsDesign => Faithful d.interactions) h ?_ ?_ ?_
  · -- The interactions of the blank design keep no members.
    refine Faithful.list fun p hp => InteractionPlan.faithful fun entry hentry => ?_
    have hnone : p.extra = ∅ := by
      rcases List.mem_cons.mp hp with rfl | hp
      · rfl
      · exact List.mem_singleton.mp hp ▸ rfl
    rw [hnone] at hentry
    cases hentry
  · intro g hg j s t hs hread
    simp only [form, List.mem_cons, List.not_mem_nil, or_false] at hg
    rcases hg with rfl | rfl | rfl | rfl | rfl
    case inr.inl =>
      obtain ⟨interactions, hi, rfl⟩ := Field.read?_optional hread
      exact faithful_of_ofJson? hi
    all_goals
      obtain ⟨_, -, rfl⟩ := Field.read?_optional hread
      exact hs
  · rintro get set hkept extra s hs
    cases hkept
    exact hs

instance : StableForm SystemsDesign where
  faithful_of_ofJson? h := by
    obtain ⟨members, -, hread⟩ := RecordForm.exists_members_of_read? rfl h
    exact SystemsDesign.faithful (RecordForm.clears_of_readMembers? rfl (fun _ _ => rfl) hread)
      (SystemsDesign.faithful_interactions hread)

end Diorama
