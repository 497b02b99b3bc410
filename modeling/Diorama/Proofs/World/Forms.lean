import Diorama.Proofs.Json.LawfulRecord
import Diorama.World.Basic

namespace Diorama

open Json

instance : LawfulNamed Weather := ⟨fun a => by cases a <;> rfl⟩

instance : LawfulNamed LightKind := ⟨fun a => by cases a <;> rfl⟩

instance : LawfulNamed MaterialKind := ⟨fun a => by cases a <;> rfl⟩

instance : LawfulNamed ColliderKind := ⟨fun a => by cases a <;> rfl⟩

instance : LawfulNamed EntityKind := ⟨fun a => by cases a <;> rfl⟩

instance : LawfulNamed Trigger := ⟨fun a => by cases a <;> rfl⟩

instance : LawfulNamed Action := ⟨fun a => by cases a <;> rfl⟩

instance : LawfulForm Vec3 where
  wellFormed v := wellFormed v.toList
  ofJson?_of_renderedAs {v j} h := by
    obtain ⟨_, rfl, x, _, rfl, hx, y, _, rfl, hy, z, _, rfl, hz, rfl⟩ := h
    change (do return (⟨← ofJson? x, ← ofJson? y, ← ofJson? z⟩ : Vec3)) = some v
    rw [show ofJson? x = some v.x from hx, show ofJson? y = some v.y from hy, show ofJson? z = some v.z from hz]
    rfl

lemma Vec3.ofJson?_toList {j : Json} {v : Vec3} (h : ofJson? j = some v) : ofJson? j = some v.toList := by
  cases j with
  | array items =>
    match items, h with
    | [a, b, c], h =>
      obtain ⟨x, hx, h⟩ := Option.bind_eq_some_iff.mp h
      obtain ⟨y, hy, h⟩ := Option.bind_eq_some_iff.mp h
      obtain ⟨z, hz, h⟩ := Option.bind_eq_some_iff.mp h
      obtain rfl := Option.some.inj h
      exact mapM_eq_some_iff.mpr (.cons hx (.cons hy (.cons hz .nil)))
  | _ => cases h

instance : LawfulForm Color :=
  RecordForm.lawfulForm (by decide) (.cons copies_required <| .cons copies_required <| .cons copies_required <|
    .cons copies_optional .nil) fun _ => rfl

instance : PresentForm Color := RecordForm.presentForm

instance : LawfulForm Transform :=
  RecordForm.lawfulForm (by decide) (.cons copies_optional <| .cons copies_optional <|
    .cons copies_optional .nil) fun _ => rfl

instance : LawfulForm TimeOfDay :=
  RecordForm.lawfulForm (by decide) (.cons copies_optional <| .cons copies_optional <| .cons copies_optional <|
    .cons copies_optional .nil) fun _ => rfl

instance : LawfulForm Fog :=
  RecordForm.lawfulForm (by decide) (.cons copies_optional <| .cons copies_optional <|
    .cons copies_optional .nil) fun _ => rfl

instance : LawfulForm Skybox :=
  RecordForm.lawfulForm (by decide) (.cons copies_optional <| .cons copies_optional <| .cons copies_optional <|
    .cons copies_optional <| .cons copies_optional .nil) fun _ => rfl

instance : LawfulForm Environment :=
  RecordForm.lawfulForm (by decide) (.cons copies_optional <| .cons copies_optional <| .cons copies_optional <|
    .cons copies_optional <| .cons copies_optional <| .cons copies_optional <|
    .cons copies_optional .nil) fun _ => rfl

instance : LawfulForm Material :=
  RecordForm.lawfulForm (by decide) (.cons copies_required <| .cons copies_optional <| .cons copies_optional <|
    .cons copies_optional <| .cons copies_optional <| .cons copies_optional <| .cons copies_optional <|
    .cons copies_optional <| .cons copies_optional .nil) fun _ => rfl

instance : PresentForm Material := RecordForm.presentForm

instance : LawfulForm Physics :=
  RecordForm.lawfulForm (by decide) (.cons copies_optional <| .cons copies_optional <| .cons copies_optional <|
    .cons copies_optional <| .cons copies_optional <| .cons copies_optional <|
    .cons copies_optional .nil) fun _ => rfl

instance : PresentForm Physics := RecordForm.presentForm

instance : LawfulForm Collider :=
  RecordForm.lawfulForm (by decide) (.cons copies_optional <| .cons copies_optional <| .cons copies_optional <|
    .cons copies_optional <| .cons copies_optional <| .cons copies_optional .nil) fun _ => rfl

instance : PresentForm Collider := RecordForm.presentForm

instance : LawfulForm Entity :=
  RecordForm.lawfulForm (by decide) (.cons copies_required <| .cons copies_required <| .cons copies_optional <|
    .cons copies_optional <| .cons copies_optional <| .cons copies_optional <| .cons copies_optional <|
    .cons copies_optional <| .cons copies_optional <| .cons copies_optional <| .cons copies_optional <|
    .cons copies_optional <| .cons copies_optional .nil) fun _ => rfl

instance : LawfulForm Light :=
  RecordForm.lawfulForm (by decide) (.cons copies_required <| .cons copies_required <| .cons copies_optional <|
    .cons copies_optional <| .cons copies_optional <| .cons copies_optional <| .cons copies_optional <|
    .cons copies_optional <| .cons copies_optional .nil) fun _ => rfl

instance : LawfulForm Interaction :=
  RecordForm.lawfulForm (by decide) (.cons copies_required <| .cons copies_required <| .cons copies_optional <|
    .cons copies_optional .nil) fun _ => rfl

instance : LawfulForm Mechanism :=
  RecordForm.lawfulForm (by decide) (.cons copies_required <| .cons copies_required <| .cons copies_optional <|
    .cons copies_optional <| .cons copies_optional <| .cons copies_optional <|
    .cons copies_optional .nil) fun _ => rfl

instance : LawfulForm Box :=
  RecordForm.lawfulForm (by decide) (.cons copies_required <| .cons copies_required .nil) fun _ => rfl

instance : LawfulForm WorldInfo :=
  RecordForm.lawfulForm (by decide) (.cons copies_required <| .cons copies_optional <| .cons copies_optional <|
    .cons copies_optional <| .cons copies_optional <| .cons copies_optional .nil) fun _ => rfl

instance : LawfulForm World :=
  RecordForm.lawfulForm (by decide) (.cons copies_required <| .cons copies_optional <| .cons copies_optional <|
    .cons copies_optional <| .cons copies_optional <| .cons copies_optional .nil) fun _ => rfl

def Transform.scalars (t : Transform) : List Scalar := t.position.toList ++ t.rotation.toList ++ t.scale.toList

def TimeOfDay.scalars (t : TimeOfDay) : List Scalar := [t.cycleSeconds]

def Fog.scalars (f : Fog) : List Scalar := f.color.channels ++ [f.density]

def Skybox.scalars (s : Skybox) : List Scalar := s.tint.channels ++ [s.exposure, s.rotation]

def Environment.scalars (e : Environment) : List Scalar :=
  e.timeOfDay.scalars ++ e.ambientLight.channels ++ e.fog.scalars ++ e.skybox.scalars ++ e.gravity.toList

def Material.scalars (m : Material) : List Scalar :=
  m.baseColor.channels ++ [m.metallic, m.roughness] ++ m.emissionColor.toList.flatMap Color.channels ++
    [m.emissionStrength]

def Physics.scalars (p : Physics) : List Scalar := [p.mass, p.drag, p.angularDrag]

def Collider.scalars (c : Collider) : List Scalar :=
  c.center.toList ++ c.size.toList ++ c.radius.toList ++ c.height.toList

def Entity.scalars (e : Entity) : List Scalar :=
  e.transform.scalars ++ e.material.toList.flatMap Material.scalars ++ e.physics.toList.flatMap Physics.scalars ++
    e.collider.toList.flatMap Collider.scalars

def Light.scalars (l : Light) : List Scalar :=
  l.color.channels ++ [l.intensity] ++ l.range.toList ++ l.spotAngle.toList ++ l.transform.scalars

def Box.scalars (b : Box) : List Scalar := b.min.toList ++ b.max.toList

namespace World

def scalars (w : World) : List Scalar :=
  w.environment.scalars ++ w.entities.flatMap Entity.scalars ++ w.lights.flatMap Light.scalars ++ w.bounds.scalars

def IsFinite (w : World) : Prop := ∀ x ∈ w.scalars, x.isFinite = true

end World

lemma RecordForm.scalars_write {ρ : Type} {f : RecordForm ρ} (hothers : f.others = .refused) (r : ρ) :
    (f.write r).scalars = f.fields.flatMap fun field => (field.write r).scalars := by
  have hmembers : ∀ fields : List (Field ρ), membersScalars (writtenFields fields r) =
      fields.flatMap fun field => (field.write r).scalars := by
    intro fields
    induction fields with
    | nil => rfl
    | cons field fields ih => exact congrArg _ ih
  rw [RecordForm.write, hothers]
  exact hmembers f.fields

section Scalars

variable {α : Type} [JsonForm α]

@[simp] lemma scalars_toJson_scalar (x : Scalar) : (toJson x).scalars = [x] := rfl

@[simp] lemma scalars_toJson_string (s : String) : (toJson s).scalars = [] := rfl

@[simp] lemma scalars_toJson_bool (b : Bool) : (toJson b).scalars = [] := rfl

@[simp] lemma scalars_toJson_int32 (n : Int32) : (toJson n).scalars = [] := rfl

@[simp] lemma scalars_toJson_named {β : Type} [Named β] (b : β) : (toJson b).scalars = [] := rfl

@[simp] lemma scalars_toJson_option (o : Option α) :
    (toJson o).scalars = o.toList.flatMap fun a => (toJson a).scalars := by
  cases o with
  | none => rfl
  | some a => exact (List.flatMap_singleton _ _).symm

@[simp] lemma scalars_toJson_list (items : List α) :
    (toJson items).scalars = items.flatMap fun a => (toJson a).scalars := by
  change itemsScalars (items.map toJson) = _
  induction items with
  | nil => rfl
  | cons a items ih => rw [List.map_cons, itemsScalars, ih, List.flatMap_cons]

@[simp] lemma scalars_toJson_nameSet (s : NameSet) : (toJson s).scalars = [] := by
  change (toJson s.names).scalars = []
  rw [scalars_toJson_list]
  exact List.flatMap_eq_nil_iff.mpr fun _ _ => rfl

lemma scalars_toJson_entries (d : Dictionary α) :
    (toJson d).scalars = d.entries.flatMap fun entry => (toJson entry.2).scalars := by
  change membersScalars (written d.entries) = _
  induction d.entries with
  | nil => rfl
  | cons entry entries ih => exact congrArg _ ih

@[simp] lemma scalars_toJson_dictionary (d : Dictionary Value) : (toJson d).scalars = [] := by
  rw [scalars_toJson_entries]
  exact List.flatMap_eq_nil_iff.mpr fun entry _ => scalars_of_isData _ entry.2.isData

end Scalars

@[simp] lemma scalars_toJson_vec3 (v : Vec3) : (toJson v).scalars = v.toList := rfl

@[simp] lemma scalars_toJson_color (c : Color) : (toJson c).scalars = c.channels := rfl

@[simp] lemma scalars_toJson_transform (t : Transform) : (toJson t).scalars = t.scalars := rfl

@[simp] lemma scalars_toJson_physics (p : Physics) : (toJson p).scalars = p.scalars := rfl

@[simp] lemma scalars_toJson_box (b : Box) : (toJson b).scalars = b.scalars := rfl

@[simp] lemma scalars_toJson_timeOfDay (t : TimeOfDay) : (toJson t).scalars = t.scalars := rfl

@[simp] lemma scalars_toJson_fog (f : Fog) : (toJson f).scalars = f.scalars := rfl

@[simp] lemma scalars_toJson_skybox (s : Skybox) : (toJson s).scalars = s.scalars := by
  refine (RecordForm.scalars_write rfl s).trans ?_
  simp [Skybox.form, Skybox.scalars]

@[simp] lemma scalars_toJson_environment (e : Environment) : (toJson e).scalars = e.scalars := by
  refine (RecordForm.scalars_write rfl e).trans ?_
  simp [Environment.form, Environment.scalars]

@[simp] lemma scalars_toJson_material (m : Material) : (toJson m).scalars = m.scalars := by
  refine (RecordForm.scalars_write rfl m).trans ?_
  simp [Material.form, Material.scalars]

@[simp] lemma scalars_toJson_collider (c : Collider) : (toJson c).scalars = c.scalars := by
  refine (RecordForm.scalars_write rfl c).trans ?_
  simp [Collider.form, Collider.scalars]

@[simp] lemma scalars_toJson_entity (e : Entity) : (toJson e).scalars = e.scalars := by
  refine (RecordForm.scalars_write rfl e).trans ?_
  simp [Entity.form, Entity.scalars]

@[simp] lemma scalars_toJson_light (l : Light) : (toJson l).scalars = l.scalars := by
  refine (RecordForm.scalars_write rfl l).trans ?_
  simp [Light.form, Light.scalars]

@[simp] lemma scalars_toJson_interaction (i : Interaction) : (toJson i).scalars = [] := by
  refine (RecordForm.scalars_write rfl i).trans ?_
  simp [Interaction.form]

@[simp] lemma scalars_toJson_mechanism (m : Mechanism) : (toJson m).scalars = [] := by
  refine (RecordForm.scalars_write rfl m).trans ?_
  simp [Mechanism.form]

@[simp] lemma scalars_toJson_worldInfo (m : WorldInfo) : (toJson m).scalars = [] := by
  refine (RecordForm.scalars_write rfl m).trans ?_
  simp [WorldInfo.form]

lemma scalars_toJson_world (w : World) : (toJson w).scalars = w.scalars := by
  refine (RecordForm.scalars_write rfl w).trans ?_
  simp [World.form, World.scalars]

end Diorama
