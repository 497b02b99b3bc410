import Diorama.Proofs.Json.Reopening
import Diorama.Proofs.Json.ShallowForm
import Diorama.Proofs.World.Forms

namespace Diorama

open Json

lemma Color.separate : Color.form.Separate := ⟨by simp [form, Field.spares_required], fun _ _ h => nomatch h⟩

lemma Transform.separate : Transform.form.Separate := ⟨by simp [form, Field.spares_required], fun _ _ h => nomatch h⟩

lemma TimeOfDay.separate : TimeOfDay.form.Separate := ⟨by simp [form, Field.spares_required], fun _ _ h => nomatch h⟩

lemma Fog.separate : Fog.form.Separate := ⟨by simp [form, Field.spares_required], fun _ _ h => nomatch h⟩

lemma Skybox.separate : Skybox.form.Separate := ⟨by simp [form, Field.spares_required], fun _ _ h => nomatch h⟩

lemma Environment.separate : Environment.form.Separate :=
  ⟨by simp [form, Field.spares_required], fun _ _ h => nomatch h⟩

lemma Material.separate : Material.form.Separate := ⟨by simp [form, Field.spares_required], fun _ _ h => nomatch h⟩

lemma Physics.separate : Physics.form.Separate := ⟨by simp [form, Field.spares_required], fun _ _ h => nomatch h⟩

lemma Collider.separate : Collider.form.Separate := ⟨by simp [form, Field.spares_required], fun _ _ h => nomatch h⟩

lemma Entity.separate : Entity.form.Separate := ⟨by simp [form, Field.spares_required], fun _ _ h => nomatch h⟩

lemma Light.separate : Light.form.Separate := ⟨by simp [form, Field.spares_required], fun _ _ h => nomatch h⟩

lemma Interaction.separate : Interaction.form.Separate :=
  ⟨by simp [form, Field.spares_required], fun _ _ h => nomatch h⟩

lemma Mechanism.separate : Mechanism.form.Separate := ⟨by simp [form, Field.spares_required], fun _ _ h => nomatch h⟩

lemma Box.separate : Box.form.Separate := ⟨by simp [form, Field.spares_required], fun _ _ h => nomatch h⟩

lemma WorldInfo.separate : WorldInfo.form.Separate := ⟨by simp [form, Field.spares_required], fun _ _ h => nomatch h⟩

lemma World.separate : World.form.Separate := ⟨by simp [form, Field.spares_required], fun _ _ h => nomatch h⟩

instance : ShallowForm Vec3 where
  levels := 1
  depth_of_ofJson? _ := le_max_right _ _

instance : ShallowForm Color :=
  RecordForm.shallowForm Color.separate rfl 0
    (by simp [Color.form, Field.shallow_required, Field.shallow_optional, levels]) (by decide)

instance : ShallowForm Transform :=
  RecordForm.shallowForm Transform.separate rfl 1 (by simp [Transform.form, Field.shallow_optional, levels]) (by decide)

instance : ShallowForm TimeOfDay :=
  RecordForm.shallowForm TimeOfDay.separate rfl 0 (by simp [TimeOfDay.form, Field.shallow_optional, levels]) (by decide)

instance : ShallowForm Fog :=
  RecordForm.shallowForm Fog.separate rfl 1 (by simp [Fog.form, Field.shallow_optional, levels]) (by decide)

instance : ShallowForm Skybox :=
  RecordForm.shallowForm Skybox.separate rfl 1 (by simp [Skybox.form, Field.shallow_optional, levels]) (by decide)

instance : ShallowForm Environment :=
  RecordForm.shallowForm Environment.separate rfl 2
    (by simp [Environment.form, Field.shallow_optional, levels]) (by decide)

instance : ShallowForm Material :=
  RecordForm.shallowForm Material.separate rfl 1
    (by simp [Material.form, Field.shallow_required, Field.shallow_optional, levels]) (by decide)

instance : ShallowForm Physics :=
  RecordForm.shallowForm Physics.separate rfl 0 (by simp [Physics.form, Field.shallow_optional, levels]) (by decide)

instance : ShallowForm Collider :=
  RecordForm.shallowForm Collider.separate rfl 1 (by simp [Collider.form, Field.shallow_optional, levels]) (by decide)

instance : ShallowForm Entity :=
  RecordForm.shallowForm Entity.separate rfl 2
    (by simp [Entity.form, Field.shallow_required, Field.shallow_optional, levels]) (by decide)

instance : ShallowForm Light :=
  RecordForm.shallowForm Light.separate rfl 2
    (by simp [Light.form, Field.shallow_required, Field.shallow_optional, levels]) (by decide)

instance : ShallowForm Interaction :=
  RecordForm.shallowForm Interaction.separate rfl 1
    (by simp [Interaction.form, Field.shallow_required, Field.shallow_optional, levels]) (by decide)

instance : ShallowForm Mechanism :=
  RecordForm.shallowForm Mechanism.separate rfl 3
    (by simp [Mechanism.form, Field.shallow_required, Field.shallow_optional, levels]) (by decide)

instance : ShallowForm Box :=
  RecordForm.shallowForm Box.separate rfl 1 (by simp [Box.form, Field.shallow_required, levels]) (by decide)

instance : ShallowForm WorldInfo :=
  RecordForm.shallowForm WorldInfo.separate rfl 1
    (by simp [WorldInfo.form, Field.shallow_required, Field.shallow_optional, levels]) (by decide)

instance : ShallowForm World :=
  RecordForm.shallowForm World.separate rfl 5
    (by simp [World.form, Field.shallow_required, Field.shallow_optional, levels]) (by decide)

instance : ExactForm Vec3 where
  survives_of_ofJson? {v} h := by
    have hlist : ofJson? (toJson v.toList).reread = some v.toList := Vec3.ofJson?_toList h
    exact (survives_of_ofJson? hlist : (toJson v.toList).Survives)

instance : ExactForm Color :=
  RecordForm.exactForm Color.separate rfl (by simp [Color.form, Field.exact_required, Field.exact_optional])

instance : ExactForm Transform :=
  RecordForm.exactForm Transform.separate rfl (by simp [Transform.form, Field.exact_optional])

instance : ExactForm TimeOfDay :=
  RecordForm.exactForm TimeOfDay.separate rfl (by simp [TimeOfDay.form, Field.exact_optional])

instance : ExactForm Fog :=
  RecordForm.exactForm Fog.separate rfl (by simp [Fog.form, Field.exact_optional])

instance : ExactForm Skybox :=
  RecordForm.exactForm Skybox.separate rfl (by simp [Skybox.form, Field.exact_optional])

instance : ExactForm Environment :=
  RecordForm.exactForm Environment.separate rfl (by simp [Environment.form, Field.exact_optional])

instance : ExactForm Material :=
  RecordForm.exactForm Material.separate rfl (by simp [Material.form, Field.exact_required, Field.exact_optional])

instance : ExactForm Physics :=
  RecordForm.exactForm Physics.separate rfl (by simp [Physics.form, Field.exact_optional])

instance : ExactForm Collider :=
  RecordForm.exactForm Collider.separate rfl (by simp [Collider.form, Field.exact_optional])

instance : ExactForm Entity :=
  RecordForm.exactForm Entity.separate rfl (by simp [Entity.form, Field.exact_required, Field.exact_optional])

instance : ExactForm Light :=
  RecordForm.exactForm Light.separate rfl (by simp [Light.form, Field.exact_required, Field.exact_optional])

instance : ExactForm Interaction :=
  RecordForm.exactForm Interaction.separate rfl (by simp [Interaction.form, Field.exact_required, Field.exact_optional])

instance : ExactForm Mechanism :=
  RecordForm.exactForm Mechanism.separate rfl (by simp [Mechanism.form, Field.exact_required, Field.exact_optional])

instance : ExactForm Box :=
  RecordForm.exactForm Box.separate rfl (by simp [Box.form, Field.exact_required])

instance : ExactForm WorldInfo :=
  RecordForm.exactForm WorldInfo.separate rfl (by simp [WorldInfo.form, Field.exact_required, Field.exact_optional])

instance : ExactForm World :=
  RecordForm.exactForm World.separate rfl (by simp [World.form, Field.exact_required, Field.exact_optional])

def Collider.needed (c : Collider) : List Scalar := c.center.toList ++ c.size.toList

def Entity.needed (e : Entity) : List Scalar :=
  e.transform.scalars ++ e.material.toList.flatMap Material.scalars ++ e.physics.toList.flatMap Physics.scalars ++
    e.collider.toList.flatMap Collider.needed

def Light.needed (l : Light) : List Scalar := l.color.channels ++ [l.intensity] ++ l.transform.scalars

/-- The scalars of a world that cannot be absent: all but the ranges and angles of lights, and the radii and heights of
colliders. -/
def World.needed (w : World) : List Scalar :=
  w.environment.scalars ++ w.entities.flatMap Entity.needed ++ w.lights.flatMap Light.needed ++ w.bounds.scalars

lemma flatMap_subset_flatMap {β γ : Type} {f g : β → List γ} (h : ∀ b, f b ⊆ g b) (l : List β) :
    l.flatMap f ⊆ l.flatMap g := by
  intro x hx
  obtain ⟨b, hb, hx⟩ := List.mem_flatMap.mp hx
  exact List.mem_flatMap.mpr ⟨b, hb, h b hx⟩

lemma Collider.needed_subset (c : Collider) : c.needed ⊆ c.scalars := by
  rw [scalars, List.append_assoc]
  exact List.subset_append_left _ _

lemma Entity.needed_subset (e : Entity) : e.needed ⊆ e.scalars := by
  have hcolliders := flatMap_subset_flatMap Collider.needed_subset e.collider.toList
  intro x hx
  simp only [needed, scalars, List.mem_append] at hx ⊢
  exact hx.imp_right fun hx => hcolliders hx

lemma Light.needed_subset (l : Light) : l.needed ⊆ l.scalars := by
  intro x hx
  simp only [needed, scalars, List.mem_append] at hx ⊢
  exact hx.imp_left fun hx => .inl (.inl hx)

lemma World.needed_subset (w : World) : w.needed ⊆ w.scalars := by
  have hentities := flatMap_subset_flatMap Entity.needed_subset w.entities
  have hlights := flatMap_subset_flatMap Light.needed_subset w.lights
  intro x hx
  simp only [needed, scalars, List.mem_append] at hx ⊢
  exact hx.imp_left (Or.imp (Or.imp_right fun hx => hentities hx) fun hx => hlights hx)

instance : ReopeningForm Vec3 where
  needed := Vec3.toList
  reopens_iff v := by
    constructor
    · rintro ⟨b, hb⟩
      have hlist : ofJson? (toJson v.toList).reread = some b.toList := Vec3.ofJson?_toList hb
      simpa [needed] using (reopens_iff v.toList).mp ⟨_, hlist⟩
    · intro h
      have hread (a : Scalar) (ha : a ∈ v.toList) : ∃ b : Scalar, ofJson? (toJson a).reread = some b :=
        (reopens_iff a).mpr (List.forall_mem_singleton.mpr (h a ha))
      obtain ⟨x, hx⟩ := hread v.x (by simp [Vec3.toList])
      obtain ⟨y, hy⟩ := hread v.y (by simp [Vec3.toList])
      obtain ⟨z, hz⟩ := hread v.z (by simp [Vec3.toList])
      refine ⟨⟨x, y, z⟩, ?_⟩
      change (do return (⟨← ofJson? (toJson v.x).reread, ← ofJson? (toJson v.y).reread,
        ← ofJson? (toJson v.z).reread⟩ : Vec3)) = some ⟨x, y, z⟩
      rw [hx, hy, hz]
      rfl

instance : ReopeningForm Color := RecordForm.reopeningForm (by decide) rfl (.cons Field.needs_required <| .cons
  Field.needs_required <| .cons Field.needs_required <| .cons Field.needs_optional .nil) Color.channels fun _ => by
  simp [Color.channels, needed]

instance : PresentText Color := RecordForm.presentText rfl

instance : ReopeningForm Transform := RecordForm.reopeningForm (by decide) rfl (.cons Field.needs_optional <| .cons
  Field.needs_optional <| .cons Field.needs_optional .nil) Transform.scalars fun _ => by simp [Transform.scalars,
  needed]

instance : ReopeningForm TimeOfDay := RecordForm.reopeningForm (by decide) rfl (.cons Field.needs_optional <| .cons
  Field.needs_optional <| .cons Field.needs_optional <| .cons Field.needs_optional .nil) TimeOfDay.scalars fun _ => by
  simp [TimeOfDay.scalars, needed]

instance : ReopeningForm Fog := RecordForm.reopeningForm (by decide) rfl (.cons Field.needs_optional <| .cons
  Field.needs_optional <| .cons Field.needs_optional .nil) Fog.scalars fun _ => by simp [Fog.scalars, needed]

instance : ReopeningForm Skybox := RecordForm.reopeningForm (by decide) rfl (.cons Field.needs_optional <| .cons
  Field.needs_optional <| .cons Field.needs_optional <| .cons Field.needs_optional <| .cons Field.needs_optional .nil)
  Skybox.scalars fun _ => by simp [Skybox.scalars, needed]

instance : ReopeningForm Environment := RecordForm.reopeningForm (by decide) rfl (.cons Field.needs_optional <| .cons
  Field.needs_optional <| .cons Field.needs_optional <| .cons Field.needs_optional <| .cons Field.needs_optional <|
  .cons Field.needs_optional <| .cons Field.needs_optional .nil) Environment.scalars fun _ => by simp
  [Environment.scalars, needed]

instance : ReopeningForm Material := RecordForm.reopeningForm (by decide) rfl (.cons Field.needs_required <| .cons
  Field.needs_optional <| .cons Field.needs_optional <| .cons Field.needs_optional <| .cons Field.needs_optional <|
  .cons Field.needs_optional <| .cons Field.needs_optional <| .cons Field.needs_optional <| .cons Field.needs_optional
  .nil) Material.scalars fun _ => by simp [Material.scalars, needed]

instance : PresentText Material := RecordForm.presentText rfl

instance : ReopeningForm Physics := RecordForm.reopeningForm (by decide) rfl (.cons Field.needs_optional <| .cons
  Field.needs_optional <| .cons Field.needs_optional <| .cons Field.needs_optional <| .cons Field.needs_optional <|
  .cons Field.needs_optional <| .cons Field.needs_optional .nil) Physics.scalars fun _ => by simp [Physics.scalars,
  needed]

instance : PresentText Physics := RecordForm.presentText rfl

instance : ReopeningForm Collider := RecordForm.reopeningForm (by decide) rfl (.cons Field.needs_optional <| .cons
  Field.needs_optional <| .cons Field.needs_optional <| .cons Field.needs_optional <| .cons Field.needs_optional <|
  .cons Field.needs_optional .nil) Collider.needed fun _ => by simp [Collider.needed, needed]

instance : PresentText Collider := RecordForm.presentText rfl

instance : ReopeningForm Entity := RecordForm.reopeningForm (by decide) rfl (.cons Field.needs_required <| .cons
  Field.needs_required <| .cons Field.needs_optional <| .cons Field.needs_optional <| .cons Field.needs_optional <|
  .cons Field.needs_optional <| .cons Field.needs_optional <| .cons Field.needs_optional <| .cons Field.needs_optional
  <| .cons Field.needs_optional <| .cons Field.needs_optional <| .cons Field.needs_optional <| .cons
  Field.needs_optional .nil) Entity.needed fun _ => by simp [Entity.needed, needed]

instance : ReopeningForm Light := RecordForm.reopeningForm (by decide) rfl (.cons Field.needs_required <| .cons
  Field.needs_required <| .cons Field.needs_optional <| .cons Field.needs_optional <| .cons Field.needs_optional <|
  .cons Field.needs_optional <| .cons Field.needs_optional <| .cons Field.needs_optional <| .cons Field.needs_optional
  .nil) Light.needed fun _ => by simp [Light.needed, needed]

instance : ReopeningForm Interaction := RecordForm.reopeningForm (by decide) rfl (.cons Field.needs_required <| .cons
  Field.needs_required <| .cons Field.needs_optional <| .cons Field.needs_optional .nil) (fun _ => []) fun _ => by
  simp [needed]

instance : ReopeningForm Mechanism := RecordForm.reopeningForm (by decide) rfl (.cons Field.needs_required <| .cons
  Field.needs_required <| .cons Field.needs_optional <| .cons Field.needs_optional <| .cons Field.needs_optional <|
  .cons Field.needs_optional <| .cons Field.needs_optional .nil) (fun _ => []) fun _ => by simp [needed]

instance : ReopeningForm Box := RecordForm.reopeningForm (by decide) rfl (.cons Field.needs_required <| .cons
  Field.needs_required .nil) Box.scalars fun _ => by simp [Box.scalars, needed]

instance : ReopeningForm WorldInfo := RecordForm.reopeningForm (by decide) rfl (.cons Field.needs_required <| .cons
  Field.needs_optional <| .cons Field.needs_optional <| .cons Field.needs_optional <| .cons Field.needs_optional <|
  .cons Field.needs_optional .nil) (fun _ => []) fun _ => by simp [needed]

instance : ReopeningForm World := RecordForm.reopeningForm (by decide) rfl (.cons Field.needs_required <| .cons
  Field.needs_optional <| .cons Field.needs_optional <| .cons Field.needs_optional <| .cons Field.needs_optional <|
  .cons Field.needs_optional .nil) World.needed fun _ => by simp [World.needed, needed]

end Diorama
