import Diorama.Proofs.Json.Path
import Diorama.Proofs.Json.ReadRecord
import Diorama.Proofs.World.Forms

/-! The shape of the documents that worlds are read from: which records they are made of, which fields these have, and
what stands in each field. A document that was read has an object only where the shape has a place for one, and an
object at the place of a record names its fields only. -/

namespace Diorama

open Json

inductive RecordKind where
  | world
  | info
  | environment
  | timeOfDay
  | fog
  | skybox
  | color
  | box
  | entity
  | transform
  | material
  | physics
  | collider
  | light
  | mechanism
  | interaction
deriving DecidableEq

inductive Content where
  | plain
  | record (kind : RecordKind)
  | records (kind : RecordKind)
  | freeForm
deriving DecidableEq

namespace RecordKind

def fields : RecordKind → List (String × Content)
  | .world => [("metadata", .record .info), ("environment", .record .environment), ("entities", .records .entity),
      ("lights", .records .light), ("systems", .records .mechanism), ("bounds", .record .box)]
  | .info => [("title", .plain), ("description", .plain), ("author", .plain), ("version", .plain), ("tags", .plain),
      ("target_platforms", .plain)]
  | .environment => [("weather", .plain), ("time_of_day", .record .timeOfDay), ("ambient_light", .record .color),
      ("fog", .record .fog), ("skybox", .record .skybox), ("gravity", .plain), ("audio_reverb_preset", .plain)]
  | .timeOfDay => [("hour", .plain), ("minute", .plain), ("day_night_cycle", .plain),
      ("cycle_duration_seconds", .plain)]
  | .fog => [("enabled", .plain), ("color", .record .color), ("density", .plain)]
  | .skybox => [("kind", .plain), ("texture_path", .plain), ("tint", .record .color), ("exposure", .plain),
      ("rotation", .plain)]
  | .color => [("r", .plain), ("g", .plain), ("b", .plain), ("a", .plain)]
  | .box => [("min", .plain), ("max", .plain)]
  | .entity => [("id", .plain), ("name", .plain), ("entity_type", .plain), ("transform", .record .transform),
      ("material", .record .material), ("physics", .record .physics), ("collider", .record .collider),
      ("parent_id", .plain), ("children_ids", .plain), ("tags", .plain), ("metadata", .freeForm),
      ("asset_reference", .plain), ("prefab_reference", .plain)]
  | .transform => [("position", .plain), ("rotation", .plain), ("scale", .plain)]
  | .material => [("name", .plain), ("material_type", .plain), ("base_color", .record .color), ("metallic", .plain),
      ("roughness", .plain), ("emission_color", .record .color), ("emission_strength", .plain),
      ("texture_path", .plain), ("normal_map_path", .plain)]
  | .physics => [("enabled", .plain), ("is_kinematic", .plain), ("mass", .plain), ("drag", .plain),
      ("angular_drag", .plain), ("use_gravity", .plain), ("collision_enabled", .plain)]
  | .collider => [("collider_type", .plain), ("is_trigger", .plain), ("center", .plain), ("size", .plain),
      ("radius", .plain), ("height", .plain)]
  | .light => [("id", .plain), ("name", .plain), ("light_type", .plain), ("color", .record .color),
      ("intensity", .plain), ("range", .plain), ("spot_angle", .plain), ("cast_shadows", .plain),
      ("transform", .record .transform)]
  | .mechanism => [("id", .plain), ("name", .plain), ("description", .plain), ("interactions", .records .interaction),
      ("enabled", .plain), ("priority", .plain), ("conditions", .freeForm)]
  | .interaction => [("trigger_type", .plain), ("action_type", .plain), ("target_entity_id", .plain),
      ("parameters", .freeForm)]

def names (kind : RecordKind) : List String := kind.fields.map (·.1)

def content? (kind : RecordKind) : Step → Option Content
  | .member name => (kind.fields.find? (·.1 == name)).map (·.2)
  | .item i => kind.fields[i]?.map (·.2)

lemma exists_content {kind : RecordKind} {name : String} (h : name ∈ kind.names) :
    ∃ c, kind.content? (.member name) = some c ∧ (name, c) ∈ kind.fields := by
  obtain ⟨field, hfield⟩ : ∃ field, kind.fields.find? (·.1 == name) = some field := by
    obtain ⟨field, hmem, he⟩ := List.mem_map.mp h
    rw [← Option.isSome_iff_exists, List.find?_isSome]
    exact ⟨field, hmem, beq_iff_eq.mpr he⟩
  have hname : field.1 = name := by simpa using List.find?_some hfield
  exact ⟨field.2, congrArg (Option.map Prod.snd) hfield, hname ▸ List.mem_of_find?_eq_some hfield⟩

def steps (kind : RecordKind) (name : String) : List Step := [.member name, .item (kind.names.idxOf name)]

end RecordKind

namespace Content

def follow? : Content → Path → Option Content
  | c, [] => some c
  | .record kind, step :: path => (kind.content? step).bind fun c => c.follow? path
  | .records kind, .item _ :: path => (Content.record kind).follow? path
  | .freeForm, _ :: _ => some .freeForm
  | _, _ :: _ => none

/-- Whether an object with these members may stand at a place. An object spells a choice by a name without content. -/
def Admits : Content → List (String × Json) → Prop
  | .plain, members => ∃ name, members = [(name, .null)]
  | .record kind, members => ∀ m ∈ members, m.1 ∈ kind.names
  | .records _, _ => False
  | .freeForm, _ => True

end Content

def Json.ShapedAs (c : Content) (j : Json) : Prop :=
  ∀ path members, j.at? path = some (.object members) → ∃ d, c.follow? path = some d ∧ d.Admits members

def Json.Objectless (j : Json) : Prop := ∀ path members, j.at? path ≠ some (.object members)

/-! Documents of one shape. -/

section Shapes

variable {c : Content} {kind : RecordKind} {j : Json} {items : List Json}

lemma Json.Objectless.shapedAs (h : j.Objectless) : j.ShapedAs c := fun path members hat => (h path members hat).elim

lemma shapedAs_freeForm (j : Json) : j.ShapedAs .freeForm := by
  intro path members _
  cases path with
  | nil => exact ⟨.freeForm, rfl, trivial⟩
  | cons step path => exact ⟨.freeForm, rfl, trivial⟩

lemma shapedAs_record (hnames : ∀ members, j = .object members → ∀ m ∈ members, m.1 ∈ kind.names)
    (hsteps : ∀ step item, step.target? j = some item → ∃ c, kind.content? step = some c ∧ item.ShapedAs c) :
    j.ShapedAs (.record kind) := by
  intro path members hat
  cases path with
  | nil => exact ⟨.record kind, rfl, hnames members (Option.some.inj hat)⟩
  | cons step path =>
    obtain ⟨item, hitem, hat⟩ := Option.bind_eq_some_iff.mp hat
    obtain ⟨c, hc, hshape⟩ := hsteps step item hitem
    obtain ⟨d, hd, hadmits⟩ := hshape path members hat
    exact ⟨d, Option.bind_eq_some_iff.mpr ⟨c, hc, hd⟩, hadmits⟩

lemma object_in_array {path : Path} {members : List (String × Json)}
    (h : (Json.array items).at? path = some (.object members)) :
    ∃ i rest, path = .item i :: rest ∧ ∃ item ∈ items, item.at? rest = some (.object members) := by
  cases path with
  | nil => cases h
  | cons step rest =>
    obtain ⟨item, hitem, hrest⟩ := Option.bind_eq_some_iff.mp h
    cases step with
    | member name => cases hitem
    | item i => exact ⟨i, rest, rfl, item, List.mem_of_getElem? hitem, hrest⟩

lemma shapedAs_records (h : ∀ item ∈ items, item.ShapedAs (.record kind)) :
    (Json.array items).ShapedAs (.records kind) := by
  intro path members hat
  obtain ⟨i, rest, rfl, item, hitem, hrest⟩ := object_in_array hat
  exact h item hitem rest members hrest

lemma objectless_array (h : ∀ item ∈ items, item.Objectless) : (Json.array items).Objectless := by
  intro path members hat
  obtain ⟨i, rest, rfl, item, hitem, hrest⟩ := object_in_array hat
  exact h item hitem rest members hrest

lemma objectless_of_no_parts (harray : ∀ items, j ≠ .array items) (hobject : ∀ members, j ≠ .object members) :
    j.Objectless := by
  intro path members hat
  cases path with
  | nil => exact hobject members (Option.some.inj hat)
  | cons step path =>
    obtain ⟨item, hitem, -⟩ := Option.bind_eq_some_iff.mp hat
    cases j with
    | array items => exact harray items rfl
    | object members => exact hobject members rfl
    | _ => cases step <;> cases hitem

lemma objectless_null : Json.null.Objectless :=
  objectless_of_no_parts (fun _ hj => (nomatch hj)) fun _ hj => (nomatch hj)

lemma objectless_string (s : String) : (Json.string s).Objectless :=
  objectless_of_no_parts (fun _ hj => (nomatch hj)) fun _ hj => (nomatch hj)

lemma shapedAs_choice (name : String) : (Json.object [(name, .null)]).ShapedAs .plain := by
  intro path members hat
  cases path with
  | nil => exact ⟨.plain, rfl, name, (Json.object.inj (Option.some.inj hat)).symm⟩
  | cons step path =>
    obtain ⟨item, hitem, hrest⟩ := Option.bind_eq_some_iff.mp hat
    have hnull : item = .null := by
      cases step with
      | member other => exact congrArg Prod.snd (List.mem_singleton.mp (mem_of_member? hitem))
      | item i => cases hitem
    exact (objectless_null path members (hnull ▸ hrest)).elim

end Shapes

/-! Types that are read from documents of one shape. -/

class ShapedForm (α : Type) [JsonForm α] (c : Content) : Prop where
  shapedAs_of_ofJson? {j : Json} {a : α} : ofJson? j = some a → j.ShapedAs c

export ShapedForm (shapedAs_of_ofJson?)

class FlatForm (α : Type) [JsonForm α] : Prop where
  objectless_of_ofJson? {j : Json} {a : α} : ofJson? j = some a → j.Objectless

export FlatForm (objectless_of_ofJson?)

section Forms

variable {α : Type} [JsonForm α] {c : Content}

instance [FlatForm α] : ShapedForm α c := ⟨fun h => (objectless_of_ofJson? h).shapedAs⟩

lemma FlatForm.of_no_parts (harray : ∀ items, (ofJson? (.array items) : Option α) = none)
    (hobject : ∀ members, (ofJson? (.object members) : Option α) = none) : FlatForm α where
  objectless_of_ofJson? {j a} h := by
    refine objectless_of_no_parts (fun items hj => ?_) fun members hj => ?_
    · rw [hj, harray] at h
      cases h
    · rw [hj, hobject] at h
      cases h

instance : FlatForm Bool := .of_no_parts (fun _ => rfl) fun _ => rfl

instance : FlatForm String := .of_no_parts (fun _ => rfl) fun _ => rfl

instance : FlatForm Scalar := .of_no_parts (fun _ => rfl) fun _ => rfl

instance : FlatForm UInt8 := .of_no_parts (fun _ => rfl) fun _ => rfl

instance : FlatForm Int32 := .of_no_parts (fun _ => rfl) fun _ => rfl

instance {β : Type} [Named β] : ShapedForm β .plain where
  shapedAs_of_ofJson? {j b} h := by
    obtain ⟨name, hname, -⟩ := Option.bind_eq_some_iff.mp h
    rw [choice?.eq_def] at hname
    split at hname
    · exact (objectless_string _).shapedAs
    · exact shapedAs_choice _
    · cases hname

instance [FlatForm α] : FlatForm (List α) where
  objectless_of_ofJson? {j as} h := by
    cases j with
    | array items =>
      refine objectless_array fun item hitem => ?_
      obtain ⟨a, -, ha⟩ := exists_mem_of_forall₂ (mapM_eq_some_iff.mp h) hitem
      exact objectless_of_ofJson? ha
    | _ => cases h

instance {kind : RecordKind} [ShapedForm α (.record kind)] : ShapedForm (List α) (.records kind) where
  shapedAs_of_ofJson? {j as} h := by
    cases j with
    | array items =>
      refine shapedAs_records fun item hitem => ?_
      obtain ⟨a, -, ha⟩ := exists_mem_of_forall₂ (mapM_eq_some_iff.mp h) hitem
      exact shapedAs_of_ofJson? ha
    | _ => cases h

instance [ShapedForm α c] : ShapedForm (Option α) c where
  shapedAs_of_ofJson? {j o} h := by
    cases j with
    | null => exact objectless_null.shapedAs
    | _ =>
      obtain ⟨a, ha, -⟩ := Option.map_eq_some_iff.mp h
      exact shapedAs_of_ofJson? ha

instance : FlatForm NameSet where
  objectless_of_ofJson? h := by
    obtain ⟨names, hnames, -⟩ := Option.map_eq_some_iff.mp h
    exact objectless_of_ofJson? hnames

instance : FlatForm Vec3 := ⟨fun h => objectless_of_ofJson? (Vec3.ofJson?_toList h)⟩

instance : ShapedForm (Dictionary Value) .freeForm := ⟨fun {j _} _ => shapedAs_freeForm j⟩

end Forms

/-! Records. -/

def Field.Holds {ρ : Type} (g : Field ρ) (field : String × Content) : Prop :=
  g.names = [field.1] ∧ ∀ j r s, g.read? j r = some s → j.ShapedAs field.2

section Fields

variable {α ρ : Type} [JsonForm α] {c : Content} {name : String} {get : ρ → α} {set : α → ρ → ρ}

lemma holds_required [ShapedForm α c] : (Field.required name get set).Holds (name, c) := by
  refine ⟨rfl, fun j r s h => ?_⟩
  obtain ⟨a, ha, -⟩ := Field.read?_required h
  exact shapedAs_of_ofJson? ha

lemma holds_optional [ShapedForm α c] : (Field.optional name get set).Holds (name, c) := by
  refine ⟨rfl, fun j r s h => ?_⟩
  obtain ⟨a, ha, -⟩ := Field.read?_optional h
  exact shapedAs_of_ofJson? ha

lemma mem_names_of_holds {g : Field ρ} {fields : List (Field ρ)} {contents : List (String × Content)}
    (h : List.Forall₂ Field.Holds fields contents) (hg : g ∈ fields) (hnamed : g.isNamed name = true) :
    name ∈ contents.map (·.1) := by
  obtain ⟨field, hfield, hholds⟩ := exists_mem_of_forall₂ h hg
  rw [Field.isNamed_iff, hholds.1] at hnamed
  exact List.mem_map.mpr ⟨field, hfield, (List.mem_singleton.mp hnamed).symm⟩

end Fields

namespace RecordForm

variable {ρ : Type} {f : RecordForm ρ} {kind : RecordKind} {members : List (String × Json)} {items : List Json}
  {r s : ρ} {g : Field ρ} {fields : List (Field ρ)}

lemma exists_readMember? (h : fields.foldlM (fun r g => g.readMember? members r) r = some s) (hg : g ∈ fields) :
    ∃ t t', g.readMember? members t = some t' := by
  induction fields generalizing r with
  | nil => cases hg
  | cons first fields ih =>
    obtain ⟨t, ht, h⟩ := Option.bind_eq_some_iff.mp h
    rcases List.mem_cons.mp hg with rfl | hg
    · exact ⟨r, t, ht⟩
    · exact ih h hg

lemma exists_readItem? (h : readItems? fields items r = some s) {i : Nat} {item : Json} (hi : items[i]? = some item) :
    ∃ g t t', fields[i]? = some g ∧ g.read? item t = some t' := by
  induction fields generalizing items r i with
  | nil =>
    cases items with
    | nil => cases hi
    | cons item items => cases h
  | cons first fields ih =>
    obtain ⟨rfl, -⟩ | ⟨item', rest, t, rfl, ht, h⟩ := Field.readItems?_cases h
    · cases hi
    · cases i with
      | zero => exact ⟨first, r, t, rfl, Option.some.inj hi ▸ ht⟩
      | succ i => exact ih h hi

lemma any_isNamed_of_refused (hothers : f.others = .refused) (h : f.readMembers? members = some r)
    {m : String × Json} (hm : m ∈ members) : f.fields.any (·.isNamed m.1) = true := by
  obtain ⟨hempty, -⟩ := (readMembers?_eq_some_iff hothers).mp h
  by_contra hnone
  have hfree : (!f.fields.any (·.isNamed m.1)) = true := by
    rw [Bool.not_eq_true']
    exact eq_false_of_ne_true hnone
  have hmem : m ∈ f.unnamed members := List.mem_filter.mpr ⟨hm, hfree⟩
  rw [hempty] at hmem
  cases hmem

lemma shapedAs_of_readMembers? (hothers : f.others = .refused) (hfields : List.Forall₂ Field.Holds f.fields kind.fields)
    (h : f.readMembers? members = some r) : (Json.object members).ShapedAs (.record kind) := by
  have hnames : ∀ m ∈ members, m.1 ∈ kind.names := by
    intro m hm
    obtain ⟨g, hg, hnamed⟩ := List.any_eq_true.mp (any_isNamed_of_refused hothers h hm)
    exact mem_names_of_holds hfields hg hnamed
  refine shapedAs_record (fun others he => Json.object.inj he ▸ hnames) fun step item hitem => ?_
  cases step with
  | item i => cases hitem
  | member name =>
    have hm := mem_of_member? hitem
    obtain ⟨c, hc, hfield⟩ := RecordKind.exists_content (hnames _ hm)
    obtain ⟨g, hg, hholds⟩ := exists_mem_of_forall₂ hfields.flip hfield
    have hnamed : (name, item) ∈ members.filter (g.isNamed ·.1) := by
      refine List.mem_filter.mpr ⟨hm, Field.isNamed_iff.mpr ?_⟩
      rw [hholds.1]
      exact List.mem_singleton_self name
    obtain ⟨s, hread, -⟩ := readMembers?_cases h
    obtain ⟨t, t', ht⟩ := exists_readMember? hread hg
    refine ⟨c, hc, ?_⟩
    obtain ⟨hnone, -, -⟩ | ⟨m, hone, hitem⟩ := Field.readMember?_cases ht
    · rw [hnone] at hnamed
      cases hnamed
    · obtain rfl : (name, item) = m := List.mem_singleton.mp (hone ▸ hnamed)
      exact hholds.2 _ _ _ hitem

lemma shapedAs_of_readItems? (hfields : List.Forall₂ Field.Holds f.fields kind.fields)
    (h : readItems? f.fields items s = some r) : (Json.array items).ShapedAs (.record kind) := by
  refine shapedAs_record (fun _ he => nomatch he) fun step item hitem => ?_
  cases step with
  | member name => cases hitem
  | item i =>
    obtain ⟨g, t, t', hg, hread⟩ := exists_readItem? h hitem
    obtain ⟨field, hfield, hholds⟩ := getElem?_of_forall₂ hfields hg
    exact ⟨field.2, congrArg (Option.map Prod.snd) hfield, hholds.2 _ _ _ hread⟩

theorem shapedForm (hothers : f.others = .refused) (hfields : List.Forall₂ Field.Holds f.fields kind.fields) :
    @ShapedForm ρ f.jsonForm (.record kind) :=
  @ShapedForm.mk ρ f.jsonForm _ fun {j r} h => by
    change f.read? j = some r at h
    cases j with
    | object members => exact shapedAs_of_readMembers? hothers hfields h
    | array items =>
      rw [read?, hothers] at h
      exact shapedAs_of_readItems? hfields h
    | _ => cases h

end RecordForm

/-! The records of a world. -/

instance : ShapedForm Color (.record .color) :=
  RecordForm.shapedForm rfl (.cons holds_required <| .cons holds_required <| .cons holds_required <|
    .cons holds_optional .nil)

instance : ShapedForm Transform (.record .transform) :=
  RecordForm.shapedForm rfl (.cons holds_optional <| .cons holds_optional <| .cons holds_optional .nil)

instance : ShapedForm TimeOfDay (.record .timeOfDay) :=
  RecordForm.shapedForm rfl (.cons holds_optional <| .cons holds_optional <| .cons holds_optional <|
    .cons holds_optional .nil)

instance : ShapedForm Fog (.record .fog) :=
  RecordForm.shapedForm rfl (.cons holds_optional <| .cons holds_optional <| .cons holds_optional .nil)

instance : ShapedForm Skybox (.record .skybox) :=
  RecordForm.shapedForm rfl (.cons holds_optional <| .cons holds_optional <| .cons holds_optional <|
    .cons holds_optional <| .cons holds_optional .nil)

instance : ShapedForm Environment (.record .environment) :=
  RecordForm.shapedForm rfl (.cons holds_optional <| .cons holds_optional <| .cons holds_optional <|
    .cons holds_optional <| .cons holds_optional <| .cons holds_optional <| .cons holds_optional .nil)

instance : ShapedForm Material (.record .material) :=
  RecordForm.shapedForm rfl (.cons holds_required <| .cons holds_optional <| .cons holds_optional <|
    .cons holds_optional <| .cons holds_optional <| .cons holds_optional <| .cons holds_optional <|
    .cons holds_optional <| .cons holds_optional .nil)

instance : ShapedForm Physics (.record .physics) :=
  RecordForm.shapedForm rfl (.cons holds_optional <| .cons holds_optional <| .cons holds_optional <|
    .cons holds_optional <| .cons holds_optional <| .cons holds_optional <| .cons holds_optional .nil)

instance : ShapedForm Collider (.record .collider) :=
  RecordForm.shapedForm rfl (.cons holds_optional <| .cons holds_optional <| .cons holds_optional <|
    .cons holds_optional <| .cons holds_optional <| .cons holds_optional .nil)

instance : ShapedForm Entity (.record .entity) :=
  RecordForm.shapedForm rfl (.cons holds_required <| .cons holds_required <| .cons holds_optional <|
    .cons holds_optional <| .cons holds_optional <| .cons holds_optional <| .cons holds_optional <|
    .cons holds_optional <| .cons holds_optional <| .cons holds_optional <| .cons holds_optional <|
    .cons holds_optional <| .cons holds_optional .nil)

instance : ShapedForm Light (.record .light) :=
  RecordForm.shapedForm rfl (.cons holds_required <| .cons holds_required <| .cons holds_optional <|
    .cons holds_optional <| .cons holds_optional <| .cons holds_optional <| .cons holds_optional <|
    .cons holds_optional <| .cons holds_optional .nil)

instance : ShapedForm Interaction (.record .interaction) :=
  RecordForm.shapedForm rfl (.cons holds_required <| .cons holds_required <| .cons holds_optional <|
    .cons holds_optional .nil)

instance : ShapedForm Mechanism (.record .mechanism) :=
  RecordForm.shapedForm rfl (.cons holds_required <| .cons holds_required <| .cons holds_optional <|
    .cons holds_optional <| .cons holds_optional <| .cons holds_optional <| .cons holds_optional .nil)

instance : ShapedForm Box (.record .box) :=
  RecordForm.shapedForm rfl (.cons holds_required <| .cons holds_required .nil)

instance : ShapedForm WorldInfo (.record .info) :=
  RecordForm.shapedForm rfl (.cons holds_required <| .cons holds_optional <| .cons holds_optional <|
    .cons holds_optional <| .cons holds_optional <| .cons holds_optional .nil)

instance : ShapedForm World (.record .world) :=
  RecordForm.shapedForm rfl (.cons holds_required <| .cons holds_optional <| .cons holds_optional <|
    .cons holds_optional <| .cons holds_optional <| .cons holds_optional .nil)

end Diorama
