import Diorama.Proofs.Assets.Registry
import Diorama.Proofs.World.Forms

/-! What a manifest carries from one registry to another. Every asset is read back from its data, so an import lays
the assets of a registry over those of another one, and the indices follow from the assets. Of a manifest from
elsewhere the last well-formed entry of each identifier counts. -/

namespace Diorama

open Json

instance : LawfulForm PlatformFile :=
  RecordForm.lawfulForm (by decide) (.cons copies_required <| .cons copies_required <| .cons copies_optional <|
    .cons copies_optional .nil) fun _ => rfl

instance : LawfulForm Asset :=
  RecordForm.lawfulForm (by decide) (.cons copies_required <| .cons copies_required <| .cons copies_required <|
    .cons copies_optional <| .cons copies_optional <| .cons copies_optional <| .cons copies_optional <|
    .cons copies_optional <| .cons copies_optional .nil) fun _ => rfl

@[simp] lemma scalars_toJson_platforms (d : Dictionary PlatformFile) : (toJson d).scalars = [] := by
  rw [scalars_toJson_entries]
  exact List.flatMap_eq_nil_iff.mpr fun _ _ => rfl

lemma scalars_toJson_asset (a : Asset) : (toJson a).scalars = [] := by
  refine (RecordForm.scalars_write rfl a).trans ?_
  simp [Asset.form]

lemma ofJson?_toData_asset (a : Asset) : ofJson? (toJson a).toData = some a := by
  refine ofJson?_of_renderedAs (renderedAs_toData (toJson a) (wellFormed a) ?_)
  rw [scalars_toJson_asset]
  exact List.forall_mem_nil _

namespace AssetRegistry

variable {r q s : AssetRegistry}

def toValue (r : AssetRegistry) : Value := (toJson r.manifest).value

def isWellFormed (entry : Json) : Bool := (ofJson? entry : Option Asset).isSome

def described (manifest : Value) : List Asset := (entries manifest).filterMap ofJson?

def last? (assets : List Asset) (id : String) : Option Asset := (assets.filter (·.id = id)).getLast?

lemma entries_toValue (r : AssetRegistry) : entries r.toValue = r.assets.values.map fun a => (toJson a).toData := by
  have hnames : (AssetManifest.form.fields.map Field.name).Nodup := by decide
  have hmember : r.toValue.json.member? "assets" = some (.array (itemsData (r.assets.values.map toJson))) := by
    refine Dictionary.find?_ofList_of_mem ?_ List.mem_cons_self
    rw [map_fst_membersData, List.map_map]
    exact hnames
  simp only [entries, hmember, itemsData_eq_map, List.map_map]
  rfl

lemma described_toValue (r : AssetRegistry) : described r.toValue = r.assets.values := by
  rw [described, entries_toValue, List.filterMap_map]
  refine (List.filterMap_congr fun a _ => ofJson?_toData_asset a).trans List.filterMap_some

lemma importManifest_eq (q : AssetRegistry) (manifest : Value) : q.importManifest manifest =
    ((described manifest).length, (described manifest).foldl (fun r a => (r.register a).2) q) := rfl

lemma asset?_register (r : AssetRegistry) (a : Asset) (i : String) :
    (r.register a).2.asset? i = if i = a.id then some a else r.asset? i := by
  refine (Dictionary.find?_insert _ _ _ _).trans ?_
  by_cases hi : i = a.id
  · rw [if_pos hi, if_pos hi]
  · rw [if_neg hi, if_neg hi]
    exact (asset?_unregister r a.id i).trans (if_neg hi)

lemma asset?_foldl_register (assets : List Asset) (r : AssetRegistry) (i : String) :
    (assets.foldl (fun r a => (r.register a).2) r).asset? i = (last? assets i).or (r.asset? i) := by
  induction assets generalizing r with
  | nil => rfl
  | cons a assets ih =>
    rw [List.foldl_cons, ih, asset?_register, last?, last?, List.filter_cons]
    by_cases hi : a.id = i
    · simp [hi, List.getLast?_cons]
    · simp [hi, Ne.symm hi]

lemma asset?_importManifest (q : AssetRegistry) (manifest : Value) (i : String) :
    (q.importManifest manifest).2.asset? i = (last? (described manifest) i).or (q.asset? i) :=
  asset?_foldl_register _ _ _

lemma Filed.eq_of_asset? (hr : r.Filed) (hs : s.Filed) (h : ∀ id, r.asset? id = s.asset? id) : r = s := by
  have hindexes : ∀ {has index index'}, r.Indexes index has → s.Indexes index' has → index = index' :=
    fun hi hi' => AssetIndex.eq_of_files hi.inhabited hi'.inhabited fun name id => by
      rw [hi.files_iff, hi'.files_iff]
      simp only [h]
  have hassets : r.assets = s.assets := Dictionary.eq_of_find? h
  have htag := hindexes hr.byTag hs.byTag
  have hkind := hindexes hr.byKind hs.byKind
  cases r
  cases s
  cases hassets
  cases htag
  cases hkind
  rfl

lemma Filed.last?_values (h : r.Filed) (id : String) : last? r.assets.values id = r.asset? id := by
  refine Option.ext fun a => ?_
  have hone : ∀ b ∈ r.assets.values.filter (·.id = id), r.asset? id = some b := by
    intro b hb
    obtain ⟨hb, hid⟩ := List.mem_filter.mp hb
    obtain ⟨key, hkey⟩ := Dictionary.mem_values_iff.mp hb
    obtain rfl : key = id := (h.keyed key b hkey).symm.trans (by simpa using hid)
    exact hkey
  constructor
  · exact fun ha => hone a (List.mem_of_getLast? ha)
  · intro ha
    have hmem : a ∈ r.assets.values.filter (·.id = id) :=
      List.mem_filter.mpr ⟨Dictionary.mem_values_iff.mpr ⟨id, ha⟩, by simpa using h.keyed id a ha⟩
    -- All assets of the identifier are the one that is stored under it, the last one too.
    rw [last?, List.getLast?_eq_some_getLast (List.ne_nil_of_mem hmem)]
    exact (hone _ (List.getLast_mem _)).symm.trans ha

/-- What an import of any data does: it registers the well-formed entries of a manifest, of which the last one of each
identifier stays, and the rest is as if it were not there. -/
structure Takes (q : AssetRegistry) (manifest : Value) : Prop where
  count : (q.importManifest manifest).1 = (entries manifest).countP isWellFormed
  assets (id : String) : (q.importManifest manifest).2.asset? id = (last? (described manifest) id).or (q.asset? id)
  filed : (q.importManifest manifest).2.Filed
  settled : (q.importManifest manifest).2.importManifest manifest = q.importManifest manifest
  sifted (other : Value) : entries other = (entries manifest).filter isWellFormed →
    q.importManifest other = q.importManifest manifest

/-- What an import of the manifest of another registry does: it lays the assets of that one over the own ones, and
makes the one registry in step with them. -/
structure Adopts (q r : AssetRegistry) : Prop where
  count : (q.importManifest r.toValue).1 = r.size
  assets (id : String) : (q.importManifest r.toValue).2.asset? id = (r.asset? id).or (q.asset? id)
  filed : (q.importManifest r.toValue).2.Filed
  only (s : AssetRegistry) : s.Filed → (∀ id, s.asset? id = (r.asset? id).or (q.asset? id)) →
    s = (q.importManifest r.toValue).2

lemma Filed.takes (h : q.Filed) (manifest : Value) : q.Takes manifest where
  count := List.length_filterMap_eq_countP
  assets := asset?_importManifest q manifest
  filed := h.importManifest manifest
  settled := by
    refine Prod.ext rfl (((h.importManifest manifest).importManifest manifest).eq_of_asset?
      (h.importManifest manifest) fun id => ?_)
    rw [asset?_importManifest, asset?_importManifest, ← Option.or_assoc, Option.or_self]
  sifted other ho := by
    have hsame : described other = described manifest := by
      rw [described, ho, described, List.filterMap_filter]
      refine List.filterMap_congr fun entry _ => ?_
      rw [isWellFormed]
      cases (ofJson? entry : Option Asset) <;> rfl
    rw [importManifest_eq, importManifest_eq, hsame]

lemma Filed.adopts (hq : q.Filed) (hr : r.Filed) : q.Adopts r := by
  have hassets : ∀ id, (q.importManifest r.toValue).2.asset? id = (r.asset? id).or (q.asset? id) := by
    intro id
    rw [asset?_importManifest, described_toValue, hr.last?_values]
  have hfiled := hq.importManifest r.toValue
  refine ⟨?_, hassets, hfiled, fun s hs h => hs.eq_of_asset? hfiled fun id => (h id).trans (hassets id).symm⟩
  rw [importManifest_eq, described_toValue]
  exact List.length_map _

theorem edited_empty_adopts (left right : List RegistryEdit) :
    (edited {} right).Adopts (edited {} left) ∧
      (({} : AssetRegistry).importManifest (edited {} left).toValue).2 = edited {} left ∧
      ∀ manifest, (edited {} right).Takes manifest := by
  have hr := filed_empty.edited left
  have hq := filed_empty.edited right
  refine ⟨hq.adopts hr, ?_, hq.takes⟩
  refine ((filed_empty.adopts hr).only _ hr fun id => ?_).symm
  exact (Option.or_none).symm

end AssetRegistry

end Diorama
