import Diorama.Proofs.Assets.Index
import Diorama.Proofs.Json.LawfulForm

/-! A registry keeps its indices in step with its assets. Registering, unregistering and importing keep each asset
under its own identifier and each index to what the stored assets say, so a look-up through an index is a search. -/

namespace Diorama

instance : LawfulNamed AssetKind := ⟨fun a => by cases a <;> rfl⟩

namespace AssetRegistry

variable {r r' : AssetRegistry} {index index' : AssetIndex} {has : Asset → String → Prop} {id name : String} {a : Asset}

structure Indexes (r : AssetRegistry) (index : AssetIndex) (has : Asset → String → Prop) : Prop where
  inhabited : index.Inhabited
  files_iff (name id : String) : index.Files name id ↔ ∃ a, r.asset? id = some a ∧ has a name

structure Filed (r : AssetRegistry) : Prop where
  keyed (id : String) (a : Asset) : r.asset? id = some a → a.id = id
  byTag : r.Indexes r.byTag fun a tag => tag ∈ a.tags
  byKind : r.Indexes r.byKind fun a name => name = Named.name a.kind

lemma filed_empty : Filed {} := by
  have hnone : ∀ id, asset? {} id = none := fun _ => rfl
  have hindexes : ∀ has, Indexes {} ∅ has := fun has =>
    ⟨AssetIndex.inhabited_empty, fun name id => by simp [hnone, AssetIndex.not_files_empty]⟩
  exact ⟨fun id a h => (nomatch h), hindexes _, hindexes _⟩

lemma Indexes.without (h : r.Indexes index has) (ha : r.asset? id = some a)
    (hr : ∀ i, r'.asset? i = if i = id then none else r.asset? i) (hi : index'.Inhabited)
    (hf : ∀ n i, index'.Files n i ↔ index.Files n i ∧ ¬(has a n ∧ i = id)) : r'.Indexes index' has := by
  refine ⟨hi, fun n i => ?_⟩
  rw [hf, h.files_iff, hr]
  by_cases he : i = id
  · subst he
    simp [ha]
  · simp [he]

lemma Indexes.with (h : r.Indexes index has) (ha : r.asset? a.id = none)
    (hr : ∀ i, r'.asset? i = if i = a.id then some a else r.asset? i) (hi : index'.Inhabited)
    (hf : ∀ n i, index'.Files n i ↔ has a n ∧ i = a.id ∨ index.Files n i) : r'.Indexes index' has := by
  refine ⟨hi, fun n i => ?_⟩
  rw [hf, h.files_iff, hr]
  by_cases he : i = a.id
  · subst he
    simp [ha]
  · simp [he]

lemma unregister_of_none (ha : r.asset? id = none) : r.unregister id = (none, r) := by
  rw [unregister, ha]

lemma unregister_of_some (ha : r.asset? id = some a) : r.unregister id = (some a, {
    assets := r.assets.erase id
    byTag := a.tags.foldl (AssetIndex.drop · id ·) r.byTag
    byKind := AssetIndex.drop r.byKind id (Named.name a.kind) }) := by
  rw [unregister, ha]

lemma asset?_unregister (r : AssetRegistry) (id i : String) :
    (r.unregister id).2.asset? i = if i = id then none else r.asset? i := by
  cases ha : r.asset? id with
  | none =>
    rw [unregister_of_none ha]
    split
    · rename_i hi
      exact hi ▸ ha
    · rfl
  | some a =>
    rw [unregister_of_some ha]
    exact Dictionary.find?_erase r.assets id i

lemma Filed.unregister (h : r.Filed) (id : String) : (r.unregister id).2.Filed := by
  have hasset := asset?_unregister r id
  cases ha : r.asset? id with
  | none =>
    rw [unregister_of_none ha]
    exact h
  | some a =>
    rw [unregister_of_some ha] at hasset ⊢
    refine ⟨fun i b hb => ?_, ?_, ?_⟩
    · rw [hasset] at hb
      exact h.keyed i b (Option.ite_none_left_eq_some.mp hb).2
    · exact h.byTag.without ha hasset (AssetIndex.inhabited_foldl_drop h.byTag.inhabited) fun _ _ =>
        AssetIndex.files_foldl_drop
    · exact h.byKind.without ha hasset (AssetIndex.inhabited_drop h.byKind.inhabited) fun _ _ =>
        AssetIndex.files_drop

lemma Filed.register (h : r.Filed) (a : Asset) : (r.register a).2.Filed := by
  have hcleared := h.unregister a.id
  have hnone : (r.unregister a.id).2.asset? a.id = none := by rw [asset?_unregister, if_pos rfl]
  have hasset : ∀ i, (r.register a).2.asset? i = if i = a.id then some a else (r.unregister a.id).2.asset? i :=
    fun i => Dictionary.find?_insert _ _ _ _
  refine ⟨fun i b hb => ?_, ?_, ?_⟩
  · rw [hasset] at hb
    split at hb
    · rename_i hi
      obtain rfl := Option.some.inj hb
      exact hi.symm
    · exact hcleared.keyed i b hb
  · exact hcleared.byTag.with hnone hasset (AssetIndex.inhabited_foldl_add hcleared.byTag.inhabited) fun _ _ =>
      AssetIndex.files_foldl_add
  · exact hcleared.byKind.with hnone hasset (AssetIndex.inhabited_add hcleared.byKind.inhabited) fun _ _ =>
      AssetIndex.files_add

lemma Filed.foldl_register (h : r.Filed) (assets : List Asset) :
    (assets.foldl (fun r a => (r.register a).2) r).Filed := by
  induction assets generalizing r with
  | nil => exact h
  | cons a assets ih => exact ih (h.register a)

lemma Filed.importManifest (h : r.Filed) (manifest : Value) : (r.importManifest manifest).2.Filed :=
  h.foldl_register _

lemma Indexes.names_getD (h : r.Indexes index has) [∀ a name, Decidable (has a name)] (name : String) :
    ((index.find? name).getD ∅).names = (r.assets.entries.filter fun entry => has entry.2 name).map (·.1) := by
  set found := r.assets.entries.filter fun entry => has entry.2 name
  have hsorted : (found.map (·.1)).Pairwise (· < ·) := List.pairwise_map.mpr (r.assets.sorted.filter _)
  have hn : (found.map (·.1)).Nodup := hsorted.imp fun {a b} hlt (he : a = b) => String.lt_irrefl _ (he ▸ hlt)
  have hmem : ∀ id, id ∈ ((index.find? name).getD ∅).names ↔ id ∈ found.map (·.1) := by
    intro id
    rw [← AssetIndex.files_iff_mem_getD, h.files_iff]
    simp [found, asset?, Dictionary.find?_eq_some_iff]
  refine ((List.perm_ext_iff_of_nodup (NameSet.names_nodup _) hn).mpr hmem).eq_of_pairwise ?_ (NameSet.sorted _) hsorted
  intro a b _ _ hab hba
  exact (String.lt_irrefl a (String.lt_trans hab hba)).elim

lemma Indexes.indexed (h : r.Indexes index has) [∀ a name, Decidable (has a name)] (name : String) :
    r.indexed index name = r.assets.values.filter fun a => has a name := by
  rw [AssetRegistry.indexed, h.names_getD, List.filterMap_map, Dictionary.values, List.filter_map,
    ← List.filterMap_eq_map]
  refine List.filterMap_congr fun entry he => ?_
  exact Dictionary.find?_eq_some_iff.mpr (List.mem_of_mem_filter he)

lemma Filed.tagged (h : r.Filed) (tag : String) : r.tagged tag = r.search { tags := [tag] } := by
  rw [AssetRegistry.tagged, h.byTag.indexed, search]
  refine List.filter_congr fun a _ => ?_
  simp [AssetQuery.accepts]

lemma Filed.ofKind (h : r.Filed) (kind : AssetKind) : r.ofKind kind = r.search { kind := some kind } := by
  rw [AssetRegistry.ofKind, h.byKind.indexed, search]
  refine List.filter_congr fun a _ => ?_
  have hkind : Named.name kind = Named.name a.kind ↔ a.kind = kind :=
    ⟨fun he => (LawfulNamed.name_injective he).symm, fun he => he ▸ rfl⟩
  simp [AssetQuery.accepts, hkind]

lemma Indexes.mem_keys (h : r.Indexes index has) : name ∈ index.keys ↔ ∃ a ∈ r.assets.values, has a name := by
  have hfiles : name ∈ index.keys ↔ ∃ id, index.Files name id := by
    rw [Dictionary.mem_keys_iff]
    constructor
    · rintro ⟨ids, hf⟩
      obtain ⟨id, hid⟩ := List.exists_mem_of_ne_nil _ (h.inhabited name ids hf)
      exact ⟨id, ids, hf, hid⟩
    · rintro ⟨id, ids, hf, -⟩
      exact ⟨ids, hf⟩
  simp only [hfiles, h.files_iff, Dictionary.mem_values_iff, asset?]
  exact ⟨fun ⟨id, a, ha, hn⟩ => ⟨a, ⟨id, ha⟩, hn⟩, fun ⟨a, ⟨id, ha⟩, hn⟩ => ⟨id, a, ha, hn⟩⟩

end AssetRegistry

inductive RegistryEdit where
  | register (a : Asset)
  | unregister (id : String)
  | importManifest (manifest : Value)

def RegistryEdit.apply (r : AssetRegistry) : RegistryEdit → AssetRegistry
  | .register a => (r.register a).2
  | .unregister id => (r.unregister id).2
  | .importManifest manifest => (r.importManifest manifest).2

namespace AssetRegistry

variable {r : AssetRegistry}

def edited (r : AssetRegistry) (edits : List RegistryEdit) : AssetRegistry := edits.foldl RegistryEdit.apply r

lemma Filed.apply (h : r.Filed) (edit : RegistryEdit) : (edit.apply r).Filed := by
  cases edit with
  | register a => exact h.register a
  | unregister id => exact h.unregister id
  | importManifest manifest => exact h.importManifest manifest

lemma Filed.edited (h : r.Filed) (edits : List RegistryEdit) : (r.edited edits).Filed := by
  induction edits generalizing r with
  | nil => exact h
  | cons edit edits ih => exact ih (h.apply edit)

/-- Whatever was done to an empty registry, its indices tell of its assets exactly what a search finds. -/
theorem edited_empty_filed (edits : List RegistryEdit) : (edited {} edits).Filed ∧
    (∀ tag, (edited {} edits).tagged tag = (edited {} edits).search { tags := [tag] }) ∧
    (∀ kind, (edited {} edits).ofKind kind = (edited {} edits).search { kind := some kind }) ∧
    (edited {} edits).tags.Pairwise (· < ·) ∧
    ∀ tag, tag ∈ (edited {} edits).tags ↔ ∃ a ∈ (edited {} edits).assets.values, tag ∈ a.tags := by
  have h := filed_empty.edited edits
  exact ⟨h, h.tagged, h.ofKind, List.pairwise_map.mpr (Dictionary.sorted _), fun _ => h.byTag.mem_keys⟩

end AssetRegistry

end Diorama
