import Diorama.Assets.Registry
import Diorama.Proofs.Dictionary
import Diorama.Proofs.NameSet

namespace Diorama.AssetIndex

variable {index : AssetIndex} {name id n i : String} {names : List String}

def Files (index : AssetIndex) (name id : String) : Prop := ∃ ids, index.find? name = some ids ∧ id ∈ ids.names

def Inhabited (index : AssetIndex) : Prop := ∀ name ids, index.find? name = some ids → ids.names ≠ []

lemma files_iff_mem_getD : index.Files name id ↔ id ∈ ((index.find? name).getD ∅).names := by
  unfold Files
  cases index.find? name with
  | none => simp [EmptyCollection.emptyCollection, NameSet.empty]
  | some ids => simp

lemma not_files_empty : ¬Files ∅ name id := by
  rintro ⟨ids, h, -⟩
  cases h

lemma inhabited_empty : Inhabited ∅ := fun _ _ h => nomatch h

lemma files_add : (index.add name id).Files n i ↔ n = name ∧ i = id ∨ index.Files n i := by
  rw [files_iff_mem_getD, files_iff_mem_getD, add, Dictionary.find?_insert]
  by_cases hn : n = name
  · subst hn
    simp [NameSet.insert, NameSet.mem_insertName]
  · simp [hn]

lemma inhabited_add (h : index.Inhabited) : (index.add name id).Inhabited := by
  intro n ids hf
  rw [add, Dictionary.find?_insert] at hf
  split at hf
  · obtain rfl := Option.some.inj hf
    exact List.ne_nil_of_mem (NameSet.mem_insertName.mpr (Or.inl rfl))
  · exact h n ids hf

lemma find?_drop (index : AssetIndex) (id name n : String) : (index.drop id name).find? n =
    if n = name then ((index.find? name).map (·.erase id)).filter (!·.isEmpty) else index.find? n := by
  rw [drop]
  cases hf : index.find? name with
  | none =>
    by_cases hn : n = name
    · simp [hn, hf]
    · simp [hn]
  | some ids =>
    by_cases he : (ids.erase id).isEmpty <;> by_cases hn : n = name <;>
      simp [he, hn, Option.filter, Dictionary.find?_erase, Dictionary.find?_insert]

lemma files_drop : (index.drop id name).Files n i ↔ index.Files n i ∧ ¬(n = name ∧ i = id) := by
  unfold Files
  rw [find?_drop]
  by_cases hn : n = name
  · subst hn
    simp only [if_true, Option.filter_eq_some_iff, Option.map_eq_some_iff, true_and]
    constructor
    · rintro ⟨_, ⟨⟨ids, hf, rfl⟩, -⟩, hi⟩
      obtain ⟨hi, hne⟩ := List.mem_filter.mp hi
      exact ⟨⟨ids, hf, hi⟩, bne_iff_ne.mp hne⟩
    · rintro ⟨⟨ids, hf, hi⟩, hne⟩
      have hleft : i ∈ (ids.erase id).names := List.mem_filter.mpr ⟨hi, bne_iff_ne.mpr hne⟩
      refine ⟨_, ⟨⟨ids, hf, rfl⟩, ?_⟩, hleft⟩
      simpa [NameSet.isEmpty] using List.ne_nil_of_mem hleft
  · simp [hn]

lemma inhabited_drop (h : index.Inhabited) : (index.drop id name).Inhabited := by
  intro n ids hf
  rw [find?_drop] at hf
  split at hf
  · simpa [NameSet.isEmpty] using (Option.filter_eq_some_iff.mp hf).2
  · exact h n ids hf

lemma eq_of_files {other : AssetIndex} (h : index.Inhabited) (ho : other.Inhabited)
    (hf : ∀ name id, index.Files name id ↔ other.Files name id) : index = other := by
  have hsub : ∀ {i j : AssetIndex}, i.Inhabited → (∀ name id, i.Files name id ↔ j.Files name id) →
      ∀ {name ids}, i.find? name = some ids → j.find? name = some ids := by
    intro i j hi hij name ids hids
    obtain ⟨id, hid⟩ := List.exists_mem_of_ne_nil _ (hi name ids hids)
    obtain ⟨ids', hids', -⟩ := (hij name id).mp ⟨ids, hids, hid⟩
    have hsame : ids = ids' := NameSet.eq_iff_mem.mpr fun x => by
      have hx := hij name x
      rw [files_iff_mem_getD, files_iff_mem_getD, hids, hids'] at hx
      exact hx
    exact hsame ▸ hids'
  refine Dictionary.eq_of_find? fun name => Option.ext fun ids => ⟨hsub h hf, hsub ho fun n x => (hf n x).symm⟩

lemma files_foldl_add : (names.foldl (add · · id) index).Files n i ↔ n ∈ names ∧ i = id ∨ index.Files n i := by
  induction names generalizing index with
  | nil => simp
  | cons name names ih =>
    rw [List.foldl_cons, ih, files_add, List.mem_cons]
    tauto

lemma inhabited_foldl_add (h : index.Inhabited) : (names.foldl (add · · id) index).Inhabited := by
  induction names generalizing index with
  | nil => exact h
  | cons name names ih => exact ih (inhabited_add h)

lemma files_foldl_drop : (names.foldl (drop · id ·) index).Files n i ↔ index.Files n i ∧ ¬(n ∈ names ∧ i = id) := by
  induction names generalizing index with
  | nil => simp
  | cons name names ih =>
    rw [List.foldl_cons, ih, files_drop, List.mem_cons]
    tauto

lemma inhabited_foldl_drop (h : index.Inhabited) : (names.foldl (drop · id ·) index).Inhabited := by
  induction names generalizing index with
  | nil => exact h
  | cons name names ih => exact ih (inhabited_drop h)

end Diorama.AssetIndex
