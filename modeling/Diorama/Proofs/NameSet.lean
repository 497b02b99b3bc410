import Diorama.Dictionary
import Mathlib.Data.List.Nodup
import Mathlib.Data.List.Sort
import Mathlib.Tactic.Lemma

namespace Diorama.NameSet

lemma names_nodup (s : NameSet) : s.names.Nodup :=
  s.sorted.imp fun h => fun he => String.lt_irrefl _ (he ▸ h)

lemma mem_names_foldl_insert {x : String} {names : List String} {s : NameSet} :
    x ∈ (names.foldl insert s).names ↔ x ∈ s.names ∨ x ∈ names := by
  induction names generalizing s with
  | nil => simp
  | cons name names ih =>
    rw [List.foldl_cons, ih]
    simp only [insert, mem_insertName, List.mem_cons]
    tauto

lemma mem_names_ofList {x : String} {names : List String} : x ∈ (ofList names).names ↔ x ∈ names := by
  rw [ofList, mem_names_foldl_insert]
  simp [EmptyCollection.emptyCollection, empty]

lemma eq_iff_mem {s t : NameSet} : s = t ↔ ∀ x, x ∈ s.names ↔ x ∈ t.names := by
  constructor
  · rintro rfl x
    rfl
  · intro h
    have hp : s.names.Perm t.names := (List.perm_ext_iff_of_nodup s.names_nodup t.names_nodup).mpr h
    refine ext (hp.eq_of_pairwise ?_ s.sorted t.sorted)
    intro a b _ _ hab hba
    exact (String.lt_irrefl a (String.lt_trans hab hba)).elim

lemma length_ofList_eq_iff {names : List String} :
    (ofList names).names.length = names.length ↔ names.Nodup := by
  constructor
  · intro h
    have hsub : (ofList names).names ⊆ names := fun x hx => mem_names_ofList.mp hx
    have hp := (List.subperm_of_subset (ofList names).names_nodup hsub).perm_of_length_le h.ge
    exact hp.nodup_iff.mp (ofList names).names_nodup
  · intro h
    exact ((List.perm_ext_iff_of_nodup (ofList names).names_nodup h).mpr fun x => mem_names_ofList).length_eq

end Diorama.NameSet
