import Diorama.Proofs.Hierarchy.CycleSearch
import Diorama.Proofs.Hierarchy.Links
import Diorama.Proofs.NameSet
import Diorama.Proofs.Validation.Clean
import Diorama.Validation.Rules.Hierarchy
import Diorama.Validation.Rules.Identity
import Diorama.Validation.Rules.References

namespace Diorama

open Relation Ancestry

def Text.Visible (text : String) : Prop := ∃ c ∈ text.toList, Text.isBlank c = false

lemma Text.not_isBlankText_iff {text : String} : ¬Text.isBlankText text = true ↔ Text.Visible text := by
  simp [Text.isBlankText, Text.Visible]

namespace Rule

lemma isError_of_mem_repeated {seen parts : List (String × String)} {i : Issue} (hi : i ∈ repeated seen parts) :
    i.isError = true := by
  induction parts generalizing seen with
  | nil => cases hi
  | cons p parts ih =>
    obtain ⟨id, kind⟩ := p
    unfold repeated at hi
    cases h : seen.lookup id with
    | none =>
      rw [h] at hi
      exact ih hi
    | some earlier =>
      rw [h] at hi
      rcases List.mem_cons.mp hi with rfl | hi
      · rfl
      · exact ih hi

lemma repeated_eq_nil_iff {seen parts : List (String × String)} :
    repeated seen parts = [] ↔ (parts.map (·.1)).Nodup ∧ ∀ p ∈ parts, seen.lookup p.1 = none := by
  induction parts generalizing seen with
  | nil => simp [repeated]
  | cons p parts ih =>
    obtain ⟨id, kind⟩ := p
    unfold repeated
    cases h : seen.lookup id with
    | some earlier =>
      refine ⟨fun hc => (List.cons_ne_nil _ _ hc).elim, fun hc => ?_⟩
      have hid := hc.2 _ List.mem_cons_self
      rw [h] at hid
      cases hid
    | none =>
      rw [ih, List.map_cons, List.nodup_cons, List.forall_mem_cons]
      have hlookup : ∀ x, ((id, kind) :: seen).lookup x = none ↔ x ≠ id ∧ seen.lookup x = none := by
        intro x
        rw [List.lookup_cons]
        by_cases hx : x = id
        · simp [hx]
        · simp only [beq_eq_false_iff_ne.mpr hx, ne_eq, hx, not_false_eq_true, true_and]
      simp only [hlookup, h, true_and, List.mem_map, not_exists, not_and]
      constructor
      · rintro ⟨hd, hp⟩
        exact ⟨⟨fun q hq => (hp q hq).1, hd⟩, fun q hq => (hp q hq).2⟩
      · rintro ⟨⟨hne, hd⟩, hp⟩
        exact ⟨hd, fun q hq => ⟨hne q hq, hp q hq⟩⟩

lemma map_fst_namedParts (w : World) : (namedParts w).map (·.1) = w.ids := by
  simp [namedParts, World.ids, Function.comp_def]

lemma clean_uniqueIds {w : World} : Clean (uniqueIds w) ↔ w.ids.Nodup := by
  rw [uniqueIds, Clean.of_isError fun i hi => isError_of_mem_repeated hi, repeated_eq_nil_iff,
    map_fst_namedParts]
  simp

lemma clean_missingParents {w : World} : Clean (missingParents w.entities) ↔
    ∀ e ∈ w.entities, ∀ up, e.parent = some up → ∃ q ∈ w.entities, q.id = up := by
  rw [missingParents, Clean.filterMap_iff]
  · refine forall₂_congr fun e _ => ?_
    cases h : e.parent with
    | none => simp
    | some up => simp
  · intro e i hi
    cases h : e.parent with
    | none => simp [h] at hi
    | some up =>
      simp only [h] at hi
      split at hi
      · cases hi
      · obtain rfl := Option.some.inj hi
        rfl

lemma up_parentOf? {w : World} (hn : w.entityIds.Nodup) : Up (parentOf? w.entities) = w.Under := by
  funext a b
  apply propext
  constructor
  · exact mem_of_parentOf?
  · rintro ⟨e, he, rfl, hp⟩
    have hfound : ∃ c, parentOf? w.entities e.id = some c := by
      cases hf : w.entities.find? fun x => x.id == e.id && x.parent.isSome with
      | none =>
        have := List.find?_eq_none.mp hf e he
        simp [hp] at this
      | some x =>
        have hx := List.find?_some hf
        simp only [Bool.and_eq_true] at hx
        obtain ⟨c, hc⟩ := Option.isSome_iff_exists.mp hx.2
        exact ⟨c, by rw [parentOf?, hf]; exact hc⟩
    obtain ⟨c, hc⟩ := hfound
    have hunder : w.Under e.id c := mem_of_parentOf? hc
    rw [World.under_eq_up hn] at hunder
    have hcb : some c = some b := hunder.symm.trans ((World.parent?_eq_some_of_mem hn he).trans hp)
    exact hc.trans hcb

lemma isError_of_mem_parentCycles {es : List Entity} {i : Issue} (hi : i ∈ parentCycles es) :
    i.isError = true := by
  obtain ⟨c, _, hic⟩ := List.mem_flatMap.mp hi
  cases c with
  | nil => cases hic
  | cons first rest =>
    rw [cycleIssue, List.mem_singleton] at hic
    rw [hic]
    rfl

lemma clean_parentCycles {w : World} (hn : w.entityIds.Nodup) :
    Clean (parentCycles w.entities) ↔ ∀ id, ¬TransGen w.Under id id := by
  rw [Clean.of_isError fun i hi => isError_of_mem_parentCycles hi, parentCycles_eq_nil_iff, up_parentOf? hn]

lemma mem_expected_iff {w : World} {up id : String} :
    id ∈ (w.entities.filter (·.parent = some up)).map (·.id) ↔ w.Under id up := World.mem_childrenOf

lemma clean_childrenMismatches {w : World} : Clean (childrenMismatches w.entities) ↔ w.Mirrored := by
  rw [childrenMismatches, Clean.filterMap_iff]
  · refine forall₂_congr fun e _ => ?_
    simp only [ite_eq_left_iff, reduceCtorEq, imp_false, not_not, NameSet.length_ofList_eq_iff,
      NameSet.eq_iff_mem, mem_expected_iff, NameSet.mem_names_ofList]
    constructor
    · rintro ⟨hc, hd⟩
      exact ⟨hd, fun id => (hc id).symm⟩
    · rintro ⟨hd, hc⟩
      exact ⟨fun id => (hc id).symm, hd⟩
  · intro e i hi
    simp only at hi
    split at hi
    · cases hi
    · obtain rfl := Option.some.inj hi
      rfl

lemma clean_requiredFields {w : World} : Clean (requiredFields w) ↔ Text.Visible w.metadata.title ∧
    Text.Visible w.metadata.version ∧ (∀ id ∈ w.ids, Text.Visible id) ∧
      ∀ e ∈ w.entities, Text.Visible e.name := by
  have hplatforms : Clean (if w.metadata.targetPlatforms.isEmpty then
      [{ missing "metadata.target_platforms" "no target platforms listed" with severity := .warning }]
      else []) := by
    split <;> simp [Clean, Issue.isError]
  rw [requiredFields, Clean.append_iff, Clean.append_iff, Clean.append_iff, Clean.append_iff,
    Clean.ite_iff rfl, Clean.ite_iff rfl, Clean.map_filter_iff fun _ => rfl, Clean.map_filter_iff fun _ => rfl,
    ← map_fst_namedParts]
  simp only [Text.not_isBlankText_iff, hplatforms, and_true, and_assoc, List.forall_mem_map]

lemma clean_mechanismReferences {w : World} {m : Mechanism} : Clean (mechanismReferences w m) ↔
    ∀ x ∈ m.interactions, ∀ target, x.target = some target → ∃ e ∈ w.entities, e.id = target := by
  rw [mechanismReferences, Clean.filterMap_iff]
  · have hknown : ∀ target, (w.entity? target).isSome = true ↔ ∃ e ∈ w.entities, e.id = target := by
      simp [World.entity?]
    conv_rhs => rw [← List.zipIdx_map_fst 0 m.interactions, List.forall_mem_map]
    refine forall₂_congr fun p _ => ?_
    obtain ⟨x, index⟩ := p
    cases h : x.target with
    | none => simp [h]
    | some target => simp [h, hknown]
  · rintro ⟨x, index⟩ i hi
    obtain ⟨target, _, hi⟩ := Option.bind_eq_some_iff.mp hi
    split at hi
    · cases hi
    · obtain rfl := Option.some.inj hi
      rfl

lemma clean_systemReferences {w : World} : Clean (systemReferences w) ↔ ∀ m ∈ w.mechanisms,
    ∀ x ∈ m.interactions, ∀ target, x.target = some target → ∃ e ∈ w.entities, e.id = target := by
  rw [systemReferences, Clean.flatMap_iff]
  exact forall₂_congr fun _ _ => clean_mechanismReferences

end Rule

end Diorama
