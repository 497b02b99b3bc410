import Diorama.Pipeline.Assembly
import Diorama.Pipeline.FreshId
import Diorama.Proofs.Validation.Structure
import Mathlib.Data.List.ReduceOption

namespace Diorama

lemma present?_eq_some_iff {text : Option String} {x : String} :
    present? text = some x ↔ text = some x ∧ Text.Visible x := by
  rw [present?, Option.filter_eq_some_iff, ← Text.not_isBlankText_iff]
  simp

lemma visible_getD_present? {text : Option String} {other : String} (h : Text.Visible other) :
    Text.Visible ((present? text).getD other) := by
  cases hp : present? text with
  | none => exact h
  | some x => exact (present?_eq_some_iff.mp hp).2

lemma FreshId.visible_text (n : Nat) : Text.Visible (text n) :=
  ⟨'-', by simp [text], by decide⟩

def Serves (given : Option String) (id : String) : Prop := ∀ x, given = some x → Text.Visible x → id = x

def filled (fresh : Nat → String) (given : List (Option String)) : List String :=
  given.mapIdx fun i id => id.getD (fresh i)

lemma filled_cons (fresh : Nat → String) (id : Option String) (given : List (Option String)) :
    filled fresh (id :: given) = id.getD (fresh 0) :: filled (fun i => fresh (i + 1)) given := by
  simp [filled, List.mapIdx_cons]

lemma filled_append (fresh : Nat → String) (given rest : List (Option String)) :
    filled fresh (given ++ rest) = filled fresh given ++ filled (fun i => fresh (given.length + i)) rest := by
  simp only [filled, List.mapIdx_append, Nat.add_comm]

lemma map_mapIdx_eq_filled {α β : Type} (part : String → α → β) {id : β → String} {given : α → Option String}
    (h : ∀ fresh a, id (part fresh a) = (given a).getD fresh) (fresh : Nat → String) (parts : List α) :
    (parts.mapIdx fun i a => part (fresh i) a).map id = filled fresh (parts.map given) :=
  List.ext_getElem (by simp [filled]) fun i _ _ => by simp [filled, h]

lemma serves_getD_present? (given : Option String) (fresh : String) : Serves given ((present? given).getD fresh) := by
  intro x hx hvisible
  rw [present?_eq_some_iff.mpr ⟨hx, hvisible⟩]
  rfl

lemma forall₂_serves_filled {α : Type} (fresh : Nat → String) (parts : List α) (id : α → Option String) :
    List.Forall₂ Serves (parts.map id) (filled fresh (parts.map fun a => present? (id a))) := by
  induction parts generalizing fresh with
  | nil => exact .nil
  | cons a parts ih =>
    rw [List.map_cons, List.map_cons, filled_cons]
    exact .cons (serves_getD_present? _ _) (ih _)

lemma mem_filled_of_some {fresh : Nat → String} {given : List (Option String)} {x : String} (h : some x ∈ given) :
    x ∈ filled fresh given := by
  obtain ⟨i, hi, hx⟩ := List.mem_iff_getElem.mp h
  refine List.mem_mapIdx.mpr ⟨i, hi, ?_⟩
  rw [hx]
  rfl

lemma of_mem_filled {fresh : Nat → String} {given : List (Option String)} {x : String} (h : x ∈ filled fresh given) :
    some x ∈ given ∨ ∃ k < given.length, fresh k = x := by
  obtain ⟨i, hi, hx⟩ := List.mem_mapIdx.mp h
  cases hg : given[i] with
  | some y =>
    rw [hg] at hx
    obtain rfl : y = x := hx
    exact Or.inl (hg ▸ List.getElem_mem hi)
  | none =>
    rw [hg] at hx
    exact Or.inr ⟨i, hi, hx⟩

lemma nodup_filled_iff {fresh : Nat → String} {given : List (Option String)}
    (hd : ∀ j < given.length, ∀ k < given.length, fresh j = fresh k → j = k)
    (hu : ∀ k < given.length, some (fresh k) ∉ given) : (filled fresh given).Nodup ↔ given.reduceOption.Nodup := by
  induction given generalizing fresh with
  | nil => simp [filled, List.reduceOption]
  | cons id given ih =>
    have hlater : ∀ k < given.length, fresh (k + 1) ≠ fresh 0 ∧ some (fresh (k + 1)) ∉ id :: given := by
      intro k hk
      refine ⟨fun he => ?_, hu (k + 1) (Nat.succ_lt_succ hk)⟩
      cases hd (k + 1) (Nat.succ_lt_succ hk) 0 (Nat.succ_pos _) he
    have hrest := @ih (fun i => fresh (i + 1))
      (fun j hj k hk he => Nat.succ.inj (hd (j + 1) (Nat.succ_lt_succ hj) (k + 1) (Nat.succ_lt_succ hk) he))
      fun k hk hm => (hlater k hk).2 (List.mem_cons_of_mem _ hm)
    rw [filled_cons, List.nodup_cons, hrest]
    cases id with
    | none =>
      rw [List.reduceOption_cons_of_none]
      refine and_iff_right fun hm => ?_
      rcases of_mem_filled hm with hm | ⟨k, hk, he⟩
      · exact hu 0 (Nat.succ_pos _) (List.mem_cons_of_mem _ hm)
      · exact (hlater k hk).1 he
    | some x =>
      rw [List.reduceOption_cons_of_some, List.nodup_cons, List.reduceOption_mem_iff]
      refine and_congr_left fun _ => not_congr ⟨fun hm => ?_, mem_filled_of_some⟩
      rcases of_mem_filled hm with hm | ⟨k, hk, rfl⟩
      · exact hm
      · exact ((hlater k hk).2 List.mem_cons_self).elim

namespace WorldDraft

def given (d : WorldDraft) : List (Option String) :=
  d.entities.map (present? ·.id) ++ d.lights.map (present? ·.id) ++ d.mechanisms.map (present? ·.id)

def givenIds (d : WorldDraft) : List String := d.given.reduceOption

structure Supplied (d : WorldDraft) (fresh : Nat → String) : Prop where
  distinct : ∀ j ≤ d.partCount, ∀ k ≤ d.partCount, fresh j = fresh k → j = k
  ungiven : ∀ k ≤ d.partCount, fresh k ∉ d.givenIds
  unnamed : ∀ k ≤ d.partCount, ∀ e ∈ d.entities, present? e.parent ≠ some (fresh k)

variable (d : WorldDraft) (fresh : Nat → String)

lemma length_given : d.given.length = d.partCount := by
  simp only [given, partCount, List.length_append, List.length_map]

lemma map_id_assembleEntities :
    (d.assembleEntities fresh).map (·.id) = filled fresh (d.entities.map (present? ·.id)) :=
  map_mapIdx_eq_filled DraftEntity.assemble (fun _ _ => rfl) _ _

lemma map_id_assembleLights : (d.assembleLights fresh).map (·.id) =
    filled (fun i => fresh (d.entities.length + i)) (d.lights.map (present? ·.id)) :=
  map_mapIdx_eq_filled DraftLight.assemble (fun _ _ => rfl) _ _

lemma map_id_assembleMechanisms : (d.assembleMechanisms fresh).map (·.id) =
    filled (fun i => fresh (d.entities.length + d.lights.length + i)) (d.mechanisms.map (present? ·.id)) :=
  map_mapIdx_eq_filled DraftMechanism.assemble (fun _ _ => rfl) _ _

lemma filled_given : filled fresh d.given = (d.assembleEntities fresh).map (·.id) ++
    (d.assembleLights fresh).map (·.id) ++ (d.assembleMechanisms fresh).map (·.id) := by
  rw [given, filled_append, filled_append, map_id_assembleEntities, map_id_assembleLights, map_id_assembleMechanisms]
  simp only [List.length_append, List.length_map]

variable {d fresh}

lemma Supplied.nodup_filled_iff (h : d.Supplied fresh) : (filled fresh d.given).Nodup ↔ d.givenIds.Nodup := by
  refine Diorama.nodup_filled_iff (fun j hj k hk => ?_) fun k hk hm => ?_
  · rw [length_given] at hj hk
    exact h.distinct j (Nat.le_of_lt hj) k (Nat.le_of_lt hk)
  · rw [length_given] at hk
    exact h.ungiven k (Nat.le_of_lt hk) (List.reduceOption_mem_iff.mpr hm)

lemma Supplied.last_notMem (h : d.Supplied fresh) : fresh d.partCount ∉ filled fresh d.given := by
  intro hm
  rcases of_mem_filled hm with hm | ⟨k, hk, he⟩
  · exact h.ungiven _ le_rfl (List.reduceOption_mem_iff.mpr hm)
  · rw [length_given] at hk
    exact (Nat.ne_of_lt hk) (h.distinct k (Nat.le_of_lt hk) _ le_rfl he)

end WorldDraft

end Diorama
