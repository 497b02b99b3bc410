import Diorama.Validation.Validator
import Mathlib.Tactic.Lemma

namespace Diorama

def Clean (issues : List Issue) : Prop := ∀ i ∈ issues, i.isError = false

namespace Clean

lemma isValid_iff (issues : List Issue) : (Report.mk issues).isValid = true ↔ Clean issues := by
  simp [Report.isValid, Clean]

@[simp] lemma nil : Clean [] := by simp [Clean]

lemma append_iff {a b : List Issue} : Clean (a ++ b) ↔ Clean a ∧ Clean b := by
  simp only [Clean, List.mem_append, or_imp, forall_and]

lemma cons_iff {i : Issue} {rest : List Issue} : Clean (i :: rest) ↔ i.isError = false ∧ Clean rest := by
  simp [Clean]

lemma flatMap_iff {α : Type} {f : α → List Issue} {l : List α} :
    Clean (l.flatMap f) ↔ ∀ a ∈ l, Clean (f a) := by
  simp only [Clean, List.mem_flatMap]
  grind

lemma of_isError {issues : List Issue} (h : ∀ i ∈ issues, i.isError = true) : Clean issues ↔ issues = [] := by
  constructor
  · intro hc
    refine List.eq_nil_iff_forall_not_mem.mpr fun i hi => ?_
    have hi' := hc i hi
    rw [h i hi] at hi'
    cases hi'
  · rintro rfl
    exact nil

lemma filterMap_iff {α : Type} {f : α → Option Issue} {l : List α}
    (h : ∀ a i, f a = some i → i.isError = true) : Clean (l.filterMap f) ↔ ∀ a ∈ l, f a = none := by
  rw [of_isError, List.filterMap_eq_nil_iff]
  intro i hi
  obtain ⟨a, _, ha⟩ := List.mem_filterMap.mp hi
  exact h a i ha

lemma map_filter_iff {α : Type} {f : α → Issue} {p : α → Bool} {l : List α}
    (h : ∀ a, (f a).isError = true) : Clean ((l.filter p).map f) ↔ ∀ a ∈ l, ¬p a = true := by
  rw [of_isError, List.map_eq_nil_iff, List.filter_eq_nil_iff]
  intro i hi
  obtain ⟨a, _, rfl⟩ := List.mem_map.mp hi
  exact h a

lemma ite_iff {c : Prop} [Decidable c] {i : Issue} (h : i.isError = true) :
    Clean (if c then [i] else []) ↔ ¬c := by
  split <;> simp_all [Clean]

lemma ite_nil_iff {c : Prop} [Decidable c] {i : Issue} (h : i.isError = true) :
    Clean (if c then [] else [i]) ↔ c := by
  split <;> simp_all [Clean]

end Clean

end Diorama
