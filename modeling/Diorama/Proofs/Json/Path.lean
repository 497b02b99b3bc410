import Diorama.Json.Basic
import Diorama.Proofs.Dictionary

namespace Diorama

namespace Json

inductive Step where
  | member (name : String)
  | item (index : Nat)
deriving DecidableEq

abbrev Path := List Step

namespace Step

def target? : Step → Json → Option Json
  | .member name, j => j.member? name
  | .item i, .array items => items[i]?
  | .item _, _ => none

def change (f : Json → Json) : Step → Json → Json
  | .member name, .object members => .object (members.map fun m => if m.1 = name then (m.1, f m.2) else m)
  | .item i, .array items => .array (items.modify i f)
  | _, j => j

end Step

def at? : Path → Json → Option Json
  | [], j => some j
  | step :: path, j => (step.target? j).bind (at? path)

def changeAt (f : Json → Json) : Path → Json → Json
  | [] => f
  | step :: path => step.change (changeAt f path)

def withMember (name : String) (item : Json) : Json → Json
  | .object members => .object (Dictionary.insertEntry name item members)
  | j => j

variable {f : Json → Json} {j item : Json} {name : String}

lemma mem_of_member? {members : List (String × Json)} (h : (Json.object members).member? name = some item) :
    (name, item) ∈ members := by
  obtain ⟨m, hm, rfl⟩ := Option.map_eq_some_iff.mp h
  have hname : m.1 = name := by simpa using List.find?_some hm
  exact hname ▸ List.mem_of_find?_eq_some hm

namespace Step

lemma target?_change (f : Json → Json) (step : Step) (j : Json) :
    step.target? (step.change f j) = (step.target? j).map f := by
  cases step with
  | member name =>
    cases j with
    | object members =>
      have hname : (fun m : String × Json => m.1 == name) ∘ (fun m => if m.1 = name then (m.1, f m.2) else m) =
          fun m => m.1 == name := by
        funext m
        rw [Function.comp_apply, apply_ite Prod.fst, ite_self]
      rw [target?, target?, change, member?, member?, List.find?_map, hname]
      cases hm : members.find? (·.1 == name) with
      | none => rfl
      | some m =>
        have he : m.1 = name := by simpa using List.find?_some hm
        simp only [Option.map_some, if_pos he]
    | _ => rfl
  | item i =>
    cases j with
    | array items =>
      rw [change, target?, target?, List.getElem?_modify]
      simp only [if_true, Option.map_eq_map]
    | _ => rfl

end Step

lemma at?_changeAt (f : Json → Json) (path : Path) (j : Json) : at? path (changeAt f path j) = (at? path j).map f := by
  induction path generalizing j with
  | nil => rfl
  | cons step path ih =>
    rw [at?, at?, changeAt, Step.target?_change, Option.bind_map, Option.map_bind]
    exact congrArg _ (funext fun item => ih item)

lemma at?_singleton (step : Step) (j : Json) : j.at? [step] = step.target? j := Option.bind_fun_some _

lemma at?_append (path rest : Path) (h : j.at? (path ++ rest) = some item) :
    ∃ part, j.at? path = some part ∧ part.at? rest = some item := by
  induction path generalizing j with
  | nil => exact ⟨j, rfl, h⟩
  | cons step path ih =>
    obtain ⟨next, hnext, h⟩ := Option.bind_eq_some_iff.mp h
    obtain ⟨part, hpart, hrest⟩ := ih h
    exact ⟨part, Option.bind_eq_some_iff.mpr ⟨next, hnext, hpart⟩, hrest⟩

lemma changeAt_append (f : Json → Json) (path rest : Path) :
    changeAt f (path ++ rest) = changeAt (changeAt f rest) path := by
  induction path with
  | nil => rfl
  | cons step path ih => exact congrArg step.change ih

lemma areData_iff {items : List Json} : areData items = true ↔ ∀ item ∈ items, item.isData = true := by
  induction items with
  | nil => simp [areData]
  | cons item rest ih => simp [areData, ih]

lemma isData_of_target? {step : Step} (h : j.isData = true) (ht : step.target? j = some item) : item.isData = true := by
  cases step with
  | member name =>
    cases j with
    | object members =>
      rw [isData, Bool.and_eq_true, membersAreData_iff] at h
      exact h.2 _ (mem_of_member? ht)
    | _ => cases ht
  | item i =>
    cases j with
    | array items => exact areData_iff.mp h item (List.mem_of_getElem? ht)
    | _ => cases ht

lemma isData_of_at? {path : Path} (h : j.isData = true) (ht : j.at? path = some item) : item.isData = true := by
  induction path generalizing j with
  | nil => exact Option.some.inj ht ▸ h
  | cons step path ih =>
    obtain ⟨next, hnext, ht⟩ := Option.bind_eq_some_iff.mp ht
    exact ih (isData_of_target? h hnext) ht

lemma isData_change (hf : ∀ j : Json, j.isData = true → (f j).isData = true) (step : Step) (h : j.isData = true) :
    (step.change f j).isData = true := by
  cases step with
  | member name =>
    cases j with
    | object members =>
      rw [isData, Bool.and_eq_true, decide_eq_true_eq, membersAreData_iff] at h
      rw [Step.change, isData, Bool.and_eq_true, decide_eq_true_eq, membersAreData_iff, List.pairwise_map]
      constructor
      · refine h.1.imp fun {a b} hab => ?_
        rwa [apply_ite Prod.fst, apply_ite Prod.fst, ite_self, ite_self]
      · rw [List.forall_mem_map]
        intro m hm
        split
        · exact hf _ (h.2 m hm)
        · exact h.2 m hm
    | _ => exact h
  | item i =>
    cases j with
    | array items =>
      refine areData_iff.mpr fun item hitem => ?_
      obtain ⟨k, hk⟩ := List.mem_iff_getElem?.mp hitem
      rw [List.getElem?_modify] at hk
      obtain ⟨old, hold, rfl⟩ := Option.map_eq_some_iff.mp hk
      have hdata : old.isData = true := areData_iff.mp h old (List.mem_of_getElem? hold)
      split
      · exact hf old hdata
      · exact hdata
    | _ => exact h

lemma isData_changeAt (hf : ∀ j : Json, j.isData = true → (f j).isData = true) (path : Path) (h : j.isData = true) :
    (changeAt f path j).isData = true := by
  induction path generalizing j with
  | nil => exact hf j h
  | cons step path ih => exact isData_change (fun _ => ih) step h

lemma isData_withMember (hitem : item.isData = true) (h : j.isData = true) :
    (withMember name item j).isData = true := by
  cases j with
  | object members =>
    rw [isData, Bool.and_eq_true, decide_eq_true_eq, membersAreData_iff] at h
    rw [withMember, isData, Bool.and_eq_true, decide_eq_true_eq, membersAreData_iff]
    refine ⟨Dictionary.sorted_insertEntry h.1, fun m hm => ?_⟩
    rcases Dictionary.mem_insertEntry hm with rfl | hm
    · exact hitem
    · exact h.2 m hm
  | _ => exact h

end Json

def Value.withMemberAt (v : Value) (path : Json.Path) (name : String) (item : Value) : Value where
  json := v.json.changeAt (Json.withMember name item.json) path
  isData := Json.isData_changeAt (fun _ => Json.isData_withMember item.isData) path v.isData

end Diorama
