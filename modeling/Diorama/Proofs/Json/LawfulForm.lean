import Diorama.Proofs.Json.Rendering
import Diorama.Proofs.NameSet

namespace Diorama

open Json

/-- Whether every rendering of what is written of a value is read as the value. -/
structure Faithful {α : Type} [JsonForm α] (a : α) : Prop where
  wellFormed : (toJson a).WellFormed
  read {j : Json} : (toJson a).RenderedAs j → ofJson? j = some a

class LawfulForm (α : Type) [JsonForm α] : Prop where
  wellFormed (a : α) : (toJson a).WellFormed
  ofJson?_of_renderedAs {a : α} {j : Json} : (toJson a).RenderedAs j → ofJson? j = some a

export LawfulForm (wellFormed ofJson?_of_renderedAs)

lemma LawfulForm.faithful {α : Type} [JsonForm α] [LawfulForm α] (a : α) : Faithful a :=
  ⟨wellFormed a, ofJson?_of_renderedAs⟩

/-- Types whose values are faithful where they were read from a document. -/
class StableForm (α : Type) [JsonForm α] : Prop where
  faithful_of_ofJson? {j : Json} {a : α} : ofJson? j = some a → Faithful a

export StableForm (faithful_of_ofJson?)

instance {α : Type} [JsonForm α] [LawfulForm α] : StableForm α := ⟨fun _ => LawfulForm.faithful _⟩

class PresentForm (α : Type) [JsonForm α] : Prop where
  toJson_ne_null (a : α) : toJson a ≠ .null

export PresentForm (toJson_ne_null)

instance : LawfulForm Bool where
  wellFormed _ := trivial
  ofJson?_of_renderedAs h := by
    obtain rfl := h
    rfl

instance : LawfulForm String where
  wellFormed _ := trivial
  ofJson?_of_renderedAs h := by
    obtain rfl := h
    rfl

instance : PresentForm String := ⟨fun _ h => nomatch h⟩

instance : LawfulForm Scalar where
  wellFormed _ := trivial
  ofJson?_of_renderedAs h := h

instance : PresentForm Scalar := ⟨fun _ h => nomatch h⟩

lemma inRange_of_mem {n : Int} (hlow : -2 ^ 63 ≤ n) (hhigh : n < 2 ^ 64) : inRange n = true := by
  rw [inRange, Bool.and_eq_true, decide_eq_true_eq, decide_eq_true_eq]
  exact ⟨hlow, hhigh⟩

lemma integerIn?_of_mem {low high n : Int} (hlow : low ≤ n) (hhigh : n ≤ high) :
    (Json.integer n).integerIn? low high = some n :=
  if_pos ⟨hlow, hhigh⟩

instance : LawfulForm UInt8 where
  wellFormed n := by
    have := n.toNat_lt
    exact inRange_of_mem (by omega) (by omega)
  ofJson?_of_renderedAs {n j} h := by
    obtain rfl := h
    have hlt := n.toNat_lt
    have hread : (Json.integer n.toNat).integerIn? 0 255 = some (n.toNat : Int) :=
      integerIn?_of_mem (by omega) (by omega)
    refine (congrArg (Option.map fun n : Int => UInt8.ofNat n.toNat) hread).trans ?_
    simp

instance : LawfulForm UInt32 where
  wellFormed n := by
    have := n.toNat_lt
    exact inRange_of_mem (by omega) (by omega)
  ofJson?_of_renderedAs {n j} h := by
    obtain rfl := h
    have hlt := n.toNat_lt
    have hread : (Json.integer n.toNat).integerIn? 0 (2 ^ 32 - 1) = some (n.toNat : Int) :=
      integerIn?_of_mem (by omega) (by omega)
    refine (congrArg (Option.map fun n : Int => UInt32.ofNat n.toNat) hread).trans ?_
    simp

instance : LawfulForm UInt64 where
  wellFormed n := by
    have := n.toNat_lt
    exact inRange_of_mem (by omega) (by omega)
  ofJson?_of_renderedAs {n j} h := by
    obtain rfl := h
    have hlt := n.toNat_lt
    have hread : (Json.integer n.toNat).integerIn? 0 (2 ^ 64 - 1) = some (n.toNat : Int) :=
      integerIn?_of_mem (by omega) (by omega)
    refine (congrArg (Option.map fun n : Int => UInt64.ofNat n.toNat) hread).trans ?_
    simp

instance : LawfulForm Int32 where
  wellFormed n := by
    have hlow := n.le_toInt
    have hhigh := n.toInt_lt
    exact inRange_of_mem (by omega) (by omega)
  ofJson?_of_renderedAs {n j} h := by
    obtain rfl := h
    have hlow := n.le_toInt
    have hhigh := n.toInt_lt
    have hread : (Json.integer n.toInt).integerIn? (-2 ^ 31) (2 ^ 31 - 1) = some n.toInt :=
      integerIn?_of_mem (by omega) (by omega)
    exact (congrArg (Option.map Int32.ofInt) hread).trans (congrArg some n.ofInt_toInt)

instance : LawfulForm Value where
  wellFormed v := wellFormed_of_isData v.json v.isData
  ofJson?_of_renderedAs {v j} h := by
    obtain ⟨hd, hr⟩ := toData_of_renderedAs v.json j v.isData h
    exact (if_pos hr).trans (congrArg some (Value.ext hd))

lemma ne_null_of_renderedAs {j j' : Json} (hj : j ≠ .null) (h : j.RenderedAs j') : j' ≠ .null := by
  rintro rfl
  cases j with
  | null => exact hj rfl
  | single x => cases h
  | array items =>
    obtain ⟨_, h, _⟩ := h
    cases h
  | object members =>
    obtain ⟨_, _, h, _⟩ := h
    cases h
  | unreadable => exact h
  | bool b => cases h
  | integer n => cases h
  | real x => cases h
  | string s => cases h

variable {α : Type} [JsonForm α]

instance [LawfulForm α] [PresentForm α] : LawfulForm (Option α) where
  wellFormed
    | none => trivial
    | some a => wellFormed a
  ofJson?_of_renderedAs {o j} h := by
    cases o with
    | none =>
      obtain rfl := h
      rfl
    | some a =>
      have hj : j ≠ .null := ne_null_of_renderedAs (toJson_ne_null a) h
      have hread : ofJson? j = some a := ofJson?_of_renderedAs h
      have hopt : (ofJson? j : Option (Option α)) = (ofJson? j).map some := by
        cases j with
        | null => exact (hj rfl).elim
        | _ => rfl
      rw [hopt, hread]
      rfl

lemma allWellFormed_map {items : List α} (h : ∀ a ∈ items, Faithful a) : AllWellFormed (items.map toJson) := by
  induction items with
  | nil => trivial
  | cons a items ih =>
    rw [List.forall_mem_cons] at h
    exact ⟨h.1.wellFormed, ih h.2⟩

lemma mapM_ofJson?_of_renderedAs {items : List α} (hf : ∀ a ∈ items, Faithful a) {js : List Json}
    (h : ItemsRenderedAs (items.map toJson) js) : js.mapM ofJson? = some items := by
  induction items generalizing js with
  | nil =>
    obtain rfl := h
    rfl
  | cons a items ih =>
    rw [List.forall_mem_cons] at hf
    obtain ⟨j, rest, rfl, hj, hrest⟩ := h
    rw [List.mapM_cons, hf.1.read hj, ih hf.2 hrest]
    rfl

lemma Faithful.list {items : List α} (h : ∀ a ∈ items, Faithful a) : Faithful items where
  wellFormed := allWellFormed_map h
  read hr := by
    obtain ⟨js, rfl, hr⟩ := hr
    exact mapM_ofJson?_of_renderedAs h hr

instance [LawfulForm α] : LawfulForm (List α) where
  wellFormed _ := (Faithful.list fun a _ => LawfulForm.faithful a).wellFormed
  ofJson?_of_renderedAs := (Faithful.list fun a _ => LawfulForm.faithful a).read

lemma exists_of_mem_mapM {β γ : Type} {f : β → Option γ} {l : List β} {r : List γ} (h : l.mapM f = some r) {c : γ}
    (hc : c ∈ r) : ∃ b ∈ l, f b = some c := by
  rw [mapM_eq_some_iff] at h
  induction h with
  | nil => cases hc
  | cons hb _ ih =>
    rcases List.mem_cons.mp hc with rfl | hc
    · exact ⟨_, List.mem_cons_self, hb⟩
    · obtain ⟨b, hmem, hf⟩ := ih hc
      exact ⟨b, List.mem_cons_of_mem _ hmem, hf⟩

instance [StableForm α] : StableForm (List α) where
  faithful_of_ofJson? {j items} h := by
    cases j with
    | array js =>
      refine Faithful.list fun a ha => ?_
      obtain ⟨j, -, hj⟩ := exists_of_mem_mapM (f := ofJson?) h ha
      exact faithful_of_ofJson? hj
    | _ => cases h

instance : LawfulForm NameSet where
  wellFormed s := wellFormed s.names
  ofJson?_of_renderedAs {s j} h := by
    have hread : (ofJson? j : Option (List String)) = some s.names := ofJson?_of_renderedAs h
    have hset : NameSet.ofList s.names = s := NameSet.eq_iff_mem.mpr fun _ => NameSet.mem_names_ofList
    exact (congrArg (Option.map NameSet.ofList) hread).trans (congrArg some hset)

def written (entries : List (String × α)) : List (String × Json) := entries.map fun (name, item) => (name, toJson item)

lemma membersWellFormed_written [LawfulForm α] (entries : List (String × α)) : MembersWellFormed (written entries) := by
  induction entries with
  | nil => trivial
  | cons entry entries ih => exact ⟨wellFormed entry.2, ih⟩

lemma mapM_of_renderedAs [LawfulForm α] {entries : List (String × α)} {members : List (String × Json)}
    (h : MembersRenderedAs (written entries) members) :
    members.mapM (fun m => (ofJson? m.2).map (m.1, ·)) = some entries := by
  induction entries generalizing members with
  | nil =>
    obtain rfl := h
    rfl
  | cons entry entries ih =>
    obtain ⟨item, rest, rfl, hitem, hrest⟩ := h
    rw [List.mapM_cons, ih hrest, ofJson?_of_renderedAs hitem]
    rfl

lemma exists_mapM_of_perm {β γ : Type} {f : β → Option γ} {l l' : List β} {r : List γ} (hp : l.Perm l')
    (h : l.mapM f = some r) : ∃ r', l'.mapM f = some r' ∧ r.Perm r' := by
  have hcomp : Relation.Comp List.Perm (List.Forall₂ fun b c => f b = some c) l' r :=
    ⟨l, hp.symm, mapM_eq_some_iff.mp h⟩
  rw [← List.forall₂_comp_perm_eq_perm_comp_forall₂] at hcomp
  obtain ⟨r', hread, hp'⟩ := hcomp
  exact ⟨r', mapM_eq_some_iff.mpr hread, hp'.symm⟩

instance [LawfulForm α] : LawfulForm (Dictionary α) where
  wellFormed d := by
    refine ⟨?_, membersWellFormed_written d.entries⟩
    rw [List.map_map]
    exact d.keys_nodup
  ofJson?_of_renderedAs {d j} h := by
    obtain ⟨members, aligned, rfl, hp, h⟩ := h
    obtain ⟨entries, hread, hp'⟩ := exists_mapM_of_perm hp (mapM_of_renderedAs h)
    refine (congrArg (Option.map Dictionary.ofList) hread).trans ?_
    exact congrArg some (Dictionary.ofList_eq_of_perm hp'.symm)

class LawfulNamed (α : Type) [Named α] : Prop where
  ofName?_name (a : α) : Named.ofName? (Named.name a) = some a

lemma LawfulNamed.name_injective {β : Type} [Named β] [LawfulNamed β] {a b : β}
    (h : Named.name a = Named.name b) : a = b := by
  have hread := LawfulNamed.ofName?_name a
  rw [h, LawfulNamed.ofName?_name b] at hread
  exact (Option.some.inj hread).symm

instance {β : Type} [Named β] [LawfulNamed β] : LawfulForm β where
  wellFormed _ := trivial
  ofJson?_of_renderedAs {a j} h := by
    obtain rfl := h
    exact LawfulNamed.ofName?_name a

end Diorama
