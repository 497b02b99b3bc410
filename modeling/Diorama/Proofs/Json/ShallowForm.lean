import Diorama.Proofs.Json.Nesting
import Diorama.Proofs.Json.ReadRecord

namespace Diorama

open Json

class ShallowForm (α : Type) [JsonForm α] where
  levels : Nat
  depth_of_ofJson? {j : Json} {a : α} : ofJson? j = some a → (toJson a).depth ≤ max j.depth levels

export ShallowForm (levels depth_of_ofJson?)

instance : ShallowForm Bool := ⟨0, fun _ => Nat.zero_le _⟩

instance : ShallowForm String := ⟨0, fun _ => Nat.zero_le _⟩

instance : ShallowForm Scalar := ⟨0, fun _ => Nat.zero_le _⟩

instance : ShallowForm UInt8 := ⟨0, fun _ => Nat.zero_le _⟩

instance : ShallowForm Int32 := ⟨0, fun _ => Nat.zero_le _⟩

instance {α : Type} [Named α] : ShallowForm α := ⟨0, fun _ => Nat.zero_le _⟩

lemma depth_ofFloat (x : Float) : (ofFloat x).depth = 0 := by
  rw [ofFloat]
  split <;> rfl

mutual

lemma depth_toData : ∀ j : Json, j.toData.depth ≤ j.depth
  | .null => le_rfl
  | .bool _ => le_rfl
  | .integer n => by
    rw [toData]
    split
    · exact le_rfl
    · exact (depth_ofFloat _).le
  | .real _ => (depth_ofFloat _).le
  | .single _ => (depth_ofFloat _).le
  | .string _ => le_rfl
  | .array items => Nat.succ_le_succ (depth_itemsData items)
  | .object members => by
    rw [toData, depth, depth, membersDepth_eq]
    refine Nat.succ_le_succ (itemsDepth_le_iff.mpr fun v hv => ?_)
    obtain ⟨entry, hentry, rfl⟩ := List.mem_map.mp hv
    have hdata := depth_membersData members
    rw [membersDepth_eq, itemsDepth_le_iff] at hdata
    exact hdata _ (List.mem_map_of_mem (Dictionary.mem_of_mem_ofList hentry))
  | .unreadable => le_rfl

lemma depth_itemsData : ∀ items : List Json, itemsDepth (itemsData items) ≤ itemsDepth items
  | [] => le_rfl
  | item :: rest => max_le_max (depth_toData item) (depth_itemsData rest)

lemma depth_membersData : ∀ members : List (String × Json), membersDepth (membersData members) ≤ membersDepth members
  | [] => le_rfl
  | (_, item) :: rest => max_le_max (depth_toData item) (depth_membersData rest)

end

instance : ShallowForm Value where
  levels := 0
  depth_of_ofJson? {j v} h := by
    change (if j.isReadable then some j.value else none) = some v at h
    split at h
    · obtain rfl := Option.some.inj h
      exact (depth_toData j).trans (le_max_left _ _)
    · cases h

lemma depth_lt_of_mem_parts {j part : Json} (h : part ∈ j.parts) : part.depth < j.depth := by
  cases j with
  | array items => exact Nat.lt_succ_of_le (itemsDepth_le_iff.mp le_rfl part h)
  | object members => exact Nat.lt_succ_of_le (membersDepth_eq members ▸ itemsDepth_le_iff.mp le_rfl part h)
  | _ => cases h

lemma depth_container_le {j : Json} {items : List Json} {n : Nat}
    (h : ∀ item ∈ items, item.depth ≤ n ∨ ∃ part ∈ j.parts, item.depth ≤ max part.depth n) :
    itemsDepth items + 1 ≤ max j.depth (n + 1) := by
  have hitems : itemsDepth items ≤ max j.depth (n + 1) - 1 := by
    refine itemsDepth_le_iff.mpr fun item hitem => ?_
    obtain hle | ⟨part, hpart, hle⟩ := h item hitem
    · omega
    · have := depth_lt_of_mem_parts hpart
      omega
  omega

variable {α : Type} [JsonForm α]

instance [ShallowForm α] : ShallowForm (Option α) where
  levels := levels α
  depth_of_ofJson? {j o} h := by
    cases o with
    | none => exact Nat.zero_le _
    | some a =>
      refine depth_of_ofJson? (?_ : ofJson? j = some a)
      cases j with
      | null => cases h
      | _ =>
        obtain ⟨a', hread, he⟩ := Option.map_eq_some_iff.mp h
        exact Option.some.inj he ▸ hread

instance [ShallowForm α] : ShallowForm (List α) where
  levels := levels α + 1
  depth_of_ofJson? {j items} h := by
    cases j with
    | array js =>
      refine depth_container_le fun item hitem => .inr ?_
      obtain ⟨a, ha, rfl⟩ := List.mem_map.mp hitem
      obtain ⟨part, hpart, hread⟩ := exists_of_mem_mapM (f := ofJson?) h ha
      exact ⟨part, hpart, depth_of_ofJson? hread⟩
    | _ => cases h

instance : ShallowForm NameSet where
  levels := 1
  depth_of_ofJson? {j s} _ := by
    refine (Nat.succ_le_succ (itemsDepth_le_iff.mpr fun item hitem => ?_)).trans (le_max_right _ _)
    obtain ⟨name, -, rfl⟩ := List.mem_map.mp hitem
    exact le_rfl

instance [ShallowForm α] : ShallowForm (Dictionary α) where
  levels := levels α + 1
  depth_of_ofJson? {j d} h := by
    cases j with
    | object members =>
      obtain ⟨entries, hread, rfl⟩ := Option.map_eq_some_iff.mp h
      change membersDepth (written (Dictionary.ofList entries).entries) + 1 ≤ _
      rw [membersDepth_eq]
      refine depth_container_le fun item hitem => .inr ?_
      obtain ⟨m, hm, rfl⟩ := List.mem_map.mp hitem
      obtain ⟨entry, hentry, rfl⟩ := List.mem_map.mp hm
      obtain ⟨m', hm', hitem⟩ := exists_of_mem_mapM hread (Dictionary.mem_of_mem_ofList hentry)
      obtain ⟨a, ha, rfl⟩ := Option.map_eq_some_iff.mp hitem
      exact ⟨m'.2, List.mem_map_of_mem hm', depth_of_ofJson? ha⟩
    | _ => cases h

variable {ρ : Type}

def Field.Shallow (f : Field ρ) (n : Nat) : Prop := ∀ j r s, f.read? j r = some s → (f.write s).depth ≤ max j.depth n

section Fields

variable [ShallowForm α] {n : Nat} {name : String} {get : ρ → α} {set : α → ρ → ρ}

lemma Field.shallow_required (h : ∀ a r, get (set a r) = a) (hn : levels α ≤ n) :
    (Field.required name get set).Shallow n := by
  intro j r s hread
  obtain ⟨a, ha, rfl⟩ := Field.read?_required hread
  rw [Field.write_required, h]
  exact (depth_of_ofJson? ha).trans (max_le_max le_rfl hn)

lemma Field.shallow_optional (h : ∀ a r, get (set a r) = a) (hn : levels α ≤ n) :
    (Field.optional name get set).Shallow n := by
  change (Field.required name get set).Shallow n
  exact Field.shallow_required h hn

end Fields

namespace RecordForm

variable {f : RecordForm ρ} {r : ρ} {n : Nat}

lemma depth_write (hothers : f.others = .refused) (r : ρ) :
    (f.write r).depth = itemsDepth (f.fields.map (·.write r)) + 1 := by
  rw [write, hothers, depth, membersDepth_eq, List.map_map]
  rfl

@[reducible] def shallowForm (hs : f.Separate) (hothers : f.others = .refused) (n : Nat)
    (hfields : ∀ g ∈ f.fields, g.Shallow n) (hblank : ∀ g ∈ f.fields, (g.write f.blank).depth ≤ n) :
    @ShallowForm ρ f.jsonForm :=
  @ShallowForm.mk ρ f.jsonForm (n + 1) fun {j r} h => by
    change (f.write r).depth ≤ _
    rw [depth_write hothers]
    refine depth_container_le fun item hitem => ?_
    obtain ⟨g, hg, rfl⟩ := List.mem_map.mp hitem
    obtain he | ⟨part, hpart, t, t', hread, he⟩ := drawn_of_read? hs h hg
    · exact .inl (he ▸ hblank g hg)
    · exact .inr ⟨part, hpart, he ▸ hfields g hg part t t' hread⟩

end RecordForm

end Diorama
