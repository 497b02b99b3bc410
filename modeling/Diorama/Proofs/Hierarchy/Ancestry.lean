import Diorama.World.Hierarchy
import Mathlib.Data.Finset.Card
import Mathlib.Data.Nat.Find
import Mathlib.Logic.Relation

/-! Ways along links, and ways up a parent function. A way up that meets an identifier meets it within as many
links as there are identifiers with a parent, so a lineage of that length lists every ancestor. -/

namespace Diorama.Ancestry

open Relation

section Relations

variable {α : Type} {R S : α → α → Prop} {N : α → Prop}

lemma transGen_old_or_new (hS : ∀ a b, S a b → R a b ∨ N a) {a b : α} (h : TransGen S a b) :
    TransGen R a b ∨ ∃ c, N c ∧ ReflTransGen S a c ∧ TransGen S c b := by
  induction h with
  | single h =>
    rcases hS _ _ h with hr | hn
    · exact Or.inl (.single hr)
    · exact Or.inr ⟨a, hn, .refl, .single h⟩
  | tail hab hbc ih =>
    rcases ih with ih | ⟨c, hn, hac, hcb⟩
    · rcases hS _ _ hbc with hr | hn
      · exact Or.inl (ih.tail hr)
      · exact Or.inr ⟨_, hn, hab.to_reflTransGen, .single hbc⟩
    · exact Or.inr ⟨c, hn, hac, hcb.tail hbc⟩

lemma acyclic_of_new (hS : ∀ a b, S a b → R a b ∨ N a) (hR : ∀ a, ¬TransGen R a a)
    (hN : ∀ a, N a → ¬TransGen S a a) (a : α) : ¬TransGen S a a := by
  intro h
  rcases transGen_old_or_new hS h with h | ⟨c, hn, hac, hca⟩
  · exact hR a h
  · exact hN c hn (hca.trans_left hac)

lemma reflTransGen_before {c : α} (hS : ∀ a b, a ≠ c → S a b → R a b) {a : α} (h : ReflTransGen S a c) :
    ReflTransGen R a c := by
  induction h using ReflTransGen.head_induction_on with
  | refl => exact .refl
  | @head a b hab _ ih =>
    by_cases ha : a = c
    · exact ha ▸ .refl
    · exact .head (hS a b ha hab) ih

end Relations

def climb (parent : String → Option String) : Nat → String → Option String
  | 0, id => some id
  | links + 1, id => (parent id).bind (climb parent links)

def Up (parent : String → Option String) (a b : String) : Prop := parent a = some b

variable {parent : String → Option String}

lemma climb_add (m n : Nat) (a : String) :
    climb parent (m + n) a = (climb parent m a).bind (climb parent n) := by
  induction m generalizing a with
  | zero => simp [climb]
  | succ m ih =>
    rw [Nat.succ_add]
    cases h : parent a with
    | none => simp [climb, h]
    | some up => simp [climb, h, ih up]

lemma climb_succ (n : Nat) (a : String) : climb parent (n + 1) a = (climb parent n a).bind parent := by
  rw [climb_add]
  congr 1
  funext b
  cases h : parent b <;> simp [climb, h]

lemma reflTransGen_up_iff {a b : String} :
    ReflTransGen (Up parent) a b ↔ ∃ n, climb parent n a = some b := by
  constructor
  · intro h
    induction h with
    | refl => exact ⟨0, rfl⟩
    | tail _ hs ih =>
      obtain ⟨n, hn⟩ := ih
      exact ⟨n + 1, by rw [climb_succ, hn]; exact hs⟩
  · rintro ⟨n, hn⟩
    induction n generalizing b with
    | zero => exact Option.some.inj hn ▸ .refl
    | succ n ih =>
      rw [climb_succ] at hn
      obtain ⟨c, hc, hb⟩ := Option.bind_eq_some_iff.mp hn
      exact (ih hc).tail hb

lemma climb_shortcut {a b c : String} {i j n : Nat} (hi : climb parent i a = some c)
    (hj : climb parent j a = some c) (hn : climb parent (j + n) a = some b) :
    climb parent (i + n) a = some b := by
  rw [climb_add, hj] at hn
  rw [climb_add, hi]
  exact hn

lemma climb_defined {a b : String} {m n : Nat} (hmn : m ≤ n) (h : climb parent n a = some b) :
    ∃ c, climb parent m a = some c := by
  obtain ⟨k, rfl⟩ := Nat.exists_eq_add_of_le hmn
  rw [climb_add] at h
  obtain ⟨c, hc, _⟩ := Option.bind_eq_some_iff.mp h
  exact ⟨c, hc⟩

lemma climb_bounded {keys : List String} (hkeys : ∀ a b, parent a = some b → a ∈ keys)
    {a b : String} {n : Nat} (h : climb parent n a = some b) :
    ∃ m ≤ keys.length, climb parent m a = some b := by
  classical
  have he : ∃ n, climb parent n a = some b := ⟨n, h⟩
  let m := Nat.find he
  have hm : climb parent m a = some b := Nat.find_spec he
  refine ⟨m, ?_, hm⟩
  -- On a shortest way no identifier repeats, and each but the last one has a parent.
  have hdistinct : Set.InjOn (fun i => climb parent i a) (Finset.range m) := by
    intro i hi j hj hij
    simp only [Finset.coe_range, Set.mem_Iio] at hi hj
    by_contra hne
    wlog hlt : i < j generalizing i j
    · exact this hij.symm hj hi (Ne.symm hne) (by omega)
    obtain ⟨c, hc⟩ := climb_defined (Nat.le_of_lt hi) hm
    have hb : climb parent (j + (m - j)) a = some b := by rwa [Nat.add_sub_cancel' (Nat.le_of_lt hj)]
    have hs := climb_shortcut hc ((hij.symm).trans hc) hb
    have := Nat.find_min' he hs
    omega
  have hsub : (Finset.range m).image (fun i => climb parent i a) ⊆ (keys.map some).toFinset := by
    intro x hx
    obtain ⟨i, hi, rfl⟩ := Finset.mem_image.mp hx
    have hi' : i + 1 ≤ m := Finset.mem_range.mp hi
    obtain ⟨c, hc⟩ := climb_defined (Nat.le_of_succ_le hi') hm
    obtain ⟨d, hd⟩ := climb_defined hi' hm
    rw [climb_succ, hc] at hd
    simpa [hc] using hkeys c d hd
  calc m = ((Finset.range m).image (fun i => climb parent i a)).card := by
        rw [Finset.card_image_of_injOn hdistinct, Finset.card_range]
    _ ≤ (keys.map some).toFinset.card := Finset.card_le_card hsub
    _ ≤ (keys.map some).length := List.toFinset_card_le _
    _ = keys.length := List.length_map _

lemma mem_lineage_iff {n : Nat} {a b : String} :
    b ∈ lineage parent n a ↔ ∃ m ≤ n, climb parent m a = some b := by
  induction n generalizing a with
  | zero => simp [lineage, climb, eq_comm]
  | succ n ih =>
    cases h : parent a with
    | none =>
      simp only [lineage, h, List.mem_singleton]
      constructor
      · rintro rfl
        exact ⟨0, Nat.zero_le _, rfl⟩
      · rintro ⟨m, _, hm⟩
        cases m with
        | zero => exact (Option.some.inj hm).symm
        | succ m => simp [climb, h] at hm
    | some up =>
      simp only [lineage, h, List.mem_cons, ih]
      constructor
      · rintro (rfl | ⟨m, hm, hb⟩)
        · exact ⟨0, Nat.zero_le _, rfl⟩
        · exact ⟨m + 1, Nat.succ_le_succ hm, by simpa [climb, h] using hb⟩
      · rintro ⟨m, hm, hb⟩
        cases m with
        | zero => exact Or.inl (Option.some.inj hb).symm
        | succ m => exact Or.inr ⟨m, Nat.le_of_succ_le_succ hm, by simpa [climb, h] using hb⟩

lemma mem_lineage_iff_reflTransGen {keys : List String} {n : Nat}
    (hkeys : ∀ a b, parent a = some b → a ∈ keys) (hn : keys.length ≤ n) {a b : String} :
    b ∈ lineage parent n a ↔ ReflTransGen (Up parent) a b := by
  rw [mem_lineage_iff, reflTransGen_up_iff]
  constructor
  · rintro ⟨m, _, hm⟩
    exact ⟨m, hm⟩
  · rintro ⟨m, hm⟩
    obtain ⟨m', hle, hm'⟩ := climb_bounded hkeys hm
    exact ⟨m', hle.trans hn, hm'⟩

end Diorama.Ancestry
