import Diorama.Dictionary
import Mathlib.Data.List.Nodup
import Mathlib.Data.List.Sort
import Mathlib.Tactic.Lemma

namespace Diorama.Dictionary

variable {α : Type} {d : Dictionary α} {entries : List (String × α)}

lemma keys_nodup (d : Dictionary α) : (d.entries.map (·.1)).Nodup :=
  List.pairwise_map.mpr (d.sorted.imp fun {a b} h (he : a.1 = b.1) => String.lt_irrefl _ (he ▸ h))

lemma find?_eq_some_iff {key : String} {value : α} : d.find? key = some value ↔ (key, value) ∈ d.entries := by
  simp only [find?, Option.map_eq_some_iff]
  constructor
  · rintro ⟨entry, hf, rfl⟩
    have hk : entry.1 = key := by simpa using List.find?_some hf
    exact hk ▸ List.mem_of_find?_eq_some hf
  · intro h
    obtain ⟨entry, hf⟩ : ∃ entry, d.entries.find? (·.1 == key) = some entry := by
      rw [← Option.isSome_iff_exists, List.find?_isSome]
      exact ⟨_, h, beq_self_eq_true _⟩
    have hk : entry.1 = key := by simpa using List.find?_some hf
    have he := List.inj_on_of_nodup_map d.keys_nodup (List.mem_of_find?_eq_some hf) h hk
    exact ⟨entry, hf, congrArg Prod.snd he⟩

lemma mem_insertEntry_iff {key : String} {value : α} {entry : String × α}
    (h : entries.Pairwise fun a b => a.1 < b.1) :
    entry ∈ insertEntry key value entries ↔ entry = (key, value) ∨ entry ∈ entries ∧ entry.1 ≠ key := by
  induction entries with
  | nil => simp [insertEntry]
  | cons head rest ih =>
    obtain ⟨hhead, hrest⟩ := List.pairwise_cons.mp h
    have hlater : ∀ x ∈ rest, x.1 ≠ head.1 := fun x hx he => String.lt_irrefl _ (he ▸ hhead x hx)
    simp only [insertEntry]
    split
    · rename_i hlt
      have hne : ∀ x ∈ head :: rest, x.1 ≠ key := by
        intro x hx he
        rcases List.mem_cons.mp hx with rfl | hx
        · exact String.lt_irrefl _ (he ▸ hlt)
        · exact String.lt_irrefl _ (he ▸ String.lt_trans hlt (hhead x hx))
      rw [List.mem_cons]
      exact or_congr_right ⟨fun hx => ⟨hx, hne _ hx⟩, And.left⟩
    · split
      · rename_i heq
        subst heq
        simp only [List.mem_cons]
        refine or_congr_right ⟨fun hx => ⟨Or.inr hx, hlater _ hx⟩, ?_⟩
        rintro ⟨rfl | hx, hne⟩
        · exact (hne rfl).elim
        · exact hx
      · rename_i hne
        simp only [List.mem_cons, ih hrest]
        constructor
        · rintro (rfl | rfl | hx)
          · exact Or.inr ⟨Or.inl rfl, Ne.symm hne⟩
          · exact Or.inl rfl
          · exact Or.inr ⟨Or.inr hx.1, hx.2⟩
        · rintro (rfl | ⟨rfl | hx, hxne⟩)
          · exact Or.inr (Or.inl rfl)
          · exact Or.inl rfl
          · exact Or.inr (Or.inr ⟨hx, hxne⟩)

lemma find?_insert (d : Dictionary α) (key other : String) (value : α) :
    (d.insert key value).find? other = if other = key then some value else d.find? other := by
  refine Option.ext fun x => ?_
  rw [find?_eq_some_iff, insert, mem_insertEntry_iff d.sorted, Prod.mk.injEq]
  split
  · rename_i he
    simp [he, eq_comm]
  · rename_i he
    simp [he, find?_eq_some_iff]

lemma find?_erase (d : Dictionary α) (key other : String) :
    (d.erase key).find? other = if other = key then none else d.find? other := by
  refine Option.ext fun x => ?_
  rw [find?_eq_some_iff, erase, List.mem_filter, bne_iff_ne]
  split
  · rename_i he
    simp [he]
  · rename_i he
    simp [he, find?_eq_some_iff]

lemma mem_keys_iff {key : String} : key ∈ d.keys ↔ ∃ value, d.find? key = some value := by
  simp [keys, find?_eq_some_iff]

lemma mem_values_iff {value : α} : value ∈ d.values ↔ ∃ key, d.find? key = some value := by
  simp [values, find?_eq_some_iff]

lemma insertEntry_perm {key : String} {value : α} (h : key ∉ entries.map (·.1)) :
    (insertEntry key value entries).Perm ((key, value) :: entries) := by
  induction entries with
  | nil => exact .refl _
  | cons entry rest ih =>
    simp only [List.map_cons, List.mem_cons, not_or] at h
    rw [insertEntry, if_neg h.1]
    split
    · exact .refl _
    · exact ((ih h.2).cons entry).trans (.swap _ _ _)

lemma foldl_insert_perm (h : (d.entries.map (·.1) ++ entries.map (·.1)).Nodup) :
    (entries.foldl (fun d entry => d.insert entry.1 entry.2) d).entries.Perm (d.entries ++ entries) := by
  induction entries generalizing d with
  | nil => simp
  | cons entry entries ih =>
    have hkey : entry.1 ∉ d.entries.map (·.1) := fun hd =>
      (List.nodup_append.mp h).2.2 _ hd _ (by simp) rfl
    have hp : (d.insert entry.1 entry.2).entries.Perm (entry :: d.entries) := insertEntry_perm hkey
    have hnames : ((d.insert entry.1 entry.2).entries.map (·.1) ++ entries.map (·.1)).Perm
        (d.entries.map (·.1) ++ (entry :: entries).map (·.1)) := by
      refine ((hp.map (·.1)).append_right _).trans ?_
      exact List.perm_middle.symm
    rw [List.foldl_cons]
    refine (ih (hnames.nodup_iff.mpr h)).trans ((hp.append_right _).trans ?_)
    exact List.perm_middle.symm

lemma mem_of_mem_ofList {entry : String × α} (h : entry ∈ (ofList entries).entries) : entry ∈ entries := by
  suffices hfold : ∀ d : Dictionary α, entry ∈ (entries.foldl (fun d entry => d.insert entry.1 entry.2) d).entries →
      entry ∈ d.entries ∨ entry ∈ entries from (hfold ∅ h).resolve_left List.not_mem_nil
  clear h
  induction entries with
  | nil => exact fun d h => .inl h
  | cons head rest ih =>
    intro d h
    rcases ih (d.insert head.1 head.2) h with h | h
    · rcases mem_insertEntry h with rfl | h
      · exact .inr List.mem_cons_self
      · exact .inl h
    · exact .inr (List.mem_cons_of_mem _ h)

lemma entries_ofList_perm (h : (entries.map (·.1)).Nodup) : (ofList entries).entries.Perm entries :=
  foldl_insert_perm h

lemma eq_of_perm {e : Dictionary α} (h : d.entries.Perm e.entries) : d = e := by
  refine ext (h.eq_of_pairwise ?_ d.sorted e.sorted)
  intro a b _ _ hab hba
  exact (String.lt_irrefl a.1 (String.lt_trans hab hba)).elim

lemma eq_of_find? {e : Dictionary α} (h : ∀ key, d.find? key = e.find? key) : d = e := by
  refine eq_of_perm ((List.perm_ext_iff_of_nodup d.keys_nodup.of_map e.keys_nodup.of_map).mpr fun entry => ?_)
  rw [← find?_eq_some_iff, ← find?_eq_some_iff, h]

lemma find?_ofList_of_mem {key : String} {value : α} (hn : (entries.map (·.1)).Nodup) (h : (key, value) ∈ entries) :
    (ofList entries).find? key = some value :=
  find?_eq_some_iff.mpr ((entries_ofList_perm hn).mem_iff.mpr h)

lemma ofList_eq_of_perm (h : entries.Perm d.entries) : ofList entries = d := by
  have hn : (entries.map (·.1)).Nodup := (h.map _).nodup_iff.mpr d.keys_nodup
  exact eq_of_perm ((entries_ofList_perm hn).trans h)

end Diorama.Dictionary
