import Diorama.Proofs.Hierarchy.CycleSearch

/-! The issues of parent cycles. They and the cycles of the parent function correspond one to one: each cycle is
reported once, under its least identifier, and an identifier that only leads into a cycle is never named. -/

namespace Diorama.Ancestry

open Relation

variable {parent : String → Option String} {c d : List String} {a b : String}

lemma chain_reached {path : List String} (h : (a :: path).IsChain (Up parent)) (hb : b ∈ a :: path) :
    ReflTransGen (Up parent) a b := by
  induction path generalizing a with
  | nil => exact List.mem_singleton.mp hb ▸ .refl
  | cons next path ih =>
    obtain ⟨hnext, hrest⟩ := List.isChain_cons_cons.mp h
    rcases List.mem_cons.mp hb with rfl | hb
    · exact .refl
    · exact .head hnext (ih hrest hb)

lemma IsCycle.mem_iff (h : IsCycle parent c) (ha : a ∈ c) : b ∈ c ↔ ReflTransGen (Up parent) a b := by
  refine ⟨fun hb => ?_, h.closed ha⟩
  cases c with
  | nil => exact h.elim
  | cons first rest =>
    exact (chain_reaches h.2 ha).to_reflTransGen.trans (chain_reached h.2 (List.mem_append_left _ hb))

lemma IsCycle.nodup (h : IsCycle parent c) : c.Nodup := by
  cases c with
  | nil => exact h.elim
  | cons first rest => exact h.1

lemma IsCycle.cyclic_of_mem (h : IsCycle parent c) (ha : a ∈ c) : TransGen (Up parent) a a := by
  obtain ⟨first, hfirst, hc⟩ := h.cyclic
  exact cyclic_of_returns ((h.mem_iff hfirst).mp ha) ((h.mem_iff ha).mp hfirst) hc

lemma IsCycle.perm (hc : IsCycle parent c) (hd : IsCycle parent d) (hac : a ∈ c) (had : a ∈ d) : c.Perm d :=
  (List.perm_ext_iff_of_nodup hc.nodup hd.nodup).mpr fun _ => (hc.mem_iff hac).trans (hd.mem_iff had).symm

lemma Found.existsUnique {starts : List String} {cs : List (List String)} (h : Found parent [] starts cs)
    (hstarts : ∀ a b, parent a = some b → a ∈ starts) (hc : IsCycle parent c) :
    ∃! k : Nat, ∃ d, cs[k]? = some d ∧ d.Perm c := by
  obtain ⟨a, hac, ha⟩ := hc.cyclic
  obtain ⟨b, hab, -⟩ := TransGen.head'_iff.mp ha
  have hflat : a ∈ cs.flatten := (h.complete a (hstarts a b hab) ha).resolve_left List.not_mem_nil
  obtain ⟨d, hd, had⟩ := List.mem_flatten.mp hflat
  obtain ⟨k, hk⟩ := List.mem_iff_getElem?.mp hd
  refine ⟨k, ⟨d, hk, (h.isCycle d hd).perm hc had hac⟩, ?_⟩
  rintro j ⟨d', hj, hperm⟩
  -- The found cycles share no identifier, so the two places are one.
  by_contra hne
  have hdisjoint := (List.nodup_flatten.mp h.nodup).2
  obtain ⟨hlt, rfl⟩ := List.getElem?_eq_some_iff.mp hk
  obtain ⟨hlt', rfl⟩ := List.getElem?_eq_some_iff.mp hj
  have hapart : List.Disjoint cs[j] cs[k] := by
    rcases Nat.lt_or_gt_of_ne hne with hlt | hlt
    · exact List.pairwise_iff_getElem.mp hdisjoint j k _ _ hlt
    · exact (List.pairwise_iff_getElem.mp hdisjoint k j _ _ hlt).symm
  exact hapart (hperm.mem_iff.mpr hac) had

end Diorama.Ancestry

namespace Diorama.Rule

open Relation Ancestry

lemma least_mem (first : String) (rest : List String) : least first rest ∈ first :: rest := by
  induction rest generalizing first with
  | nil => exact List.mem_cons_self
  | cons name rest ih =>
    rw [least, List.foldl_cons]
    have h := ih (if name < first then name else first)
    rw [least] at h
    rcases List.mem_cons.mp h with h | h
    · rw [h]
      split <;> simp
    · exact List.mem_cons_of_mem _ (List.mem_cons_of_mem _ h)

lemma least_le {first : String} {rest : List String} {a : String} (ha : a ∈ first :: rest) : least first rest ≤ a := by
  induction rest generalizing first a with
  | nil => exact List.mem_singleton.mp ha ▸ String.le_refl _
  | cons name rest ih =>
    rw [least, List.foldl_cons]
    have hbest : least (if name < first then name else first) rest ≤ if name < first then name else first :=
      ih List.mem_cons_self
    rcases List.mem_cons.mp ha with rfl | ha
    · refine String.le_trans hbest ?_
      split
      · exact Std.le_of_lt ‹_›
      · exact String.le_refl _
    · rcases List.mem_cons.mp ha with rfl | ha
      · refine String.le_trans hbest ?_
        split
        · exact String.le_refl _
        · exact String.not_lt.mp ‹_›
      · exact ih (List.mem_cons_of_mem _ ha)

/-- Whether an issue reports a cycle: it is about the least identifier of the cycle, and its message goes once round
the cycle, up to the identifier that it begins with. -/
structure Reports (parent : String → Option String) (issue : Issue) (c : List String) : Prop where
  isCycle : IsCycle parent c
  code : issue.code = .hierarchyCycle
  severity : issue.severity = .error
  field : issue.field = some "parent_id"
  message : ∃ first ∈ c.head?, issue.message = "parent cycle: " ++ " -> ".intercalate (c ++ [first])
  subject : ∃ least ∈ c, issue.subject = some least ∧ ∀ a ∈ c, least ≤ a

variable {parent : String → Option String}

lemma forall₂_reports {cs : List (List String)} (h : ∀ c ∈ cs, IsCycle parent c) :
    List.Forall₂ (Reports parent) (cs.flatMap cycleIssue) cs := by
  induction cs with
  | nil => exact .nil
  | cons c cs ih =>
    have hc := h c List.mem_cons_self
    have hrest := ih fun d hd => h d (List.mem_cons_of_mem _ hd)
    cases c with
    | nil => exact hc.elim
    | cons first rest =>
      exact .cons ⟨hc, rfl, rfl, rfl, ⟨first, rfl, rfl⟩, ⟨_, least_mem first rest, rfl, fun _ => least_le⟩⟩ hrest

lemma filter_code_parentReferences (w : World) :
    (parentReferences w).filter (·.code = .hierarchyCycle) = parentCycles w.entities := by
  have hmissing : (missingParents w.entities).filter (·.code = .hierarchyCycle) = [] := by
    rw [List.filter_eq_nil_iff]
    intro i hi
    obtain ⟨e, -, hi⟩ := List.mem_filterMap.mp hi
    grind
  have hmismatch : (childrenMismatches w.entities).filter (·.code = .hierarchyCycle) = [] := by
    rw [List.filter_eq_nil_iff]
    intro i hi
    obtain ⟨e, -, hi⟩ := List.mem_filterMap.mp hi
    grind
  have hcycles : (parentCycles w.entities).filter (·.code = .hierarchyCycle) = parentCycles w.entities := by
    rw [List.filter_eq_self]
    intro i hi
    obtain ⟨c, -, hi⟩ := List.mem_flatMap.mp hi
    cases c with
    | nil => cases hi
    | cons first rest => simp [List.mem_singleton.mp hi]
  rw [parentReferences, List.filter_append, List.filter_append, hmissing, hmismatch, hcycles, List.nil_append,
    List.append_nil]

/-- The issues of parent cycles and the cycles of the parent function correspond one to one. Issue by issue they report
cycles; each cycle, from whichever identifier it is gone round, is reported at exactly one place; and the identifiers
that are reported are those that lie on a cycle. -/
theorem parentReferences_cycles (w : World) : ∃ cs : List (List String),
    List.Forall₂ (Reports (parentOf? w.entities)) ((parentReferences w).filter (·.code = .hierarchyCycle)) cs ∧
    (∀ c, IsCycle (parentOf? w.entities) c → ∃! k : Nat, ∃ d, cs[k]? = some d ∧ d.Perm c) ∧
    ∀ a, (∃ c ∈ cs, a ∈ c) ↔ TransGen (Up (parentOf? w.entities)) a a := by
  have hfound := found_parentCycles w.entities
  have hstarts : ∀ a b, parentOf? w.entities a = some b → a ∈ w.entities.map (·.id) := by
    intro a b h
    obtain ⟨e, he, rfl, -⟩ := mem_of_parentOf? h
    exact List.mem_map_of_mem he
  refine ⟨_, ?_, fun c => hfound.existsUnique hstarts, fun a => ⟨?_, fun ha => ?_⟩⟩
  · rw [filter_code_parentReferences]
    exact forall₂_reports hfound.isCycle
  · rintro ⟨c, hc, ha⟩
    exact (hfound.isCycle c hc).cyclic_of_mem ha
  · obtain ⟨b, hab, -⟩ := TransGen.head'_iff.mp ha
    have hflat := (hfound.complete a (hstarts a b hab) ha).resolve_left List.not_mem_nil
    exact List.mem_flatten.mp hflat

end Diorama.Rule
