import Diorama.Proofs.Hierarchy.Ancestry
import Diorama.Validation.Rules.Hierarchy
import Mathlib.Data.List.Chain

/-! The search for parent cycles. Each way up is a chain of fresh identifiers. What is finished is closed under
parents, and each of its identifiers that lies on a cycle lies on a cycle that was found. -/

namespace Diorama.Ancestry

open Relation Rule

variable {parent : String → Option String}

lemma up_unique {a b c : String} (hb : Up parent a b) (hc : Up parent a c) : b = c :=
  Option.some.inj (hb.symm.trans hc)

lemma returns_of_cyclic {a b : String} (ha : TransGen (Up parent) a a) (h : ReflTransGen (Up parent) a b) :
    ReflTransGen (Up parent) b a := by
  induction h with
  | refl => exact .refl
  | @tail b c _ hbc ih =>
    have hback : TransGen (Up parent) b a := by
      rcases reflTransGen_iff_eq_or_transGen.mp ih with rfl | hback
      · exact ha
      · exact hback
    obtain ⟨d, hd, hrest⟩ := TransGen.head'_iff.mp hback
    exact up_unique hbc hd ▸ hrest

lemma cyclic_of_returns {a b : String} (hab : ReflTransGen (Up parent) a b)
    (hba : ReflTransGen (Up parent) b a) (ha : TransGen (Up parent) a a) : TransGen (Up parent) b b :=
  (TransGen.trans_right hba ha).trans_left hab

lemma mem_of_chain_next {path : List String} {last a b : String}
    (h : (path ++ [last]).IsChain (Up parent)) (ha : a ∈ path) (hab : Up parent a b) : b ∈ path ++ [last] := by
  obtain ⟨l, r, rfl⟩ := List.append_of_mem ha
  rw [List.append_assoc, List.cons_append] at h
  have hr := (List.isChain_split.mp h).2
  cases r with
  | nil =>
    have hl := List.isChain_pair.mp hr
    simp [up_unique hab hl]
  | cons c r =>
    have hc := (List.isChain_cons_cons.mp hr).1
    simp [up_unique hab hc]

lemma chain_reaches {path : List String} {last a : String} (h : (path ++ [last]).IsChain (Up parent))
    (ha : a ∈ path) : TransGen (Up parent) a last := by
  induction path generalizing a with
  | nil => simp at ha
  | cons b path ih =>
    cases path with
    | nil =>
      obtain rfl := List.mem_singleton.mp ha
      exact .single (List.isChain_pair.mp h)
    | cons c path =>
      obtain ⟨hbc, hrest⟩ := List.isChain_cons_cons.mp h
      rcases List.mem_cons.mp ha with rfl | ha
      · exact .head hbc (ih hrest List.mem_cons_self)
      · exact ih hrest ha

def IsCycle (parent : String → Option String) : List String → Prop
  | [] => False
  | a :: rest => (a :: rest).Nodup ∧ (a :: rest ++ [a]).IsChain (Up parent)

lemma IsCycle.cyclic {c : List String} (h : IsCycle parent c) : ∃ a ∈ c, TransGen (Up parent) a a := by
  cases c with
  | nil => exact h.elim
  | cons a rest => exact ⟨a, List.mem_cons_self, chain_reaches h.2 List.mem_cons_self⟩

lemma IsCycle.closed {c : List String} (h : IsCycle parent c) {a b : String} (ha : a ∈ c)
    (hab : ReflTransGen (Up parent) a b) : b ∈ c := by
  cases c with
  | nil => exact h.elim
  | cons first rest =>
    induction hab with
    | refl => exact ha
    | tail _ hbc ih =>
      rcases List.mem_append.mp (mem_of_chain_next h.2 ih hbc) with hc | hc
      · exact hc
      · exact List.mem_singleton.mp hc ▸ List.mem_cons_self

structure Ascending (parent : String → Option String) (finished : List String) (start : String)
    (path : List String) (id : String) : Prop where
  chain : (path ++ [id]).IsChain (Up parent)
  nodup : path.Nodup
  fresh : ∀ a ∈ path, a ∉ finished
  start_mem : start ∈ path ++ [id]

structure Ascended (parent : String → Option String) (finished : List String) (start : String)
    (r : Ascent) : Prop where
  nodup : r.path.Nodup
  fresh : ∀ a ∈ r.path, a ∉ finished
  start_mem : start ∈ r.path ∨ start ∈ finished
  closed : ∀ a ∈ r.path, ∀ b, Up parent a b → b ∈ r.path ∨ b ∈ finished
  suffix : r.cycle <:+ r.path
  isCycle : r.cycle = [] ∨ IsCycle parent r.cycle
  cyclic : ∀ a ∈ r.path, TransGen (Up parent) a a → a ∈ r.cycle

variable {finished path : List String} {start id : String}

lemma Ascending.step (s : Ascending parent finished start path id) (hf : id ∉ finished) (hp : id ∉ path)
    {up : String} (hup : parent id = some up) : Ascending parent finished start (path ++ [id]) up := by
  refine ⟨?_, ?_, ?_, List.mem_append_left _ s.start_mem⟩
  · rw [List.append_assoc]
    exact List.isChain_split.mpr ⟨s.chain, List.isChain_pair.mpr hup⟩
  · exact List.nodup_append.mpr ⟨s.nodup, List.nodup_singleton _, by
      rintro a ha b hb rfl
      exact hp (List.mem_singleton.mp hb ▸ ha)⟩
  · intro a ha
    rcases List.mem_append.mp ha with ha | ha
    · exact s.fresh a ha
    · exact List.mem_singleton.mp ha ▸ hf

lemma Ascending.finish (s : Ascending parent finished start path id)
    (hclosed : ∀ a ∈ finished, ∀ b, ReflTransGen (Up parent) a b → b ∈ finished) (hf : id ∈ finished) :
    Ascended parent finished start { path } := by
  refine ⟨s.nodup, s.fresh, ?_, ?_, List.nil_suffix, Or.inl rfl, ?_⟩
  · rcases List.mem_append.mp s.start_mem with h | h
    · exact Or.inl h
    · exact Or.inr (List.mem_singleton.mp h ▸ hf)
  · intro a ha b hab
    rcases List.mem_append.mp (mem_of_chain_next s.chain ha hab) with h | h
    · exact Or.inl h
    · exact Or.inr (List.mem_singleton.mp h ▸ hf)
  · -- A cycle through the path would lie in the finished part, which the path avoids.
    intro a ha hc
    have hback := returns_of_cyclic hc (chain_reaches s.chain ha).to_reflTransGen
    exact (s.fresh a ha (hclosed id hf a hback)).elim

lemma Ascending.top (s : Ascending parent finished start path id) (hf : id ∉ finished) (hp : id ∉ path)
    (hup : parent id = none) : Ascended parent finished start { path := path ++ [id] } := by
  have hnone : ∀ b, ¬Up parent id b := fun b hb => by
    rw [Up, hup] at hb
    cases hb
  have hcyclic : ¬TransGen (Up parent) id id := fun hc => by
    obtain ⟨b, hb, _⟩ := TransGen.head'_iff.mp hc
    exact hnone b hb
  have hmem : ∀ a, a ∈ path ++ [id] ↔ a ∈ path ∨ a = id := by simp
  refine ⟨?_, ?_, Or.inl s.start_mem, ?_, List.nil_suffix, Or.inl rfl, ?_⟩
  · exact List.nodup_append.mpr ⟨s.nodup, List.nodup_singleton _, by
      rintro a ha b hb rfl
      exact hp (List.mem_singleton.mp hb ▸ ha)⟩
  · intro a ha
    rcases (hmem a).mp ha with ha | rfl
    · exact s.fresh a ha
    · exact hf
  · intro a ha b hab
    rcases (hmem a).mp ha with ha | rfl
    · exact Or.inl (mem_of_chain_next s.chain ha hab)
    · exact (hnone b hab).elim
  · intro a ha hc
    rcases (hmem a).mp ha with ha | rfl
    · have hway := (chain_reaches s.chain ha).to_reflTransGen
      exact (hcyclic (cyclic_of_returns hway (returns_of_cyclic hc hway) hc)).elim
    · exact (hcyclic hc).elim

lemma Ascending.repeat (s : Ascending parent finished start path id) (hp : id ∈ path) :
    Ascended parent finished start { path, cycle := path.dropWhile (· != id) } := by
  obtain ⟨l, r, rfl, hl⟩ := List.eq_append_cons_of_mem hp
  have hdrop : (l ++ id :: r).dropWhile (· != id) = id :: r := by
    rw [List.dropWhile_append_of_pos]
    · simp
    · intro a ha
      simpa using fun h : a = id => hl (h ▸ ha)
  have hcycle : IsCycle parent (id :: r) := by
    have hchain := s.chain
    rw [List.append_assoc, List.cons_append] at hchain
    exact ⟨s.nodup.of_append_right, (List.isChain_split.mp hchain).2⟩
  have hmem : ∀ a, a ∈ (l ++ id :: r) ++ [id] → a ∈ l ++ id :: r := by
    intro a ha
    rcases List.mem_append.mp ha with ha | ha
    · exact ha
    · exact List.mem_singleton.mp ha ▸ hp
  rw [hdrop]
  refine ⟨s.nodup, s.fresh, Or.inl (hmem _ s.start_mem), ?_, List.suffix_append _ _, Or.inr hcycle, ?_⟩
  · intro a ha b hab
    exact Or.inl (hmem b (mem_of_chain_next s.chain ha hab))
  · intro a ha hc
    have hback := returns_of_cyclic hc (chain_reaches s.chain ha).to_reflTransGen
    exact hcycle.closed List.mem_cons_self hback

lemma ascend_spec {keys : List String} (hkeys : ∀ a b, parent a = some b → a ∈ keys)
    (hclosed : ∀ a ∈ finished, ∀ b, ReflTransGen (Up parent) a b → b ∈ finished) {steps : Nat}
    (s : Ascending parent finished start path id) (hsteps : keys.length < path.length + steps) :
    Ascended parent finished start (ascend parent finished steps path id) := by
  induction steps generalizing path id with
  | zero =>
    have hsub : path ⊆ keys := by
      intro a ha
      obtain ⟨b, hab, _⟩ := TransGen.head'_iff.mp (chain_reaches s.chain ha)
      exact hkeys a b hab
    have hlen := (s.nodup.subperm hsub).length_le
    omega
  | succ steps ih =>
    rw [ascend]
    simp only [List.contains_iff_mem]
    split_ifs with hf hp
    · exact s.finish hclosed hf
    · exact s.repeat hp
    · cases hup : parent id with
      | none => exact s.top hf hp hup
      | some up => exact ih (s.step hf hp hup) (by simp only [List.length_append, List.length_singleton]; omega)

lemma ascended {keys : List String} (hkeys : ∀ a b, parent a = some b → a ∈ keys)
    (hclosed : ∀ a ∈ finished, ∀ b, ReflTransGen (Up parent) a b → b ∈ finished) {steps : Nat}
    (hsteps : keys.length < steps) :
    Ascended parent finished start (ascend parent finished steps [] start) :=
  ascend_spec hkeys hclosed ⟨List.isChain_singleton _, List.nodup_nil, by simp, by simp⟩ (by simpa using hsteps)

lemma Ascended.finished_closed {r : Ascent} (h : Ascended parent finished start r)
    (hclosed : ∀ a ∈ finished, ∀ b, ReflTransGen (Up parent) a b → b ∈ finished) :
    ∀ a ∈ finished ++ r.path, ∀ b, ReflTransGen (Up parent) a b → b ∈ finished ++ r.path := by
  intro a ha b hab
  induction hab with
  | refl => exact ha
  | tail _ hbc ih =>
    rcases List.mem_append.mp ih with hb | hb
    · exact List.mem_append_left _ (hclosed _ hb _ (.single hbc))
    · exact List.mem_append.mpr (h.closed _ hb _ hbc).symm

structure Found (parent : String → Option String) (finished starts : List String)
    (cs : List (List String)) : Prop where
  isCycle : ∀ c ∈ cs, IsCycle parent c
  fresh : ∀ c ∈ cs, ∀ a ∈ c, a ∉ finished
  nodup : cs.flatten.Nodup
  complete : ∀ a ∈ starts, TransGen (Up parent) a a → a ∈ finished ∨ a ∈ cs.flatten

lemma Found.cons {r : Ascent} {starts : List String} {cs : List (List String)}
    (hr : Ascended parent finished start r) (h : Found parent (finished ++ r.path) starts cs) :
    Found parent finished (start :: starts) ((if r.cycle.isEmpty then [] else [r.cycle]) ++ cs) := by
  have hfound : ∀ c ∈ (if r.cycle.isEmpty then [] else [r.cycle]), c = r.cycle ∧ IsCycle parent c := by
    intro c hc
    split at hc
    · simp at hc
    · obtain rfl := List.mem_singleton.mp hc
      rcases hr.isCycle with hnil | hcycle
      · simp_all
      · exact ⟨rfl, hcycle⟩
  have hflat : ((if r.cycle.isEmpty then [] else [r.cycle]) ++ cs).flatten = r.cycle ++ cs.flatten := by
    rw [List.flatten_append]
    split <;> simp_all
  have hpath : ∀ a ∈ r.cycle, a ∈ r.path := fun a ha => hr.suffix.subset ha
  refine ⟨?_, ?_, ?_, ?_⟩
  · intro c hc
    rcases List.mem_append.mp hc with hc | hc
    · exact (hfound c hc).2
    · exact h.isCycle c hc
  · intro c hc a ha
    rcases List.mem_append.mp hc with hc | hc
    · exact hr.fresh a (hpath a ((hfound c hc).1 ▸ ha))
    · exact fun hf => h.fresh c hc a ha (List.mem_append_left _ hf)
  · rw [hflat]
    refine List.nodup_append.mpr ⟨hr.nodup.sublist hr.suffix.sublist, h.nodup, ?_⟩
    rintro a ha b hb rfl
    obtain ⟨c, hc, hac⟩ := List.mem_flatten.mp hb
    exact h.fresh c hc a hac (List.mem_append_right _ (hpath a ha))
  · intro a ha hc
    rw [hflat, List.mem_append]
    -- What the way from `start` finished is complete, so a later start adds nothing to it.
    have hdone : a ∈ finished ++ r.path → a ∈ finished ∨ a ∈ r.cycle := fun hmem =>
      (List.mem_append.mp hmem).imp id fun hmem => hr.cyclic a hmem hc
    rcases List.mem_cons.mp ha with rfl | ha
    · exact (hdone (List.mem_append.mpr hr.start_mem.symm)).imp id Or.inl
    · rcases h.complete a ha hc with hmem | hmem
      · exact (hdone hmem).imp id Or.inl
      · exact Or.inr (Or.inr hmem)

lemma cycles_spec {keys : List String} (hkeys : ∀ a b, parent a = some b → a ∈ keys)
    (hclosed : ∀ a ∈ finished, ∀ b, ReflTransGen (Up parent) a b → b ∈ finished) {steps : Nat}
    (hsteps : keys.length < steps) (starts : List String) :
    Found parent finished starts (cycles parent steps finished starts) := by
  induction starts generalizing finished with
  | nil => exact ⟨by simp [cycles], by simp [cycles], by simp [cycles], by simp⟩
  | cons start starts ih =>
    have hr : Ascended parent finished start (ascend parent finished steps [] start) :=
      ascended hkeys hclosed hsteps
    exact .cons hr (ih (hr.finished_closed hclosed))

end Diorama.Ancestry

namespace Diorama.Rule

open Relation Ancestry

lemma mem_of_parentOf? {es : List Entity} {a b : String} (h : parentOf? es a = some b) :
    ∃ e ∈ es, e.id = a ∧ e.parent = some b := by
  obtain ⟨e, he, hp⟩ := Option.bind_eq_some_iff.mp h
  have hid := List.find?_some he
  simp only [Bool.and_eq_true, beq_iff_eq] at hid
  exact ⟨e, List.mem_of_find?_eq_some he, hid.1, hp⟩

lemma found_parentCycles (es : List Entity) : Found (parentOf? es) [] (es.map (·.id))
    (cycles (parentOf? es) (es.length + 2) [] (es.map (·.id))) := by
  have hkeys : ∀ a b, parentOf? es a = some b → a ∈ es.map (·.id) := by
    intro a b h
    obtain ⟨e, he, rfl, _⟩ := mem_of_parentOf? h
    exact List.mem_map_of_mem he
  exact cycles_spec hkeys (by simp) (by simp) _

lemma cycleIssue_eq_nil_iff {c : List String} : cycleIssue c = [] ↔ c = [] := by
  cases c <;> simp [cycleIssue]

lemma parentCycles_eq_nil_iff {es : List Entity} :
    parentCycles es = [] ↔ ∀ a, ¬TransGen (Up (parentOf? es)) a a := by
  have hfound := found_parentCycles es
  rw [parentCycles, List.flatMap_eq_nil_iff]
  constructor
  · intro h a ha
    obtain ⟨b, hb, _⟩ := TransGen.head'_iff.mp ha
    obtain ⟨e, he, rfl, _⟩ := mem_of_parentOf? hb
    rcases hfound.complete e.id (List.mem_map_of_mem he) ha with hmem | hmem
    · simp at hmem
    · obtain ⟨c, hc, hac⟩ := List.mem_flatten.mp hmem
      rw [cycleIssue_eq_nil_iff.mp (h c hc)] at hac
      simp at hac
  · intro h c hc
    obtain ⟨a, _, ha⟩ := (hfound.isCycle c hc).cyclic
    exact (h a ha).elim

end Diorama.Rule
