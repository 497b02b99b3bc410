import Diorama.Proofs.Hierarchy.Batches

namespace Diorama

open Ancestry Relation

namespace Ancestry

variable {old new : String → Option String} {N : String → Prop} {key : String} {parent : Option String}

/-- That every link on a cycle was there before, so every cycle was. -/
def NoNewCycle (old new : String → Option String) : Prop :=
  ∀ a b, Up new a b → ReflTransGen (Up new) b a → Up old a b

lemma noNewCycle_of_changed (hsame : ∀ a, ¬N a → new a = old a) (hfree : ∀ a, N a → ¬TransGen (Up new) a a) :
    NoNewCycle old new := by
  intro a b hab hback
  have ha : ¬N a := fun hn => hfree a hn (.head' hab hback)
  rw [Up, ← hsame a ha]
  exact hab

lemma noNewCycle_update (h : ∀ up, parent = some up → ¬ReflTransGen (Up old) up key) :
    NoNewCycle old (Function.update old key parent) := by
  have hold : ∀ a b, a ≠ key → Up (Function.update old key parent) a b → Up old a b := by
    intro a b ha hab
    rwa [Up, Function.update_of_ne ha] at hab
  refine noNewCycle_of_changed (N := fun a => a = key) (fun a ha => Function.update_of_ne ha _ _) ?_
  rintro _ rfl hc
  -- The way back to the changed name is one of the old links up to its first return.
  obtain ⟨up, hfirst, hrest⟩ := TransGen.head'_iff.mp hc
  rw [Up, Function.update_self] at hfirst
  exact h up hfirst (reflTransGen_before hold hrest)

end Ancestry

namespace World

variable {w v : World} {e : Entity} {batch : List Entity} {child up : String} {parent : Option String}

lemma parent?_link_eq (hid : e.id ∉ w.entityIds) : (w.link e).parent? = Function.update w.parent? e.id e.parent := by
  funext id
  rw [parent?_link hid, Function.update_apply]
  simp only [eq_comm]

lemma parent?_foldl_link (hn : (batch.map (·.id)).Nodup) (hfresh : ∀ e ∈ batch, e.id ∉ w.entityIds) :
    (batch.foldl link w).parent? = w.parentWith? batch := by
  induction batch generalizing w with
  | nil => rfl
  | cons e batch ih =>
    obtain ⟨hid, hn⟩ := List.nodup_cons.mp hn
    rw [List.forall_mem_cons] at hfresh
    rw [List.foldl_cons, ih hn, parentWith?_link hfresh.1 hid]
    intro x hx hmem
    rw [entityIds_link, List.mem_append, List.mem_singleton] at hmem
    rcases hmem with hmem | hxe
    · exact hfresh.2 x hx hmem
    · exact hid (List.mem_map.mpr ⟨x, hx, hxe⟩)

lemma parent?_map {f : Entity → Entity} (hid : ∀ e, (f e).id = e.id) (hp : ∀ e, (f e).parent = e.parent) :
    ({ w with entities := w.entities.map f } : World).parent? = w.parent? := by
  funext id
  have hfind : (w.entities.map f).find? (·.id == id) = (w.entity? id).map f := by
    rw [List.find?_map, entity?]
    simp only [Function.comp_def, hid]
  rw [parent?, entity?, hfind, parent?]
  cases w.entity? id with
  | none => rfl
  | some e => exact hp e

lemma parent?_updateEntity_parent (hc : child ∈ w.entityIds) (parent : Option String) :
    (w.updateEntity child fun e => { e with parent := parent }).parent? = Function.update w.parent? child parent := by
  funext id
  have hid : ∀ e ∈ w.entity? id, e.id = id := fun e he => by simpa using List.find?_some he
  have hfind : (w.updateEntity child fun e => { e with parent := parent }).entity? id =
      (w.entity? id).map fun e => if e.id = child then { e with parent := parent } else e := by
    refine entity?_updateEntity ?_ w id
    exact fun _ => rfl
  rw [parent?, hfind, Function.update_apply]
  by_cases hi : id = child
  · subst hi
    obtain ⟨e, he⟩ := Option.ne_none_iff_exists'.mp fun hnone =>
      entity?_isNone_iff.mp (Option.isNone_iff_eq_none.mpr hnone) hc
    simp [he, hid e he]
  · rw [if_neg hi, parent?]
    cases he : w.entity? id with
    | none => rfl
    | some e =>
      have hne : e.id ≠ child := hid e he ▸ hi
      simp [hne]

lemma parent?_moved (hc : child ∈ w.entityIds) (parent : Option String) :
    (w.moved child parent).parent? = Function.update w.parent? child parent := by
  let detached : World := { w with entities := w.entities.map (dropChild child) }
  have hparent : detached.parent? = w.parent? := parent?_map (dropChild_id child) (dropChild_parent child)
  have hmem : child ∈ detached.entityIds := by
    rw [entityIds, map_id_of_keeps (dropChild_id child)]
    exact hc
  cases parent with
  | none => exact (parent?_updateEntity_parent hmem none).trans (by rw [hparent])
  | some up =>
    have hentered : child ∈ (detached.updateEntity up (addChild child)).entityIds := by
      rw [entityIds, updateEntity, map_id_updateFirst (addChild_id child)]
      exact hmem
    refine (parent?_updateEntity_parent hentered (some up)).trans ?_
    rw [parent?_updateEntity (addChild_id child) (addChild_parent child), hparent]

lemma addEntity_eq_cycle_iff (hid : e.id ∉ w.ids) :
    (∃ a b, w.addEntity e = .error (.hierarchyCycle a b)) ↔
      ∃ up, e.parent = some up ∧ ReflTransGen (Up w.parent?) up e.id := by
  have hfree : ¬w.containsId e.id = true := containsId_iff.not.mpr hid
  unfold addEntity
  rw [if_neg hfree]
  cases e.parent with
  | none => simp [pure, Except.pure]
  | some up =>
    simp only [Option.some.injEq, exists_eq_left', ← reaches_iff]
    by_cases hr : w.reaches up e.id = true
    · rw [if_pos hr]
      exact iff_of_true ⟨e.id, up, rfl⟩ hr
    · -- What is left may fail for want of the parent, but not for a cycle.
      rw [if_neg hr]
      refine iff_of_false ?_ hr
      rintro ⟨a, b, h⟩
      split at h <;> cases h

lemma setParent_eq_cycle_iff (hc : child ∈ w.entityIds) (hu : up ∈ w.entityIds) :
    (∃ a b, w.setParent child (some up) = .error (.hierarchyCycle a b)) ↔ ReflTransGen (Up w.parent?) up child := by
  have hchild : ¬(w.entity? child).isNone = true := entity?_isNone_iff.not.mpr (not_not.mpr hc)
  have hup : ¬(w.entity? up).isNone = true := entity?_isNone_iff.not.mpr (not_not.mpr hu)
  unfold setParent
  rw [if_neg hchild]
  simp only [if_neg hup, ← reaches_iff]
  by_cases hr : w.reaches up child = true
  · rw [if_pos hr]
    exact iff_of_true ⟨child, up, rfl⟩ hr
  · rw [if_neg hr]
    refine iff_of_false ?_ hr
    rintro ⟨a, b, h⟩
    cases h

lemma not_reflTransGen_of_reaches {a b : String} (h : w.reaches a b = false) : ¬ReflTransGen (Up w.parent?) a b :=
  fun hway => Bool.false_ne_true (h.symm.trans (reaches_iff.mpr hway))

lemma noNewCycle_addEntity (h : w.addEntity e = .ok v) : NoNewCycle w.parent? v.parent? := by
  obtain ⟨hid, hup, rfl⟩ := addEntity_eq_ok_iff.mp h
  rw [parent?_link_eq fun hm => hid (ids_eq w ▸ List.mem_append_left _ hm)]
  exact noNewCycle_update fun up hp => not_reflTransGen_of_reaches (hup up hp).1

lemma noNewCycle_addEntities (h : w.addEntities batch = .ok v) : NoNewCycle w.parent? v.parent? := by
  obtain ⟨ht, rfl⟩ := addEntities_eq_ok_iff_takes.mp h
  rw [parent?_foldl_link ht.nodup ht.notMem_entityIds]
  refine noNewCycle_of_changed (N := fun a => a ∈ batch.map (·.id)) (fun a ha => parentWith?_of_notMem ha) ?_
  intro a ha
  obtain ⟨e, he, rfl⟩ := List.mem_map.mp ha
  exact ht.acyclic e he

lemma noNewCycle_setParent (h : w.setParent child parent = .ok v) : NoNewCycle w.parent? v.parent? := by
  obtain ⟨hc, hup, rfl⟩ := setParent_eq_ok_iff_moved.mp h
  rw [parent?_moved hc]
  exact noNewCycle_update fun up hp => not_reflTransGen_of_reaches (hup up hp).2

structure Guarded (w : World) : Prop where
  batch (es : List Entity) : (∃ v, w.addEntities es = .ok v) ↔ w.Takes es
  moved (child up : String) : child ∈ w.entityIds → up ∈ w.entityIds →
    ((∃ a b, w.setParent child (some up) = .error (.hierarchyCycle a b)) ↔ ReflTransGen (Up w.parent?) up child)
  added (e : Entity) : e.id ∉ w.ids → ((∃ a b, w.addEntity e = .error (.hierarchyCycle a b)) ↔
    ∃ up, e.parent = some up ∧ ReflTransGen (Up w.parent?) up e.id)
  kept (v : World) : (∃ e, w.addEntity e = .ok v) ∨ (∃ es, w.addEntities es = .ok v) ∨
    (∃ child parent, w.setParent child parent = .ok v) → NoNewCycle w.parent? v.parent?

theorem hierarchy_guarded (w : World) : w.Guarded where
  batch es := by
    simp only [addEntities_eq_ok_iff_takes, exists_and_left, exists_eq, and_true]
  moved _ _ hc hu := setParent_eq_cycle_iff hc hu
  added _ hid := addEntity_eq_cycle_iff hid
  kept v h := by
    rcases h with ⟨e, h⟩ | ⟨es, h⟩ | ⟨child, parent, h⟩
    · exact noNewCycle_addEntity h
    · exact noNewCycle_addEntities h
    · exact noNewCycle_setParent h

end World

end Diorama
