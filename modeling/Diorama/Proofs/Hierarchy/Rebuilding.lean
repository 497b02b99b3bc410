import Diorama.Proofs.Hierarchy.Consistency
import Diorama.Proofs.Hierarchy.CycleChecks
import Diorama.Proofs.Hierarchy.CycleIssues
import Diorama.Proofs.Hierarchy.Removals
import Diorama.Proofs.Validation.Structure

/-! Worlds whose lists of children were made anew. The lists mirror the links from then on, whatever else is wrong with
the world, and no edit adds a missing parent or a cycle to those that the links had. -/

namespace Diorama

open Relation Ancestry

namespace Ancestry

variable {first second third parent : String → Option String} {a b : String} {c : List String}

lemma NoNewCycle.refl (parent : String → Option String) : NoNewCycle parent parent := fun _ _ hab _ => hab

lemma NoNewCycle.of_up (h : ∀ a b, Up second a b → Up first a b) : NoNewCycle first second := fun a b hab _ => h a b hab

lemma NoNewCycle.way (h : NoNewCycle first second) (hab : ReflTransGen (Up second) a b)
    (hba : ReflTransGen (Up second) b a) : ReflTransGen (Up first) a b := by
  induction hab using ReflTransGen.head_induction_on with
  | refl => exact .refl
  | head hac hcb ih => exact .head (h _ _ hac (hcb.trans hba)) (ih (hba.tail hac))

lemma NoNewCycle.trans (h : NoNewCycle first second) (h' : NoNewCycle second third) : NoNewCycle first third :=
  fun a b hab hba => h a b (h' a b hab hba) (h'.way hba (.single hab))

lemma NoNewCycle.isCycle (h : NoNewCycle first second) (hc : IsCycle second c) : IsCycle first c := by
  have hlink : ∀ a ∈ c, ∀ b, Up second a b → Up first a b := fun a ha b hab =>
    h a b hab (returns_of_cyclic (hc.cyclic_of_mem ha) (.single hab))
  cases c with
  | nil => exact hc.elim
  | cons first rest =>
    refine ⟨hc.1, hc.2.imp_of_mem_imp fun a b ha _ hab => hlink a ?_ b hab⟩
    rcases List.mem_append.mp ha with ha | ha
    · exact ha
    · exact List.mem_singleton.mp ha ▸ List.mem_cons_self

end Ancestry

namespace Rule

variable {w : World} {i : Issue}

lemma childrenMismatches_eq_nil (h : w.Mirrored) : childrenMismatches w.entities = [] := by
  refine (Clean.of_isError fun i hi => ?_).mp (clean_childrenMismatches.mpr h)
  obtain ⟨e, -, hi⟩ := List.mem_filterMap.mp hi
  simp only at hi
  split at hi
  · cases hi
  · obtain rfl := Option.some.inj hi
    rfl

lemma code_ne_childrenMismatch (h : w.Mirrored) : ∀ i ∈ parentReferences w, i.code ≠ .childrenMismatch := by
  rw [parentReferences, childrenMismatches_eq_nil h, List.append_nil, List.forall_mem_append]
  constructor
  · intro i hi
    obtain ⟨e, -, hi⟩ := List.mem_filterMap.mp hi
    grind
  · intro i hi
    obtain ⟨c, -, hi⟩ := List.mem_flatMap.mp hi
    cases c with
    | nil => cases hi
    | cons first rest => simp [List.mem_singleton.mp hi]

end Rule

namespace World

def Dangles (w : World) (id up : String) : Prop := w.Under id up ∧ up ∉ w.entityIds

structure Upkept (old w : World) : Prop where
  distinct : w.entityIds.Nodup
  mirrored : w.Mirrored
  dangling : ∀ id up, w.Dangles id up → old.Dangles id up
  cycles : NoNewCycle old.parent? w.parent?

variable {old w v : World} {batch : List Entity} {e : Entity} {id child : String} {parent : Option String}

lemma Upkept.refl (hn : w.entityIds.Nodup) (hm : w.Mirrored) : w.Upkept w :=
  ⟨hn, hm, fun _ _ h => h, .refl _⟩

lemma Upkept.trans (h : old.Upkept w) (h' : w.Upkept v) : old.Upkept v :=
  ⟨h'.distinct, h'.mirrored, fun id up hd => h.dangling id up (h'.dangling id up hd), h.cycles.trans h'.cycles⟩

lemma upkept_of_map {f : Entity → Entity} (hn : w.entityIds.Nodup) (hid : ∀ e, (f e).id = e.id)
    (hp : ∀ e, (f e).parent = e.parent) (he : v.entities = w.entities.map f) (hm : v.Mirrored) : w.Upkept v := by
  have hids : v.entityIds = w.entityIds := by rw [entityIds, he, map_id_of_keeps hid, entityIds]
  have hunder : v.Under = w.Under := by
    rw [← under_map (w := w) hid hp]
    funext a b
    rw [Under, Under, he]
  have hparent : v.parent? = w.parent? := by
    rw [← parent?_map (w := w) hid hp]
    funext id
    rw [parent?, parent?, entity?, entity?, he]
  exact ⟨hids ▸ hn, hm, fun id up hd => by rwa [Dangles, hunder, hids] at hd, hparent ▸ .refl _⟩

lemma upkept_of_entities (hn : w.entityIds.Nodup) (hm : w.Mirrored) (he : v.entities = w.entities) : w.Upkept v := by
  have hmirrored : v.Mirrored := by
    have hunder : v.Under = w.Under := by
      funext a b
      rw [Under, Under, he]
    rw [Mirrored, he, hunder]
    exact hm
  exact upkept_of_map (f := id) hn (fun _ => rfl) (fun _ => rfl) (he.trans (List.map_id _).symm) hmirrored

lemma upkept_addEntities (hn : w.entityIds.Nodup) (hm : w.Mirrored) (h : w.addEntities batch = .ok v) :
    w.Upkept v := by
  have hcycles := noNewCycle_addEntities h
  obtain ⟨ht, rfl⟩ := addEntities_eq_ok_iff_takes.mp h
  have hnew : (w.entityIds ++ batch.map (·.id)).Nodup := nodup_append_map_iff.mpr ⟨hn, ht.notMem_entityIds, ht.nodup⟩
  refine ⟨?_, mirrored_foldl_link hnew hm ht.parent_ne, ?_, hcycles⟩
  · rwa [entityIds_foldl_link hnew]
  · rintro id up ⟨hunder, hup⟩
    rw [entityIds_foldl_link hnew, List.mem_append, not_or] at hup
    rcases (under_foldl_link hnew id up).mp hunder with hunder | ⟨e, he, -, hp⟩
    · exact ⟨hunder, hup.1⟩
    · rcases ht.known e he up hp with h | h
      · exact absurd h hup.2
      · exact absurd h hup.1

lemma upkept_addEntity (hn : w.entityIds.Nodup) (hm : w.Mirrored) (h : w.addEntity e = .ok v) : w.Upkept v := by
  have hone : [e].foldlM World.addEntity w = .ok v := by
    rw [List.foldlM_cons, h]
    rfl
  exact upkept_addEntities hn hm (addEntities_of_foldlM hone)

lemma upkept_removeEntity (hn : w.entityIds.Nodup) (hm : w.Mirrored) (h : w.removeEntity id = .ok (e, v)) :
    w.Upkept v := by
  obtain ⟨-, rfl⟩ := (removeEntity_eq_ok_iff hn).mp h
  have hn' : (w.without id).entityIds.Nodup := by
    rw [entityIds_without]
    exact hn.filter _
  refine ⟨hn', mirrored_without hm, ?_, NoNewCycle.of_up fun a b hab => ?_⟩
  · rintro a up ⟨hunder, hup⟩
    obtain ⟨hunder, -, hne⟩ := (under_without a up).mp hunder
    refine ⟨hunder, fun hmem => hup ?_⟩
    rw [entityIds_without, List.mem_filter]
    exact ⟨hmem, by simpa using hne⟩
  · rw [← under_eq_up hn'] at hab
    rw [← under_eq_up hn]
    exact ((under_without a b).mp hab).1

lemma upkept_setParent (hn : w.entityIds.Nodup) (hm : w.Mirrored) (h : w.setParent child parent = .ok v) :
    w.Upkept v := by
  have hcycles := noNewCycle_setParent h
  obtain ⟨hchild, hup, rfl⟩ := (setParent_eq_ok_iff hn).mp h
  have hids : (w.reparented child parent).entityIds = w.entityIds :=
    map_id_of_keeps (reparent_id child parent) w.entities
  refine ⟨hids ▸ hn, mirrored_reparented hm hchild, ?_, hcycles⟩
  rintro id up ⟨hunder, hmissing⟩
  rw [hids] at hmissing
  rcases (under_reparented id up).mp hunder with ⟨-, hunder⟩ | ⟨-, -, hp⟩
  · exact ⟨hunder, hmissing⟩
  · exact absurd (hup up hp).1 hmissing

lemma upkept_setTransform {t : Transform} (hn : w.entityIds.Nodup) (hm : w.Mirrored)
    (h : w.setTransform id t = .ok v) : w.Upkept v := by
  obtain ⟨-, rfl⟩ := setTransform_eq_ok_iff.mp h
  rw [updateEntity, updateFirst_eq_map hn]
  have hid : ∀ e : Entity, (if e.id = id then { e with transform := t } else e).id = e.id := fun e => by split <;> rfl
  have hp : ∀ e : Entity, (if e.id = id then { e with transform := t } else e).parent = e.parent :=
    fun e => by split <;> rfl
  exact upkept_of_map hn hid hp rfl (mirrored_map hid hp (fun e => by split <;> rfl) hm)

lemma upkept_rebuildChildren (hn : w.entityIds.Nodup) : w.Upkept w.rebuildChildren := by
  have hm := mirrored_rebuildChildren hn
  rw [rebuildChildren_eq hn] at hm ⊢
  exact upkept_of_map (f := fun e => { e with children := w.childrenOf e.id }) hn (fun _ => rfl) (fun _ => rfl) rfl hm

lemma Upkept.outcome (h : old.Upkept w) {edit : Edit} (ha : edit.outcome w = .ok v) : old.Upkept v := by
  have hn := h.distinct
  have hm := h.mirrored
  refine h.trans ?_
  cases edit with
  | addEntity e => exact upkept_addEntity hn hm ha
  | addEntities batch => exact upkept_addEntities hn hm ha
  | addLight l =>
    obtain ⟨-, rfl⟩ := addLight_eq_ok_iff.mp ha
    exact upkept_of_entities hn hm rfl
  | addMechanism m =>
    obtain ⟨-, rfl⟩ := addMechanism_eq_ok_iff.mp ha
    exact upkept_of_entities hn hm rfl
  | removeEntity id =>
    cases hr : w.removeEntity id with
    | error e => simp [Edit.outcome, hr, Except.map] at ha
    | ok r =>
      obtain rfl : r.2 = v := by simpa [Edit.outcome, hr, Except.map] using ha
      exact upkept_removeEntity hn hm hr
  | setParent child parent => exact upkept_setParent hn hm ha
  | setTransform id t => exact upkept_setTransform hn hm ha
  | setBounds b =>
    obtain rfl := ok_eq_ok_iff.mp ha
    exact upkept_of_entities hn hm rfl
  | rebuildChildren =>
    obtain rfl := ok_eq_ok_iff.mp ha
    exact upkept_rebuildChildren hn

lemma Upkept.edited (h : old.Upkept w) (edits : List Edit) : old.Upkept (w.edited edits) := by
  induction edits generalizing w with
  | nil => exact h
  | cons edit edits ih =>
    refine ih ?_
    unfold Edit.apply
    cases ha : edit.outcome w with
    | ok v => exact h.outcome ha
    | error e => exact h

lemma rebuildChildren_rebuildChildren (hn : w.entityIds.Nodup) :
    w.rebuildChildren.rebuildChildren = w.rebuildChildren := by
  have hn' := (upkept_rebuildChildren hn).distinct
  have hchildren : w.rebuildChildren.childrenOf = w.childrenOf := by
    funext id
    refine naming_eq_of_map ?_ id
    rw [rebuildChildren_eq hn]
    simp only [List.map_map]
    rfl
  rw [rebuildChildren_eq hn', hchildren, rebuildChildren_eq hn, List.map_map]
  rfl

/-- In a world with distinct entities a rebuilding gives every entity the list of those that name it as their parent, in
order, and changes nothing else. From then on no edits make a list of children disagree with the links, or the links
have a missing parent or a cycle that they had not at first. -/
theorem rebuildChildren_mends (w : World) (hn : w.entityIds.Nodup) :
    w.rebuildChildren = { w with entities := w.entities.map fun e => { e with children := w.childrenOf e.id } } ∧
    w.rebuildChildren.rebuildChildren = w.rebuildChildren ∧
    ∀ edits : List Edit,
      (∀ i ∈ Rule.parentReferences (w.rebuildChildren.edited edits), i.code ≠ .childrenMismatch) ∧
      (∀ id up, (w.rebuildChildren.edited edits).Dangles id up → w.rebuildChildren.Dangles id up) ∧
      ∀ c, IsCycle (w.rebuildChildren.edited edits).parent? c → IsCycle w.rebuildChildren.parent? c := by
  have hrebuilt := upkept_rebuildChildren hn
  refine ⟨rebuildChildren_eq hn, rebuildChildren_rebuildChildren hn, fun edits => ?_⟩
  have h := (Upkept.refl hrebuilt.distinct hrebuilt.mirrored).edited edits
  exact ⟨Rule.code_ne_childrenMismatch h.mirrored, h.dangling, fun _ => h.cycles.isCycle⟩

def toppled : World where
  metadata := { title := "Room" }
  entities := [{ id := "lamp", name := "Lamp", parent := some "table", children := ["lamp", "lamp"] },
    { id := "upper", name := "Upper shelf", parent := some "lower" },
    { id := "lower", name := "Lower shelf", parent := some "upper", children := ["lamp"] }]

theorem rebuildChildren_mends_toppled : toppled.entityIds.Nodup ∧
    toppled.rebuildChildren.entities.map (·.children) = [[], ["lower"], ["upper"]] ∧
    (∀ i ∈ Rule.parentReferences (toppled.rebuildChildren.edited
      [.addEntity { id := "table", name := "Table" }, .removeEntity "upper"]), i.code ≠ .childrenMismatch) := by
  have hn : toppled.entityIds.Nodup := by decide
  obtain ⟨hrebuilt, -, hedits⟩ := rebuildChildren_mends toppled hn
  exact ⟨hn, by rw [hrebuilt]; decide, (hedits _).1⟩

end World

end Diorama
