import Diorama.World.Hierarchy
import Mathlib.Data.List.Nodup

namespace Diorama.World

def entityIds (w : World) : List String := w.entities.map (·.id)

lemma mem_entityIds {w : World} {id : String} : id ∈ w.entityIds ↔ ∃ e ∈ w.entities, e.id = id := by
  simp [entityIds]

lemma ids_eq (w : World) :
    w.ids = w.entityIds ++ (w.lights.map (·.id) ++ w.mechanisms.map (·.id)) := by
  simp [ids, entityIds]

lemma nodup_entityIds {w : World} (h : w.ids.Nodup) : w.entityIds.Nodup := by
  rw [ids_eq] at h
  exact h.of_append_left

lemma nodup_append_map_iff {α : Type} {id : α → String} {taken : List String} {parts : List α} :
    (taken ++ parts.map id).Nodup ↔ taken.Nodup ∧ (∀ a ∈ parts, id a ∉ taken) ∧ (parts.map id).Nodup := by
  rw [List.nodup_append]
  constructor
  · rintro ⟨ht, hp, hapart⟩
    exact ⟨ht, fun a ha hm => hapart _ hm _ (List.mem_map_of_mem ha) rfl, hp⟩
  · rintro ⟨ht, hfresh, hp⟩
    refine ⟨ht, hp, ?_⟩
    rintro x hx y hy rfl
    obtain ⟨a, ha, rfl⟩ := List.mem_map.mp hy
    exact hfresh a ha hx

lemma containsId_iff {w : World} {id : String} : w.containsId id = true ↔ id ∈ w.ids := by
  simp [containsId]

lemma entity?_isNone_iff {w : World} {id : String} : (w.entity? id).isNone = true ↔ id ∉ w.entityIds := by
  simp [entity?, entityIds]

lemma mem_childrenOf {w : World} {parent id : String} :
    id ∈ w.childrenOf parent ↔ ∃ c ∈ w.entities, c.id = id ∧ c.parent = some parent := by
  simp only [childrenOf, List.mem_map, List.mem_filter, decide_eq_true_eq]
  constructor
  · rintro ⟨c, ⟨hc, hp⟩, rfl⟩
    exact ⟨c, hc, rfl, hp⟩
  · rintro ⟨c, hc, rfl, hp⟩
    exact ⟨c, ⟨hc, hp⟩, rfl⟩

@[simp] lemma addChild_id (child : String) (e : Entity) : (addChild child e).id = e.id := rfl
@[simp] lemma addChild_parent (child : String) (e : Entity) : (addChild child e).parent = e.parent := rfl
@[simp] lemma addChild_children (child : String) (e : Entity) :
    (addChild child e).children = e.children ++ [child] := rfl
@[simp] lemma dropChild_id (child : String) (e : Entity) : (dropChild child e).id = e.id := rfl
@[simp] lemma dropChild_parent (child : String) (e : Entity) : (dropChild child e).parent = e.parent := rfl
@[simp] lemma dropChild_children (child : String) (e : Entity) :
    (dropChild child e).children = e.children.filter (· != child) := rfl
@[simp] lemma orphan_id (id : String) (e : Entity) : (orphan id e).id = e.id := rfl
@[simp] lemma orphan_parent (id : String) (e : Entity) :
    (orphan id e).parent = if e.parent = some id then none else e.parent := rfl
@[simp] lemma orphan_children (id : String) (e : Entity) :
    (orphan id e).children = e.children.filter (· != id) := rfl

lemma updateFirst_of_notMem {id : String} {change : Entity → Entity} {es : List Entity}
    (h : id ∉ es.map (·.id)) : updateFirst id change es = es := by
  induction es with
  | nil => rfl
  | cons e es ih =>
    simp only [List.map_cons, List.mem_cons, not_or] at h
    simp [updateFirst, Ne.symm h.1, ih h.2]

lemma updateFirst_eq_map {id : String} {change : Entity → Entity} {es : List Entity}
    (h : (es.map (·.id)).Nodup) :
    updateFirst id change es = es.map fun e => if e.id = id then change e else e := by
  induction es with
  | nil => rfl
  | cons e es ih =>
    obtain ⟨he, hes⟩ := List.nodup_cons.mp h
    by_cases hid : e.id = id
    · subst hid
      have hrest : es.map (fun x => if x.id = e.id then change x else x) = es := by
        rw [← ih hes, updateFirst_of_notMem he]
      simp [updateFirst, hrest]
    · simp [updateFirst, hid, ih hes]

lemma map_id_updateFirst {id : String} {change : Entity → Entity} (hid : ∀ e, (change e).id = e.id)
    (es : List Entity) : (updateFirst id change es).map (·.id) = es.map (·.id) := by
  induction es with
  | nil => rfl
  | cons e es ih =>
    rw [updateFirst]
    split
    · rw [List.map_cons, List.map_cons, hid]
    · rw [List.map_cons, List.map_cons, ih]

lemma find?_id_iff {es : List Entity} (hn : (es.map (·.id)).Nodup) {id : String} {e : Entity} :
    es.find? (·.id == id) = some e ↔ e ∈ es ∧ e.id = id := by
  constructor
  · intro h
    exact ⟨List.mem_of_find?_eq_some h, by simpa using List.find?_some h⟩
  · rintro ⟨he, rfl⟩
    induction es with
    | nil => simp at he
    | cons x es ih =>
      obtain ⟨hx, hes⟩ := List.nodup_cons.mp hn
      rcases List.mem_cons.mp he with rfl | he
      · simp
      · have hne : x.id ≠ e.id := fun h => hx (List.mem_map.mpr ⟨e, he, h.symm⟩)
        simp [hne, ih hes he]

def enter (w : World) (e : Entity) : World :=
  match e.parent with
  | none => w
  | some up => w.updateEntity up (addChild e.id)

lemma enter_eq {w : World} (hn : w.entityIds.Nodup) (e : Entity) :
    w.enter e = { w with
      entities := w.entities.map fun q => if e.parent = some q.id then addChild e.id q else q } := by
  cases hp : e.parent with
  | none => simp [enter, hp]
  | some up =>
    simp only [enter, hp, updateEntity, updateFirst_eq_map hn, Option.some.injEq]
    congr 2
    funext q
    simp only [eq_comm]

lemma link_eq (w : World) (e : Entity) :
    w.link e = { w.enter e with entities := (w.enter e).entities ++ [{ e with children := w.childrenOf e.id }] } :=
  rfl

lemma entities_link {w : World} (hn : w.entityIds.Nodup) (e : Entity) :
    (w.link e).entities = (w.entities.map fun q => if e.parent = some q.id then addChild e.id q else q) ++
      [{ e with children := w.childrenOf e.id }] := by
  rw [link_eq, enter_eq hn]

lemma entityIds_enter (w : World) (e : Entity) : (w.enter e).entityIds = w.entityIds := by
  cases hp : e.parent with
  | none => simp only [enter, hp]
  | some up =>
    simp only [enter, hp, updateEntity, entityIds]
    exact map_id_updateFirst (addChild_id e.id) w.entities

lemma entityIds_link (w : World) (e : Entity) : (w.link e).entityIds = w.entityIds ++ [e.id] := by
  rw [link_eq, ← entityIds_enter w e]
  simp [entityIds]

lemma eraseP_id_eq_filter {es : List Entity} (hn : (es.map (·.id)).Nodup) (id : String) :
    es.eraseP (·.id == id) = es.filter (·.id != id) := by
  induction es with
  | nil => rfl
  | cons e es ih =>
    obtain ⟨he, hes⟩ := List.nodup_cons.mp hn
    by_cases hid : e.id = id
    · subst hid
      have hall : ∀ x ∈ es, (x.id != e.id) = true := by
        intro x hx
        simpa using fun h : x.id = e.id => he (List.mem_map.mpr ⟨x, hx, h⟩)
      simp [List.filter_eq_self.mpr hall]
    · simp [hid, ih hes]

lemma map_id_of_keeps {f : Entity → Entity} (hf : ∀ e, (f e).id = e.id) (es : List Entity) :
    (es.map f).map (·.id) = es.map (·.id) := by
  rw [List.map_map]
  exact List.map_congr_left fun e _ => hf e

def without (w : World) (id : String) : World :=
  { w with entities := (w.entities.filter (·.id != id)).map (orphan id) }

def reparent (child : String) (parent : Option String) (e : Entity) : Entity :=
  { e with
    children := e.children.filter (· != child) ++ if parent = some e.id then [child] else []
    parent := if e.id = child then parent else e.parent }

@[simp] lemma reparent_id (child : String) (parent : Option String) (e : Entity) :
    (reparent child parent e).id = e.id := rfl

def reparented (w : World) (child : String) (parent : Option String) : World :=
  { w with entities := w.entities.map (reparent child parent) }

lemma detach_eq_reparented {w : World} (hn : w.entityIds.Nodup) (child : String) :
    ({ w with entities := w.entities.map (dropChild child) } : World).updateEntity child
      (fun e => { e with parent := none }) = w.reparented child none := by
  have hd := map_id_of_keeps (dropChild_id child) w.entities
  simp only [updateEntity, reparented]
  congr 1
  rw [updateFirst_eq_map (hd ▸ hn), List.map_map]
  refine List.map_congr_left fun e _ => ?_
  by_cases he : e.id = child <;> simp [reparent, dropChild, he]

lemma move_eq_reparented {w : World} (hn : w.entityIds.Nodup) (child up : String) :
    (({ w with entities := w.entities.map (dropChild child) } : World).updateEntity up
      (addChild child)).updateEntity child (fun e => { e with parent := some up }) =
        w.reparented child (some up) := by
  have hd := map_id_of_keeps (dropChild_id child) w.entities
  have hn' : ((w.entities.map (dropChild child)).map (·.id)).Nodup := hd ▸ hn
  have ha := map_id_of_keeps (f := fun e => if e.id = up then addChild child e else e)
    (fun e => by split <;> rfl) (w.entities.map (dropChild child))
  simp only [updateEntity, reparented]
  congr 1
  rw [updateFirst_eq_map hn', updateFirst_eq_map (ha ▸ hn'), List.map_map, List.map_map]
  refine List.map_congr_left fun e _ => ?_
  simp only [Function.comp_apply]
  by_cases hu : (dropChild child e).id = up
  · subst hu
    by_cases he : e.id = child <;> simp [reparent, dropChild, addChild, he]
  · have hu' : ¬some up = some e.id := fun h => hu (Option.some.inj h).symm
    rw [if_neg hu]
    by_cases he : (dropChild child e).id = child
    · obtain rfl : e.id = child := he
      simp only [reparent, dropChild, if_pos, if_neg hu', List.append_nil]
    · rw [if_neg he]
      simp only [reparent, dropChild, if_neg hu', if_neg (show ¬e.id = child from he), List.append_nil]

def moved (w : World) (child : String) (parent : Option String) : World :=
  let detached : World := { w with entities := w.entities.map (dropChild child) }
  let entered := match parent with
    | none => detached
    | some up => detached.updateEntity up (addChild child)
  entered.updateEntity child fun e => { e with parent := parent }

lemma moved_eq_reparented {w : World} (hn : w.entityIds.Nodup) (child : String) (parent : Option String) :
    w.moved child parent = w.reparented child parent := by
  cases parent with
  | none => exact detach_eq_reparented hn child
  | some up => exact move_eq_reparented hn child up

lemma foldl_enter {w : World} (hn : w.entityIds.Nodup) (es : List Entity) :
    es.foldl enter w = { w with entities := w.entities.map fun q =>
      { q with children := q.children ++ (es.filter (·.parent = some q.id)).map (·.id) } } := by
  induction es generalizing w with
  | nil => simp
  | cons e es ih =>
    rw [List.foldl_cons, ih ((entityIds_enter w e).symm ▸ hn), enter_eq hn]
    simp only [List.map_map]
    congr 1
    refine List.map_congr_left fun q _ => ?_
    by_cases hq : e.parent = some q.id <;> simp [hq, addChild]

lemma rebuildChildren_eq {w : World} (hn : w.entityIds.Nodup) :
    w.rebuildChildren = { w with entities := w.entities.map fun q => { q with children := w.childrenOf q.id } } := by
  let cleared : World := { w with entities := w.entities.map fun e => { e with children := [] } }
  have hc : cleared.entityIds = w.entityIds :=
    map_id_of_keeps (f := fun e => { e with children := [] }) (fun _ => rfl) w.entities
  have hf : w.rebuildChildren = w.entities.foldl enter cleared := rfl
  rw [hf, foldl_enter (hc ▸ hn)]
  simp [cleared, childrenOf, Function.comp_def]

end Diorama.World
