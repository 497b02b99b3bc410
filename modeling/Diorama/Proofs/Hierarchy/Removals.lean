import Diorama.Proofs.Hierarchy.Batches
import Diorama.Proofs.Hierarchy.Consistency

namespace Diorama.World

def orphanAll (ids : List String) (e : Entity) : Entity :=
  { e with children := e.children.filter (· ∉ ids), parent := e.parent.filter (· ∉ ids) }

def withoutAll (w : World) (ids : List String) : World :=
  { w with entities := (w.entities.filter (·.id ∉ ids)).map (orphanAll ids) }

def removeEntities (w : World) (ids : List String) : Except WorldError World :=
  ids.foldlM (fun u id => (u.removeEntity id).map (·.2)) w

variable {w v : World} {batch : List Entity} {ids : List String} {id : String} {e q : Entity}

lemma orphanAll_nil (e : Entity) : orphanAll [] e = e := by
  have hchildren : e.children.filter (· ∉ []) = e.children := by simp
  have hparent : e.parent.filter (· ∉ []) = e.parent := by cases e.parent <;> simp
  rw [orphanAll, hchildren, hparent]

lemma orphanAll_orphan (ids : List String) (id : String) (e : Entity) :
    orphanAll ids (orphan id e) = orphanAll (id :: ids) e := by
  have hchildren : (e.children.filter (· != id)).filter (· ∉ ids) = e.children.filter (· ∉ id :: ids) := by
    rw [List.filter_filter]
    refine List.filter_congr fun child _ => ?_
    by_cases h : child = id <;> simp [h]
  have hparent : (if e.parent = some id then none else e.parent).filter (· ∉ ids) =
      e.parent.filter (· ∉ id :: ids) := by
    cases hp : e.parent with
    | none => rfl
    | some up => by_cases h : up = id <;> simp [h, Option.filter]
  simp only [orphanAll, orphan, dropChild, hchildren, hparent]

lemma withoutAll_nil (w : World) : w.withoutAll [] = w := by
  have hkept : w.entities.filter (·.id ∉ []) = w.entities := by simp
  rw [withoutAll, hkept, List.map_congr_left fun e _ => orphanAll_nil e, List.map_id']

lemma withoutAll_without (w : World) (id : String) (ids : List String) :
    (w.without id).withoutAll ids = w.withoutAll (id :: ids) := by
  have hkept : ((w.entities.filter (·.id != id)).filter fun e => e.id ∉ ids) =
      w.entities.filter (·.id ∉ id :: ids) := by
    rw [List.filter_filter]
    refine List.filter_congr fun e _ => ?_
    by_cases h : e.id = id <;> simp [h]
  have hfilter : ((w.without id).entities.filter (·.id ∉ ids)) =
      (w.entities.filter (·.id ∉ id :: ids)).map (orphan id) := by
    rw [← hkept, without, List.filter_map]
    rfl
  rw [withoutAll, hfilter, List.map_map]
  simp only [withoutAll, without, Function.comp_def, orphanAll_orphan]

lemma entityIds_without (w : World) (id : String) : (w.without id).entityIds = w.entityIds.filter (· != id) := by
  rw [entityIds, without, map_id_of_keeps (orphan_id id), entityIds, List.filter_map]
  rfl

lemma removeEntities_eq_ok (hn : w.entityIds.Nodup) (hids : ids.Nodup) (hmem : ∀ id ∈ ids, id ∈ w.entityIds) :
    w.removeEntities ids = .ok (w.withoutAll ids) := by
  induction ids generalizing w with
  | nil => rw [withoutAll_nil]; rfl
  | cons id ids ih =>
    obtain ⟨hid, hids⟩ := List.nodup_cons.mp hids
    obtain ⟨hhere, hmem⟩ := List.forall_mem_cons.mp hmem
    obtain ⟨e, he⟩ := Option.ne_none_iff_exists'.mp fun hnone =>
      entity?_isNone_iff.mp (Option.isNone_iff_eq_none.mpr hnone) hhere
    have hremove : (w.removeEntity id).map (·.2) = .ok (w.without id) := by
      rw [(removeEntity_eq_ok_iff hn).mpr ⟨he, rfl⟩]
      rfl
    have hrest : (w.without id).removeEntities ids = .ok ((w.without id).withoutAll ids) := by
      refine ih ?_ hids fun x hx => ?_
      · rw [entityIds_without]
        exact hn.filter _
      · rw [entityIds_without, List.mem_filter]
        exact ⟨hmem x hx, by simpa using fun h : x = id => hid (h ▸ hx)⟩
    rw [removeEntities, List.foldlM_cons, hremove, ← withoutAll_without]
    exact hrest

lemma orphanAll_adopting (hmem : ∀ e ∈ batch, e.id ∈ ids) (hchildren : ∀ child ∈ q.children, child ∉ ids)
    (hparent : ∀ up, q.parent = some up → up ∉ ids) : orphanAll ids (q.adopting batch) = q := by
  have hnew : (naming batch q.id).filter (· ∉ ids) = [] := by
    refine List.filter_eq_nil_iff.mpr fun child hchild => ?_
    obtain ⟨e, he, rfl⟩ := List.mem_map.mp hchild
    simpa using hmem e (List.mem_of_mem_filter he)
  have hold : q.children.filter (· ∉ ids) = q.children := by simpa using hchildren
  have hup : q.parent.filter (· ∉ ids) = q.parent := by
    cases hp : q.parent with
    | none => rfl
    | some up => simp [hparent up hp]
  simp only [orphanAll, Entity.adopting, List.filter_append, hold, hnew, List.append_nil, hup]

lemma Consistent.withoutAll_foldl_link (h : w.Consistent) (ht : w.Takes batch)
    (hids : ∀ x, x ∈ ids ↔ x ∈ batch.map (·.id)) : (batch.foldl link w).withoutAll ids = w := by
  have hapart : ∀ x ∈ w.entityIds, x ∉ ids := by
    intro x hx hmem
    obtain ⟨e, he, rfl⟩ := List.mem_map.mp ((hids x).mp hmem)
    exact ht.notMem_entityIds e he hx
  have hn : ((w.entities ++ batch.map w.placed).map (·.id)).Nodup := by
    rw [List.map_append, map_id_of_keeps (f := w.placed) fun _ => rfl]
    exact nodup_batch h.distinct ht.fresh ht.nodup
  have hold : w.entities.filter (·.id ∉ ids) = w.entities :=
    List.filter_eq_self.mpr fun q hq => by simpa using hapart q.id (List.mem_map_of_mem hq)
  have hnew : (batch.map w.placed).filter (·.id ∉ ids) = [] := by
    refine List.filter_eq_nil_iff.mpr fun q hq => ?_
    obtain ⟨e, he, rfl⟩ := List.mem_map.mp hq
    exact fun hfree => of_decide_eq_true hfree ((hids e.id).mpr (List.mem_map_of_mem he))
  have hentities : ((batch.foldl link w).entities.filter (·.id ∉ ids)).map (orphanAll ids) = w.entities := by
    rw [entities_foldl_link ht.nodup ht.notMem_entityIds ht.parent_ne, adopt_eq_map hn, List.filter_map, List.map_map]
    have hkept : (w.entities ++ batch.map w.placed).filter ((fun q => decide (q.id ∉ ids)) ∘ Entity.adopting batch) =
        w.entities := by
      change (w.entities ++ batch.map w.placed).filter (·.id ∉ ids) = w.entities
      rw [List.filter_append, hold, hnew, List.append_nil]
    rw [hkept]
    refine (List.map_congr_left fun q hq => ?_).trans (List.map_id _)
    -- In a consistent world no entity has to do with a name that is still free.
    refine orphanAll_adopting (fun e he => (hids e.id).mpr (List.mem_map_of_mem he)) (fun child hchild => ?_) ?_
    · exact hapart child (World.mem_of_under (((h.mirrored q hq).2 child).mp hchild))
    · exact fun up hp => hapart up (mem_entityIds.mpr (h.rooted q hq up hp))
  rw [foldl_link_eq, withoutAll, hentities]

lemma Consistent.removeEntities_addEntities (h : w.Consistent) (hadd : w.addEntities batch = .ok v)
    (hids : ids.Perm (batch.map (·.id))) : v.removeEntities ids = .ok w := by
  obtain ⟨ht, rfl⟩ := addEntities_eq_ok_iff_takes.mp hadd
  have hn := nodup_batch h.distinct ht.fresh ht.nodup
  have hremove : (batch.foldl link w).removeEntities ids = .ok ((batch.foldl link w).withoutAll ids) := by
    refine removeEntities_eq_ok ?_ (hids.nodup_iff.mpr ht.nodup) fun id hid => ?_
    · rwa [entityIds_foldl_link hn]
    · rw [entityIds_foldl_link hn]
      exact List.mem_append_right _ (hids.mem_iff.mp hid)
  rw [hremove, h.withoutAll_foldl_link ht fun _ => hids.mem_iff]

/-- A batch that was added to a world that edits have made can be taken out again, one entity after the other in any
order, and nothing of it remains. -/
theorem edited_addEntities_undone (info : WorldInfo) (environment : Environment) (edits : List Edit)
    (batch : List Entity) (order : List String) (v : World)
    (hadd : (World.edited { metadata := info, environment } edits).addEntities batch = .ok v)
    (horder : order.Perm (batch.map (·.id))) :
    v.removeEntities order = .ok (World.edited { metadata := info, environment } edits) := by
  have hempty : World.Consistent { metadata := info, environment } :=
    (consistent_empty info).of_entities rfl List.nodup_nil
  exact (hempty.edited edits).removeEntities_addEntities hadd horder

def setting : List Entity := [{ id := "cup", name := "Cup", parent := some "saucer" },
  { id := "saucer", name := "Saucer", parent := some "table" }]

def table : Edit := .addEntity { id := "table", name := "Table" }

theorem edited_addEntities_undone_setting : ∃ v,
    (World.edited { metadata := { title := "Room" } } [table]).addEntities setting = .ok v ∧
      ["saucer", "cup"].Perm (setting.map (·.id)) ∧
        v.removeEntities ["saucer", "cup"] = .ok (World.edited { metadata := { title := "Room" } } [table]) := by
  have hadd : ∃ v, (World.edited { metadata := { title := "Room" } } [table]).addEntities setting = .ok v := ⟨_, rfl⟩
  have horder : ["saucer", "cup"].Perm (setting.map (·.id)) := by decide
  obtain ⟨v, hv⟩ := hadd
  exact ⟨v, hv, horder, edited_addEntities_undone _ _ _ _ _ v hv horder⟩

end Diorama.World
