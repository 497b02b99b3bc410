import Diorama.Proofs.Hierarchy.Ancestry
import Diorama.Proofs.Hierarchy.Entities

/-! The links between entities and their parents, and what each change of a world does to them. A world whose
children lists mirror the links keeps that property under every change, whatever else is wrong with it. -/

namespace Diorama.World

open Ancestry Relation

def Under (w : World) (a b : String) : Prop := ∃ e ∈ w.entities, e.id = a ∧ e.parent = some b

lemma parent?_eq_some_of_mem {w : World} (hn : w.entityIds.Nodup) {e : Entity} (he : e ∈ w.entities) :
    w.parent? e.id = e.parent := by
  have h : w.entity? e.id = some e := (find?_id_iff hn).mpr ⟨he, rfl⟩
  simp [parent?, h]

lemma under_of_parent? {w : World} {a b : String} (h : w.parent? a = some b) : w.Under a b := by
  obtain ⟨e, he, hp⟩ := Option.bind_eq_some_iff.mp h
  exact ⟨e, List.mem_of_find?_eq_some he, by simpa using List.find?_some he, hp⟩

lemma mem_of_under {w : World} {a b : String} (h : w.Under a b) : a ∈ w.entityIds := by
  obtain ⟨e, he, hid, _⟩ := h
  exact mem_entityIds.mpr ⟨e, he, hid⟩

lemma under_eq_up {w : World} (hn : w.entityIds.Nodup) : w.Under = Up w.parent? := by
  funext a b
  apply propext
  constructor
  · rintro ⟨e, he, rfl, hp⟩
    exact (parent?_eq_some_of_mem hn he).trans hp
  · exact under_of_parent?

lemma reaches_iff {w : World} {a b : String} :
    w.reaches a b = true ↔ ReflTransGen (Up w.parent?) a b := by
  have hkeys : ∀ a b, w.parent? a = some b → a ∈ w.entityIds := by
    intro a b h
    obtain ⟨e, he, hid, _⟩ := under_of_parent? h
    exact mem_entityIds.mpr ⟨e, he, hid⟩
  rw [reaches, List.contains_iff_mem]
  exact mem_lineage_iff_reflTransGen hkeys (by simp [entityIds])

/-- Every entity lists each of the entities that name it as their parent once, and no others. -/
def Mirrored (w : World) : Prop :=
  ∀ e ∈ w.entities, e.children.Nodup ∧ ∀ id, id ∈ e.children ↔ w.Under id e.id

lemma under_map {w : World} {f : Entity → Entity} (hid : ∀ e, (f e).id = e.id)
    (hp : ∀ e, (f e).parent = e.parent) :
    ({ w with entities := w.entities.map f } : World).Under = w.Under := by
  funext a b
  simp [Under, hid, hp]

lemma ids_map {w : World} {f : Entity → Entity} (hid : ∀ e, (f e).id = e.id) :
    ({ w with entities := w.entities.map f } : World).ids = w.ids := by
  simp only [ids, map_id_of_keeps hid]

lemma mirrored_map {w : World} {f : Entity → Entity} (hid : ∀ e, (f e).id = e.id)
    (hp : ∀ e, (f e).parent = e.parent) (hc : ∀ e, (f e).children = e.children) (hm : w.Mirrored) :
    ({ w with entities := w.entities.map f } : World).Mirrored := by
  intro q hq
  obtain ⟨e, he, rfl⟩ := List.mem_map.mp hq
  rw [under_map hid hp, hid, hc]
  exact hm e he

lemma under_link {w : World} (hn : w.entityIds.Nodup) (e : Entity) (a b : String) :
    (w.link e).Under a b ↔ w.Under a b ∨ e.id = a ∧ e.parent = some b := by
  simp only [Under, entities_link hn, List.mem_append, List.mem_map, List.mem_singleton]
  constructor
  · rintro ⟨q, ⟨x, hx, rfl⟩ | rfl, hid, hp⟩
    · refine Or.inl ⟨x, hx, ?_⟩
      split at hid <;> simp_all
    · exact Or.inr ⟨hid, hp⟩
  · rintro (⟨x, hx, hid, hp⟩ | ⟨hid, hp⟩)
    · refine ⟨_, Or.inl ⟨x, hx, rfl⟩, ?_⟩
      split <;> simp_all
    · exact ⟨_, Or.inr rfl, hid, hp⟩

lemma ids_link (w : World) (e : Entity) : (w.link e).ids.Perm (e.id :: w.ids) := by
  have hl : (w.link e).lights = w.lights ∧ (w.link e).mechanisms = w.mechanisms := by
    rw [link_eq, enter]
    cases e.parent <;> exact ⟨rfl, rfl⟩
  rw [ids_eq, ids_eq w, entityIds_link, hl.1, hl.2, List.append_assoc]
  exact List.perm_middle

lemma mirrored_link {w : World} (hn : w.entityIds.Nodup) (hm : w.Mirrored) {e : Entity}
    (hid : e.id ∉ w.entityIds) (hself : e.parent ≠ some e.id) : (w.link e).Mirrored := by
  intro q hq
  rw [entities_link hn, List.mem_append, List.mem_map, List.mem_singleton] at hq
  simp only [under_link hn]
  rcases hq with ⟨x, hx, rfl⟩ | rfl
  · obtain ⟨hnd, hc⟩ := hm x hx
    have hnew : e.id ∉ x.children := fun h => hid (mem_of_under ((hc e.id).mp h))
    by_cases hp : e.parent = some x.id
    · rw [if_pos hp]
      refine ⟨?_, fun id => by simp [hc, hp, eq_comm]⟩
      exact List.nodup_append.mpr ⟨hnd, List.nodup_singleton _, by
        rintro a ha b hb rfl
        exact hnew (List.mem_singleton.mp hb ▸ ha)⟩
    · rw [if_neg hp]
      exact ⟨hnd, fun id => by simp [hc, hp]⟩
  · refine ⟨?_, fun id => by simp [mem_childrenOf, Under, hself]⟩
    exact hn.sublist (List.filter_sublist.map _)

section Batches

variable {w : World} {batch : List Entity}

lemma nodup_batch (hn : w.ids.Nodup) (hfresh : ∀ e ∈ batch, e.id ∉ w.ids) (hd : (batch.map (·.id)).Nodup) :
    (w.entityIds ++ batch.map (·.id)).Nodup :=
  nodup_append_map_iff.mpr ⟨nodup_entityIds hn,
    fun e he hm => hfresh e he (ids_eq w ▸ List.mem_append_left _ hm), hd⟩

lemma nodup_link {e : Entity} (h : (w.entityIds ++ (e :: batch).map (·.id)).Nodup) :
    ((w.link e).entityIds ++ batch.map (·.id)).Nodup := by
  rw [entityIds_link, List.append_assoc]
  exact h

lemma entityIds_foldl_link (h : (w.entityIds ++ batch.map (·.id)).Nodup) :
    (batch.foldl link w).entityIds = w.entityIds ++ batch.map (·.id) := by
  induction batch generalizing w with
  | nil => simp
  | cons e batch ih =>
    rw [List.foldl_cons, ih (nodup_link h), entityIds_link]
    simp

lemma under_foldl_link (h : (w.entityIds ++ batch.map (·.id)).Nodup) (a b : String) :
    (batch.foldl link w).Under a b ↔ w.Under a b ∨ ∃ e ∈ batch, e.id = a ∧ e.parent = some b := by
  induction batch generalizing w with
  | nil => simp
  | cons e batch ih =>
    rw [List.foldl_cons, ih (nodup_link h), under_link h.of_append_left, or_assoc]
    simp

lemma ids_foldl_link (h : (w.entityIds ++ batch.map (·.id)).Nodup) :
    (batch.foldl link w).ids.Perm (batch.map (·.id) ++ w.ids) := by
  induction batch generalizing w with
  | nil => simp
  | cons e batch ih =>
    rw [List.foldl_cons]
    refine (ih (nodup_link h)).trans ?_
    refine ((ids_link _ e).append_left _).trans ?_
    exact List.perm_middle

lemma mirrored_foldl_link (h : (w.entityIds ++ batch.map (·.id)).Nodup) (hm : w.Mirrored)
    (hself : ∀ e ∈ batch, e.parent ≠ some e.id) : (batch.foldl link w).Mirrored := by
  induction batch generalizing w with
  | nil => exact hm
  | cons e batch ih =>
    have hid : e.id ∉ w.entityIds := fun he => (List.nodup_append.mp h).2.2 e.id he e.id (by simp) rfl
    exact ih (nodup_link h) (mirrored_link h.of_append_left hm hid (hself e List.mem_cons_self))
      fun x hx => hself x (List.mem_cons_of_mem _ hx)

lemma childless_foldl_link (hn : (w.entityIds ++ batch.map (·.id)).Nodup) :
    (batch.foldl link w).entities.map (fun e => { e with children := [] }) =
      (w.entities ++ batch).map fun e => { e with children := [] } := by
  induction batch generalizing w with
  | nil => simp
  | cons e batch ih =>
    rw [List.foldl_cons, ih (nodup_link hn), entities_link hn.of_append_left]
    simp only [List.map_append, List.map_map, List.map_cons, List.append_assoc, List.cons_append,
      List.nil_append]
    congr 1
    refine List.map_congr_left fun q _ => ?_
    simp only [Function.comp_apply]
    split <;> rfl

lemma foldl_link_eq (w : World) (batch : List Entity) :
    batch.foldl link w = { w with entities := (batch.foldl link w).entities } := by
  induction batch generalizing w with
  | nil => rfl
  | cons e batch ih =>
    have hlink : w.link e = { w with entities := (w.link e).entities } := by
      rw [link_eq, enter]
      cases e.parent <;> rfl
    rw [List.foldl_cons, ih, hlink]

end Batches

lemma up_parentWith? {w : World} {batch : List Entity} (hn : (w.entityIds ++ batch.map (·.id)).Nodup) :
    Up (w.parentWith? batch) = (batch.foldl link w).Under := by
  obtain ⟨hw, hd, hapart⟩ := List.nodup_append.mp hn
  funext a b
  apply propext
  rw [under_foldl_link hn, Up, parentWith?]
  cases hf : batch.find? (·.id == a) with
  | some e =>
    obtain ⟨he, hid⟩ := (find?_id_iff hd).mp hf
    constructor
    · exact fun hp => Or.inr ⟨e, he, hid, hp⟩
    · rintro (hab | ⟨x, hx, rfl, hp⟩)
      · exact (hapart a (mem_of_under hab) e.id (List.mem_map_of_mem he) hid.symm).elim
      · rw [(find?_id_iff hd).mpr ⟨hx, rfl⟩] at hf
        exact Option.some.inj hf ▸ hp
  | none =>
    have hnone : ¬∃ e ∈ batch, e.id = a ∧ e.parent = some b := by
      rintro ⟨e, he, hid, _⟩
      exact List.find?_eq_none.mp hf e he (by simpa using hid)
    rw [under_eq_up hw, or_iff_left hnone, Up]

section Removal

variable {w : World} {id : String}

lemma mem_without {q : Entity} :
    q ∈ (w.without id).entities ↔ ∃ x ∈ w.entities, x.id ≠ id ∧ orphan id x = q := by
  simp [without, and_assoc]

lemma under_without (a b : String) : (w.without id).Under a b ↔ w.Under a b ∧ a ≠ id ∧ b ≠ id := by
  constructor
  · rintro ⟨q, hq, rfl, hp⟩
    obtain ⟨x, hx, hne, rfl⟩ := mem_without.mp hq
    by_cases hid : x.parent = some id
    · simp [hid] at hp
    · simp only [orphan_parent, if_neg hid] at hp
      exact ⟨⟨x, hx, rfl, hp⟩, hne, fun hb => hid (hb ▸ hp)⟩
  · rintro ⟨⟨x, hx, rfl, hp⟩, hne, hb⟩
    exact ⟨orphan id x, mem_without.mpr ⟨x, hx, hne, rfl⟩, rfl, by simp [hp, hb]⟩

lemma ids_without_sublist : (w.without id).ids.Sublist w.ids := by
  have hids : (w.without id).entityIds.Sublist w.entityIds := by
    rw [entityIds, without, map_id_of_keeps (orphan_id id)]
    exact List.filter_sublist.map _
  rw [ids_eq, ids_eq w]
  exact hids.append (List.Sublist.refl _)

lemma mirrored_without (hm : w.Mirrored) : (w.without id).Mirrored := by
  intro q hq
  obtain ⟨x, hx, hne, rfl⟩ := mem_without.mp hq
  obtain ⟨hnd, hc⟩ := hm x hx
  refine ⟨hnd.filter _, fun a => ?_⟩
  simp [under_without, hc, hne]

end Removal

section Reparenting

variable {w : World} {child : String} {parent : Option String}

lemma under_reparented (a b : String) :
    (w.reparented child parent).Under a b ↔
      a ≠ child ∧ w.Under a b ∨ a = child ∧ child ∈ w.entityIds ∧ parent = some b := by
  constructor
  · rintro ⟨q, hq, rfl, hp⟩
    obtain ⟨x, hx, rfl⟩ := List.mem_map.mp hq
    by_cases hc : x.id = child
    · simp only [reparent, if_pos hc] at hp
      exact Or.inr ⟨hc, mem_entityIds.mpr ⟨x, hx, hc⟩, hp⟩
    · simp only [reparent, if_neg hc] at hp
      exact Or.inl ⟨hc, x, hx, rfl, hp⟩
  · rintro (⟨hc, x, hx, rfl, hp⟩ | ⟨rfl, hc, hp⟩)
    · exact ⟨_, List.mem_map_of_mem hx, rfl, by simp [reparent, hc, hp]⟩
    · obtain ⟨x, hx, rfl⟩ := mem_entityIds.mp hc
      exact ⟨_, List.mem_map_of_mem hx, rfl, by simp [reparent, hp]⟩

lemma mirrored_reparented (hm : w.Mirrored) (hchild : child ∈ w.entityIds) :
    (w.reparented child parent).Mirrored := by
  intro q hq
  obtain ⟨x, hx, rfl⟩ := List.mem_map.mp hq
  obtain ⟨hnd, hc⟩ := hm x hx
  constructor
  · refine List.nodup_append.mpr ⟨hnd.filter _, by split <;> simp, ?_⟩
    rintro a ha b hb rfl
    obtain rfl : a = child := by split at hb <;> simp_all
    simp at ha
  · intro a
    rw [under_reparented]
    by_cases ha : a = child
    · subst ha
      simp [reparent, hchild]
    · simp [reparent, hc, ha]

end Reparenting

lemma mirrored_rebuildChildren {w : World} (hn : w.entityIds.Nodup) : w.rebuildChildren.Mirrored := by
  rw [rebuildChildren_eq hn]
  have hu := under_map (w := w) (f := fun q => { q with children := w.childrenOf q.id }) (fun _ => rfl)
    fun _ => rfl
  intro q hq
  obtain ⟨e, he, rfl⟩ := List.mem_map.mp hq
  rw [hu]
  exact ⟨hn.sublist (List.filter_sublist.map _), fun id => mem_childrenOf⟩

end Diorama.World
