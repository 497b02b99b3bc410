import Diorama.Proofs.Hierarchy.Success

/-! Worlds whose identifiers are distinct and whose hierarchy is consistent. Every edit of a consistent world
leaves a consistent one, so every run of edits from an empty world does. -/

namespace Diorama

open Relation Ancestry

namespace World

structure Consistent (w : World) : Prop where
  distinct : w.ids.Nodup
  rooted : ∀ e ∈ w.entities, ∀ up, e.parent = some up → ∃ q ∈ w.entities, q.id = up
  acyclic : ∀ id, ¬TransGen w.Under id id
  mirrored : w.Mirrored

lemma Consistent.mem_of_under {w : World} (h : w.Consistent) {a b : String} (hab : w.Under a b) :
    b ∈ w.entityIds := by
  obtain ⟨e, he, _, hp⟩ := hab
  exact mem_entityIds.mpr (h.rooted e he b hp)

lemma consistent_iff {w : World} : w.Consistent ↔ w.ids.Nodup ∧ (∀ a b, w.Under a b → b ∈ w.entityIds) ∧
    (∀ id, ¬TransGen w.Under id id) ∧ w.Mirrored := by
  constructor
  · exact fun h => ⟨h.distinct, fun _ _ => h.mem_of_under, h.acyclic, h.mirrored⟩
  · rintro ⟨hd, hr, ha, hm⟩
    exact ⟨hd, fun e he up hp => mem_entityIds.mp (hr e.id up ⟨e, he, rfl, hp⟩), ha, hm⟩

lemma Consistent.map {w : World} (h : w.Consistent) {f : Entity → Entity} (hid : ∀ e, (f e).id = e.id)
    (hp : ∀ e, (f e).parent = e.parent)
    (hm : ({ w with entities := w.entities.map f } : World).Mirrored) :
    ({ w with entities := w.entities.map f } : World).Consistent := by
  rw [consistent_iff, under_map hid hp, ids_map hid]
  refine ⟨h.distinct, fun a b hab => ?_, h.acyclic, hm⟩
  rw [entityIds, map_id_of_keeps hid]
  exact h.mem_of_under hab

lemma Consistent.of_entities {w w' : World} (h : w.Consistent) (he : w'.entities = w.entities)
    (hd : w'.ids.Nodup) : w'.Consistent := by
  have hu : w'.Under = w.Under := by
    funext a b
    simp only [Under, he]
  refine ⟨hd, ?_, hu ▸ h.acyclic, ?_⟩
  · rw [he]
    exact h.rooted
  · rw [Mirrored, he, hu]
    exact h.mirrored

lemma Consistent.foldl_link {w : World} (h : w.Consistent) {batch : List Entity}
    (hfresh : ∀ e ∈ batch, e.id ∉ w.ids) (hd : (batch.map (·.id)).Nodup)
    (hup : ∀ e ∈ batch, ∀ up, e.parent = some up → up ∈ batch.map (·.id) ∨ up ∈ w.entityIds)
    (hcycle : ∀ e ∈ batch, ¬TransGen (batch.foldl link w).Under e.id e.id) :
    (batch.foldl link w).Consistent := by
  have hn := nodup_batch h.distinct hfresh hd
  have hu := under_foldl_link hn
  refine consistent_iff.mpr ⟨?_, ?_, ?_, ?_⟩
  · rw [(ids_foldl_link hn).nodup_iff]
    refine List.nodup_append.mpr ⟨hd, h.distinct, ?_⟩
    rintro a ha b hb rfl
    obtain ⟨e, he, rfl⟩ := List.mem_map.mp ha
    exact hfresh e he hb
  · intro a b hab
    rw [entityIds_foldl_link hn, List.mem_append]
    rcases (hu a b).mp hab with hab | ⟨e, he, _, hp⟩
    · exact Or.inl (h.mem_of_under hab)
    · exact (hup e he b hp).symm
  · refine acyclic_of_new (N := fun a => ∃ e ∈ batch, e.id = a) ?_ h.acyclic ?_
    · intro a b hab
      exact ((hu a b).mp hab).imp id fun ⟨e, he, hid, _⟩ => ⟨e, he, hid⟩
    · rintro a ⟨e, he, rfl⟩
      exact hcycle e he
  · refine mirrored_foldl_link hn h.mirrored fun e he hp => hcycle e he ?_
    exact .single ((hu e.id e.id).mpr (Or.inr ⟨e, he, rfl, hp⟩))

lemma Consistent.addEntity {w w' : World} (h : w.Consistent) {e : Entity} (ha : w.addEntity e = .ok w') :
    w'.Consistent := by
  obtain ⟨hid, hup, rfl⟩ := addEntity_eq_ok_iff.mp ha
  have hn := nodup_entityIds h.distinct
  have hid' : e.id ∉ w.entityIds := fun he => hid (ids_eq w ▸ List.mem_append_left _ he)
  change ([e].foldl link w).Consistent
  refine h.foldl_link (by simpa using hid) (List.nodup_singleton _)
    (by simpa using fun up hp => Or.inr (hup up hp).2) ?_
  -- A way back to the new entity would end with an entity that names it.
  simp only [List.mem_singleton, forall_eq, List.foldl_cons, List.foldl_nil]
  intro hc
  obtain ⟨a, _, hae⟩ := TransGen.tail'_iff.mp hc
  rcases (under_link hn e a e.id).mp hae with hae | ⟨_, hp⟩
  · exact hid' (h.mem_of_under hae)
  · exact hid' (hup e.id hp).2

lemma addEntities_eq_ok_iff_acyclic {w w' : World} (hd : w.ids.Nodup) {batch : List Entity} :
    w.addEntities batch = .ok w' ↔ (∀ e ∈ batch, e.id ∉ w.ids) ∧ (batch.map (·.id)).Nodup ∧
      (∀ e ∈ batch, ∀ up, e.parent = some up → up ∈ batch.map (·.id) ∨ up ∈ w.entityIds) ∧
      (∀ e ∈ batch, ¬TransGen (batch.foldl link w).Under e.id e.id) ∧ w' = batch.foldl link w := by
  rw [addEntities_eq_ok_iff]
  refine and_congr_right fun hfresh => and_congr_right fun hnew => ?_
  have hn := nodup_batch hd hfresh hnew
  rw [up_parentWith? hn, ← and_assoc]
  refine and_congr_left fun _ => ⟨fun h => ⟨fun e he up hp => (h e he up hp).1, fun e he hc => ?_⟩,
    fun h e he up hp => ⟨h.1 e he up hp, fun hway => h.2 e he ?_⟩⟩
  · obtain ⟨up, hfirst, hrest⟩ := TransGen.head'_iff.mp hc
    have hp : e.parent = some up := by
      rw [← up_parentWith? hn, Up, parentWith?, (find?_id_iff hnew).mpr ⟨he, rfl⟩] at hfirst
      exact hfirst
    exact (h e he up hp).2 hrest
  · exact .head' ((under_foldl_link hn e.id up).mpr (Or.inr ⟨e, he, rfl, hp⟩)) hway

lemma Consistent.addEntities {w w' : World} (h : w.Consistent) {batch : List Entity}
    (ha : w.addEntities batch = .ok w') : w'.Consistent := by
  obtain ⟨hfresh, hd, hup, hcycle, rfl⟩ := (addEntities_eq_ok_iff_acyclic h.distinct).mp ha
  exact h.foldl_link hfresh hd hup hcycle

lemma Consistent.removeEntity {w w' : World} (h : w.Consistent) {id : String} {e : Entity}
    (hr : w.removeEntity id = .ok (e, w')) : w'.Consistent := by
  obtain ⟨_, rfl⟩ := (removeEntity_eq_ok_iff (nodup_entityIds h.distinct)).mp hr
  refine consistent_iff.mpr ⟨h.distinct.sublist ids_without_sublist, ?_, ?_, mirrored_without h.mirrored⟩
  · intro a b hab
    obtain ⟨hab, _, hb⟩ := (under_without a b).mp hab
    obtain ⟨q, hq, rfl⟩ := mem_entityIds.mp (h.mem_of_under hab)
    exact mem_entityIds.mpr ⟨_, mem_without.mpr ⟨q, hq, hb, rfl⟩, rfl⟩
  · intro a hc
    exact h.acyclic a (TransGen.mono (fun _ _ hab => ((under_without _ _).mp hab).1) a a hc)

lemma Consistent.setParent {w w' : World} (h : w.Consistent) {child : String} {parent : Option String}
    (hs : w.setParent child parent = .ok w') : w'.Consistent := by
  have hn := nodup_entityIds h.distinct
  obtain ⟨hchild, hup, rfl⟩ := (setParent_eq_ok_iff hn).mp hs
  have hids : (w.reparented child parent).entityIds = w.entityIds :=
    map_id_of_keeps (reparent_id child parent) w.entities
  have hold : ∀ a b, a ≠ child → (w.reparented child parent).Under a b → w.Under a b := by
    intro a b ha hab
    rcases (under_reparented a b).mp hab with hab | ⟨ha', _⟩
    · exact hab.2
    · exact (ha ha').elim
  refine consistent_iff.mpr ⟨?_, ?_, ?_, mirrored_reparented h.mirrored hchild⟩
  · rw [reparented, ids_map (reparent_id child parent)]
    exact h.distinct
  · intro a b hab
    rw [hids]
    rcases (under_reparented a b).mp hab with hab | ⟨_, _, hp⟩
    · exact h.mem_of_under hab.2
    · exact (hup b hp).1
  · refine acyclic_of_new (N := fun a => a = child) ?_ h.acyclic ?_
    · intro a b hab
      by_cases ha : a = child
      · exact Or.inr ha
      · exact Or.inl (hold a b ha hab)
    · -- A cycle through the moved entity would be a way from its new parent to it that was there before.
      rintro _ rfl hc
      obtain ⟨up, hfirst, hrest⟩ := TransGen.head'_iff.mp hc
      rcases (under_reparented _ up).mp hfirst with hfirst | ⟨_, _, hp⟩
      · exact hfirst.1 rfl
      · have hway := reflTransGen_before hold hrest
        rw [under_eq_up hn] at hway
        have hno := (hup up hp).2
        rw [reaches_iff.mpr hway] at hno
        cases hno

lemma Consistent.setTransform {w w' : World} (h : w.Consistent) {id : String} {t : Transform}
    (hs : w.setTransform id t = .ok w') : w'.Consistent := by
  obtain ⟨_, rfl⟩ := setTransform_eq_ok_iff.mp hs
  rw [updateEntity, updateFirst_eq_map (nodup_entityIds h.distinct)]
  have hid : ∀ e : Entity, (if e.id = id then { e with transform := t } else e).id = e.id := by
    intro e
    split <;> rfl
  have hp : ∀ e : Entity, (if e.id = id then { e with transform := t } else e).parent = e.parent := by
    intro e
    split <;> rfl
  refine h.map hid hp (mirrored_map hid hp (fun e => ?_) h.mirrored)
  split <;> rfl

lemma Consistent.rebuildChildren {w : World} (h : w.Consistent) : w.rebuildChildren.Consistent := by
  have hn := nodup_entityIds h.distinct
  have hm := mirrored_rebuildChildren hn
  rw [rebuildChildren_eq hn] at hm ⊢
  exact h.map (fun _ => rfl) (fun _ => rfl) hm

lemma Consistent.addLight {w w' : World} (h : w.Consistent) {l : Light} (ha : w.addLight l = .ok w') :
    w'.Consistent := by
  obtain ⟨hid, rfl⟩ := addLight_eq_ok_iff.mp ha
  refine h.of_entities rfl ?_
  have hp : ((w.entityIds ++ w.lights.map (·.id)) ++ l.id :: w.mechanisms.map (·.id)).Perm (l.id :: w.ids) :=
    List.perm_middle
  have hd := hp.nodup_iff.mpr (List.nodup_cons.mpr ⟨hid, h.distinct⟩)
  simpa [ids, entityIds] using hd

lemma Consistent.addMechanism {w w' : World} (h : w.Consistent) {m : Mechanism}
    (ha : w.addMechanism m = .ok w') : w'.Consistent := by
  obtain ⟨hid, rfl⟩ := addMechanism_eq_ok_iff.mp ha
  refine h.of_entities rfl ?_
  have hp : (w.ids ++ [m.id]).Perm (m.id :: w.ids) := List.perm_append_singleton m.id w.ids
  have hd := hp.nodup_iff.mpr (List.nodup_cons.mpr ⟨hid, h.distinct⟩)
  simpa [ids] using hd

lemma consistent_empty (info : WorldInfo) : World.Consistent { metadata := info } := by
  refine consistent_iff.mpr ⟨by simp [ids], ?_, ?_, by simp [Mirrored]⟩
  · rintro a b ⟨e, he, _⟩
    simp at he
  · intro id hc
    obtain ⟨a, ⟨e, he, _⟩, _⟩ := TransGen.head'_iff.mp hc
    simp at he

end World

inductive Edit where
  | addEntity (e : Entity)
  | addEntities (batch : List Entity)
  | addLight (l : Light)
  | addMechanism (m : Mechanism)
  | removeEntity (id : String)
  | setParent (child : String) (parent : Option String)
  | setTransform (id : String) (t : Transform)
  | setBounds (b : Box)
  | rebuildChildren

namespace Edit

def outcome (w : World) : Edit → Except WorldError World
  | .addEntity e => w.addEntity e
  | .addEntities batch => w.addEntities batch
  | .addLight l => w.addLight l
  | .addMechanism m => w.addMechanism m
  | .removeEntity id => (w.removeEntity id).map (·.2)
  | .setParent child parent => w.setParent child parent
  | .setTransform id t => w.setTransform id t
  | .setBounds b => .ok { w with bounds := b }
  | .rebuildChildren => .ok w.rebuildChildren

def apply (w : World) (edit : Edit) : World :=
  match edit.outcome w with
  | .ok w' => w'
  | .error _ => w

end Edit

namespace World

def edited (w : World) (edits : List Edit) : World := edits.foldl Edit.apply w

lemma Consistent.outcome {w w' : World} (h : w.Consistent) {edit : Edit} (ha : edit.outcome w = .ok w') :
    w'.Consistent := by
  cases edit with
  | addEntity e => exact h.addEntity ha
  | addEntities batch => exact h.addEntities ha
  | addLight l => exact h.addLight ha
  | addMechanism m => exact h.addMechanism ha
  | removeEntity id =>
    cases hr : w.removeEntity id with
    | error e => simp [Edit.outcome, hr, Except.map] at ha
    | ok r =>
      obtain rfl : r.2 = w' := by simpa [Edit.outcome, hr, Except.map] using ha
      exact h.removeEntity hr
  | setParent child parent => exact h.setParent ha
  | setTransform id t => exact h.setTransform ha
  | setBounds b =>
    obtain rfl := ok_eq_ok_iff.mp ha
    exact h.of_entities rfl h.distinct
  | rebuildChildren =>
    obtain rfl := ok_eq_ok_iff.mp ha
    exact h.rebuildChildren

lemma Consistent.apply {w : World} (h : w.Consistent) (edit : Edit) : (edit.apply w).Consistent := by
  unfold Edit.apply
  cases ha : edit.outcome w with
  | ok w' => exact h.outcome ha
  | error e => exact h

lemma Consistent.edited {w : World} (h : w.Consistent) (edits : List Edit) : (w.edited edits).Consistent := by
  induction edits generalizing w with
  | nil => exact h
  | cons edit edits ih => exact ih (h.apply edit)

theorem edited_empty_consistent (info : WorldInfo) (edits : List Edit) :
    (World.edited { metadata := info } edits).Consistent :=
  (consistent_empty info).edited edits

end World

end Diorama
