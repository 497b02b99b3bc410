import Diorama.Proofs.Drafts.Identifiers
import Diorama.Proofs.Hierarchy.Consistency

/-! When a draft is put together. A supply of identifiers that the draft does not use stands between no two parts, so
a draft is put together exactly if its given identifiers are distinct and its parents are given and form no cycle. -/

namespace Diorama

open Relation

namespace WorldDraft

def Under (d : WorldDraft) (a b : String) : Prop :=
  ∃ e ∈ d.entities, present? e.id = some a ∧ present? e.parent = some b

structure Coherent (d : WorldDraft) : Prop where
  distinct : d.givenIds.Nodup
  rooted : ∀ e ∈ d.entities, ∀ up, present? e.parent = some up → ∃ q ∈ d.entities, present? q.id = some up
  acyclic : ∀ id, ¬TransGen d.Under id id

variable (d : WorldDraft) (fresh : Nat → String) (prompt : String) (mood : Option String)

def empty : World where
  metadata := d.metadata.assemble prompt
  environment := d.environment.assemble mood

def peopled : World := (d.assembleEntities fresh).foldl World.link (d.empty prompt mood)

def shining : List Light := if d.lights = [] then [sun (fresh d.partCount)] else d.assembleLights fresh

def world : World :=
  (((d.peopled fresh prompt mood).lit (d.shining fresh)).driven (d.assembleMechanisms fresh)).refreshBounds

def ids : List String :=
  (d.assembleEntities fresh).map (·.id) ++ (d.shining fresh).map (·.id) ++ (d.assembleMechanisms fresh).map (·.id)

variable {d fresh prompt mood}

lemma ids_perm_of_unlit (h : d.lights = []) : (d.ids fresh).Perm (fresh d.partCount :: filled fresh d.given) := by
  have hnone : d.assembleLights fresh = [] := by simp [assembleLights, h]
  rw [ids, shining, if_pos h, filled_given, hnone, List.map_singleton, List.map_nil, List.append_nil,
    List.append_assoc, List.singleton_append]
  exact List.perm_middle

lemma ids_eq_of_lit (h : d.lights ≠ []) : d.ids fresh = filled fresh d.given := by
  rw [ids, shining, if_neg h, filled_given]

lemma nodup_of_ids (h : (d.ids fresh).Nodup) : ((d.assembleEntities fresh).map (·.id)).Nodup := by
  rw [ids, List.append_assoc] at h
  exact h.of_append_left

lemma Supplied.nodup_ids_iff (h : d.Supplied fresh) : (d.ids fresh).Nodup ↔ d.givenIds.Nodup := by
  by_cases hl : d.lights = []
  · rw [(ids_perm_of_unlit hl).nodup_iff, List.nodup_cons, h.nodup_filled_iff]
    exact and_iff_right h.last_notMem
  · rw [ids_eq_of_lit hl, h.nodup_filled_iff]

variable (d fresh prompt mood) in
lemma peopled_eq : d.peopled fresh prompt mood =
    { d.empty prompt mood with entities := (d.peopled fresh prompt mood).entities } := World.foldl_link_eq _ _

variable (prompt mood) in
lemma entityIds_peopled (h : ((d.assembleEntities fresh).map (·.id)).Nodup) :
    (d.peopled fresh prompt mood).entityIds = (d.assembleEntities fresh).map (·.id) :=
  World.entityIds_foldl_link h

variable (prompt mood) in
lemma ids_peopled (h : ((d.assembleEntities fresh).map (·.id)).Nodup) :
    (d.peopled fresh prompt mood).ids = (d.assembleEntities fresh).map (·.id) := by
  rw [World.ids_eq, entityIds_peopled prompt mood h, peopled_eq]
  simp [empty]

variable (d fresh prompt mood) in
lemma nodup_ids_iff : (d.ids fresh).Nodup ↔ ((d.assembleEntities fresh).map (·.id)).Nodup ∧
    (∀ l ∈ d.assembleLights fresh, l.id ∉ (d.peopled fresh prompt mood).ids) ∧
    ((d.assembleLights fresh).map (·.id)).Nodup ∧
    (∀ m ∈ d.assembleMechanisms fresh, m.id ∉ ((d.peopled fresh prompt mood).lit (d.assembleLights fresh)).ids) ∧
    ((d.assembleMechanisms fresh).map (·.id)).Nodup ∧
    (d.lights = [] → fresh d.partCount ∉ (((d.peopled fresh prompt mood).lit (d.assembleLights fresh)).driven
      (d.assembleMechanisms fresh)).ids) := by
  have hfilled : (filled fresh d.given).Nodup ↔ (((d.assembleEntities fresh).map (·.id)).Nodup ∧
      (∀ l ∈ d.assembleLights fresh, l.id ∉ (d.assembleEntities fresh).map (·.id)) ∧
      ((d.assembleLights fresh).map (·.id)).Nodup) ∧ (∀ m ∈ d.assembleMechanisms fresh,
        m.id ∉ (d.assembleEntities fresh).map (·.id) ++ (d.assembleLights fresh).map (·.id)) ∧
      ((d.assembleMechanisms fresh).map (·.id)).Nodup := by
    rw [filled_given, World.nodup_append_map_iff, World.nodup_append_map_iff]
  by_cases hE : ((d.assembleEntities fresh).map (·.id)).Nodup
  · have hmechanisms : (d.peopled fresh prompt mood).mechanisms = [] := by
      rw [peopled_eq]
      rfl
    rw [World.ids_driven, World.ids_lit hmechanisms, ids_peopled prompt mood hE, ← filled_given]
    by_cases hl : d.lights = []
    · rw [(ids_perm_of_unlit hl).nodup_iff, List.nodup_cons]
      tauto
    · rw [ids_eq_of_lit hl]
      tauto
  · exact iff_of_false (fun h => hE (nodup_of_ids h)) fun h => hE h.1

lemma addSun_eq_ok_iff {p v : World} (hp : p.lights = []) {mechanisms : List Mechanism} :
    (if ((p.lit (d.assembleLights fresh)).driven mechanisms).lights.isEmpty then
      ((p.lit (d.assembleLights fresh)).driven mechanisms).addLight (sun (fresh d.partCount))
      else pure ((p.lit (d.assembleLights fresh)).driven mechanisms)) = .ok v ↔
    (d.lights = [] → fresh d.partCount ∉ ((p.lit (d.assembleLights fresh)).driven mechanisms).ids) ∧
      v = (p.lit (d.shining fresh)).driven mechanisms := by
  have hlights : ((p.lit (d.assembleLights fresh)).driven mechanisms).lights = d.assembleLights fresh := by
    simp [World.driven, World.lit, hp]
  rw [hlights, shining]
  by_cases hl : d.lights = []
  · have hnone : d.assembleLights fresh = [] := by simp [assembleLights, hl]
    simp only [hl, hnone, List.isEmpty_nil, if_true, World.addLight_eq_ok_iff, true_implies]
    simp [World.driven, World.lit, hp, sun]
  · have hsome : (d.assembleLights fresh).isEmpty = false := by simpa [assembleLights] using hl
    simp [hl, hsome, World.pure_eq_ok_iff]

lemma assemble_eq_ok_iff {w : World} : d.assemble fresh prompt mood = .ok w ↔ (d.ids fresh).Nodup ∧
    (∀ e ∈ d.assembleEntities fresh, ∀ up, e.parent = some up → up ∈ (d.assembleEntities fresh).map (·.id)) ∧
    (∀ e ∈ d.assembleEntities fresh, ¬TransGen (d.peopled fresh prompt mood).Under e.id e.id) ∧
    w = d.world fresh prompt mood := by
  have hempty : (d.empty prompt mood).ids.Nodup := List.nodup_nil
  have hlights : (d.peopled fresh prompt mood).lights = [] := by
    rw [peopled_eq]
    rfl
  have hdo : d.assemble fresh prompt mood = (d.empty prompt mood).addEntities (d.assembleEntities fresh) >>= fun p =>
      (d.assembleLights fresh).foldlM World.addLight p >>= fun l =>
        (d.assembleMechanisms fresh).foldlM World.addMechanism l >>= fun m =>
          (if m.lights.isEmpty then m.addLight (sun (fresh d.partCount)) else pure m) >>= fun v =>
            pure v.refreshBounds := by
    refine bind_congr fun p => bind_congr fun l => bind_congr fun m => ?_
    split <;> rfl
  have hrooted : ∀ up, (up ∈ (d.assembleEntities fresh).map (·.id) ∨ up ∈ (d.empty prompt mood).entityIds) ↔
      up ∈ (d.assembleEntities fresh).map (·.id) := fun up => or_iff_left List.not_mem_nil
  -- Each step asks that its parts are under identifiers that are not taken, which is that all are distinct.
  rw [hdo, nodup_ids_iff d fresh prompt mood]
  simp only [World.bind_eq_ok_iff, World.addEntities_eq_ok_iff_acyclic hempty, World.foldlM_addLight_eq_ok_iff,
    World.foldlM_addMechanism_eq_ok_iff, and_assoc, exists_and_left, exists_eq_left, World.pure_eq_ok_iff, hrooted,
    ← peopled.eq_1, addSun_eq_ok_iff hlights, world]
  have hids : ∀ e ∈ d.assembleEntities fresh, e.id ∉ (d.empty prompt mood).ids := fun _ _ => List.not_mem_nil
  tauto

lemma under_peopled (h : ((d.assembleEntities fresh).map (·.id)).Nodup) {a b : String} :
    (d.peopled fresh prompt mood).Under a b ↔ ∃ e ∈ d.assembleEntities fresh, e.id = a ∧ e.parent = some b := by
  refine (World.under_foldl_link (w := d.empty prompt mood) h a b).trans (or_iff_right ?_)
  rintro ⟨e, he, _⟩
  cases he

variable (prompt mood) in
lemma under_peopled_of_under (h : ((d.assembleEntities fresh).map (·.id)).Nodup) {a b : String} (hab : d.Under a b) :
    (d.peopled fresh prompt mood).Under a b := by
  obtain ⟨e, he, hid, hp⟩ := hab
  obtain ⟨k, hk, rfl⟩ := List.mem_iff_getElem.mp he
  refine (under_peopled h).mpr ⟨_, List.mem_mapIdx.mpr ⟨k, hk, rfl⟩, ?_, hp⟩
  simp [DraftEntity.assemble, hid]

lemma under_or_fresh (hE : ((d.assembleEntities fresh).map (·.id)).Nodup) {a b : String}
    (hab : (d.peopled fresh prompt mood).Under a b) : d.Under a b ∨ ∃ k ≤ d.partCount, fresh k = a := by
  obtain ⟨e, he, hid, hp⟩ := (under_peopled hE).mp hab
  obtain ⟨k, hk, rfl⟩ := List.mem_mapIdx.mp he
  cases hg : present? d.entities[k].id with
  | some x =>
    obtain rfl : x = a := by simpa [DraftEntity.assemble, hg] using hid
    exact Or.inl ⟨_, List.getElem_mem hk, hg, hp⟩
  | none =>
    refine Or.inr ⟨k, ?_, by simpa [DraftEntity.assemble, hg] using hid⟩
    rw [partCount]
    omega

namespace Supplied

variable (h : d.Supplied fresh)

include h

lemma ne_of_under (hE : ((d.assembleEntities fresh).map (·.id)).Nodup) {a b : String}
    (hab : (d.peopled fresh prompt mood).Under a b) {k : Nat} (hk : k ≤ d.partCount) : fresh k ≠ b := by
  rintro rfl
  obtain ⟨e, he, _, hp⟩ := (under_peopled hE).mp hab
  obtain ⟨i, hi, rfl⟩ := List.mem_mapIdx.mp he
  exact h.unnamed k hk _ (List.getElem_mem hi) hp

lemma rooted_iff : (∀ e ∈ d.assembleEntities fresh, ∀ up, e.parent = some up →
    up ∈ (d.assembleEntities fresh).map (·.id)) ↔
      ∀ e ∈ d.entities, ∀ up, present? e.parent = some up → ∃ q ∈ d.entities, present? q.id = some up := by
  rw [map_id_assembleEntities]
  constructor
  · intro hr e he up hp
    obtain ⟨k, hk, rfl⟩ := List.mem_iff_getElem.mp he
    rcases of_mem_filled (hr _ (List.mem_mapIdx.mpr ⟨k, hk, rfl⟩) up hp) with hm | ⟨j, hj, rfl⟩
    · exact List.mem_map.mp hm
    · rw [List.length_map] at hj
      refine (h.unnamed j ?_ _ he hp).elim
      rw [partCount]
      omega
  · intro hr e he up hp
    obtain ⟨k, hk, rfl⟩ := List.mem_mapIdx.mp he
    exact mem_filled_of_some (List.mem_map.mpr (hr _ (List.getElem_mem hk) up hp))

lemma acyclic_iff (hE : ((d.assembleEntities fresh).map (·.id)).Nodup) :
    (∀ e ∈ d.assembleEntities fresh, ¬TransGen (d.peopled fresh prompt mood).Under e.id e.id) ↔
      ∀ id, ¬TransGen d.Under id id := by
  constructor
  · intro ha id hc
    have hc' := TransGen.mono (fun _ _ => under_peopled_of_under prompt mood hE) _ _ hc
    obtain ⟨_, hfirst, _⟩ := TransGen.head'_iff.mp hc'
    obtain ⟨e, he, rfl, _⟩ := (under_peopled hE).mp hfirst
    exact ha e he hc'
  · intro ha e _
    refine Ancestry.acyclic_of_new (R := d.Under) (fun _ _ => under_or_fresh hE) ha ?_ e.id
    -- Nothing names an identifier of the supply, so no way leads to one.
    rintro a ⟨k, hk, rfl⟩ hc
    obtain ⟨_, _, hlast⟩ := TransGen.tail'_iff.mp hc
    exact h.ne_of_under hE hlast hk rfl

lemma assemble_eq_ok_iff {w : World} :
    d.assemble fresh prompt mood = .ok w ↔ d.Coherent ∧ w = d.world fresh prompt mood := by
  have hE : d.givenIds.Nodup → ((d.assembleEntities fresh).map (·.id)).Nodup :=
    fun hd => nodup_of_ids (h.nodup_ids_iff.mpr hd)
  rw [WorldDraft.assemble_eq_ok_iff, h.nodup_ids_iff, h.rooted_iff]
  constructor
  · rintro ⟨hd, hr, ha, hw⟩
    exact ⟨⟨hd, hr, (h.acyclic_iff (hE hd)).mp ha⟩, hw⟩
  · rintro ⟨⟨hd, hr, ha⟩, hw⟩
    exact ⟨hd, hr, (h.acyclic_iff (hE hd)).mpr ha, hw⟩

end Supplied

end WorldDraft

end Diorama
