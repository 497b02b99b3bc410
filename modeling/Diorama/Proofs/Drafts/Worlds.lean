import Diorama.Proofs.Drafts.Assembly
import Diorama.Proofs.Validation.Codes
import Mathlib.Data.List.DropRight

/-! The worlds of drafts. A world that is put together from a draft has the parts of it in order and under the given
identifiers. It is consistent and everything in it is named, so that the standard rules find nothing wrong in it
but numbers, targets of mechanisms, and the version. -/

namespace Diorama

open Relation

namespace DraftInfo

lemma visible_promptTitle (prompt : String) : Text.Visible (promptTitle prompt) := by
  unfold promptTitle
  generalize hs : (Text.trimChars prompt.toList).take titleLength = start
  cases start with
  | nil => exact ⟨'N', by decide, by decide⟩
  | cons c rest =>
    -- The first character of what is left of a trimmed text is the first that is not blank.
    have hprefix : c :: rest <+: prompt.toList.dropWhile Text.isBlank :=
      hs ▸ (List.take_prefix _ _).trans (List.rdropWhile_prefix ..)
    obtain ⟨after, hafter⟩ := hprefix
    have hhead := List.head?_dropWhile_not Text.isBlank prompt.toList
    rw [← hafter] at hhead
    exact ⟨c, by simp, by simpa using hhead⟩

end DraftInfo

inductive Reads (other : String) : Option String → String → Prop
  | missing : Reads other none other
  | blank (x : String) (h : ¬Text.Visible x) : Reads other (some x) other
  | given (x : String) (h : Text.Visible x) : Reads other (some x) x

lemma reads_getD_present? (other : String) (text : Option String) : Reads other text ((present? text).getD other) := by
  cases text with
  | none => exact .missing
  | some x =>
    by_cases hx : Text.Visible x
    · rw [present?_eq_some_iff.mpr ⟨rfl, hx⟩]
      exact .given x hx
    · have hnone : present? (some x) = none :=
        Option.eq_none_iff_forall_ne_some.mpr fun y hy => by
          obtain ⟨hxy, hvisible⟩ := present?_eq_some_iff.mp hy
          exact hx (Option.some.inj hxy ▸ hvisible)
      rw [hnone]
      exact .blank x hx

inductive Points (other : Vec3) : Option LooseVec3 → Vec3 → Prop
  | missing : Points other none other
  | array (v : Vec3) : Points other (some (.array v)) v
  | object (x y z : Option Scalar) :
    Points other (some (.object x y z)) ⟨x.getD other.x, y.getD other.y, z.getD other.z⟩

lemma points_fill (other : Vec3) (v : Option LooseVec3) : Points other v ((v.map (·.fill other)).getD other) := by
  rcases v with _ | v | ⟨x, y, z⟩
  · exact .missing
  · exact .array v
  · exact .object x y z

namespace DraftLight

structure Describes (d : DraftLight) (l : Light) : Prop where
  name : Reads "Light" d.name l.name
  kind : l.kind = d.kind.getD .point
  color : l.color = match d.color with
    | some c => ⟨c.r.getD 1, c.g.getD 1, c.b.getD 1, c.a.getD 1⟩
    | none => ⟨1, 1, 1, 1⟩
  intensity : l.intensity = d.intensity.getD 1
  range : l.range = d.range
  spotAngle : l.spotAngle = d.spotAngle
  castShadows : l.castShadows = d.castShadows.getD true
  position : Points ⟨0, 0, 0⟩ d.transform.position l.transform.position
  rotation : Points ⟨0, 0, 0⟩ d.transform.rotation l.transform.rotation
  scale : Points ⟨1, 1, 1⟩ d.transform.scale l.transform.scale

lemma describes_assemble (fresh : String) (d : DraftLight) : d.Describes (d.assemble fresh) where
  name := reads_getD_present? _ _
  kind := rfl
  color := by
    unfold assemble
    cases d.color <;> rfl
  intensity := rfl
  range := rfl
  spotAngle := rfl
  castShadows := rfl
  position := points_fill _ _
  rotation := points_fill _ _
  scale := points_fill _ _

end DraftLight

namespace WorldDraft

structure Makes (d : WorldDraft) (fresh : Nat → String) (w : World) : Prop where
  entities : (w.entities.map fun e => { e with children := [] }) = d.assembleEntities fresh
  lit : d.lights ≠ [] → List.Forall₂ DraftLight.Describes d.lights w.lights
  sunlit : d.lights = [] → w.lights = [{
    id := fresh d.partCount
    name := "Sun"
    kind := .directional
    color := ⟨1, 0.95, 0.9, 1⟩
    intensity := 1
    range := none
    spotAngle := none
    castShadows := true
    transform := ⟨⟨0, 0, 0⟩, ⟨50, -30, 0⟩, ⟨1, 1, 1⟩⟩ }]
  mechanisms : w.mechanisms = d.assembleMechanisms fresh
  entityIds : List.Forall₂ Serves (d.entities.map (·.id)) (w.entities.map (·.id))
  lightIds : d.lights ≠ [] → List.Forall₂ Serves (d.lights.map (·.id)) (w.lights.map (·.id))
  mechanismIds : List.Forall₂ Serves (d.mechanisms.map (·.id)) (w.mechanisms.map (·.id))
  consistent : w.Consistent
  bounds : w.bounds = w.extent
  errors : (∀ k ≤ d.partCount, Text.Visible (fresh k)) →
    ∀ i ∈ (Validator.standard.validate w).issues, i.isError = true →
      i.code = .outOfRange ∨ i.code = .danglingReference ∨
        i.code = .missingField ∧ i.field = some "metadata.version"

variable {d : WorldDraft} {fresh : Nat → String} {prompt : String} {mood : Option String}

lemma describes_assembleLights (d : WorldDraft) (fresh : Nat → String) :
    List.Forall₂ DraftLight.Describes d.lights (d.assembleLights fresh) := by
  have hlength : d.lights.length = (d.assembleLights fresh).length := List.length_mapIdx.symm
  refine List.forall₂_iff_get.mpr ⟨hlength, fun i h h' => ?_⟩
  simp only [List.get_eq_getElem, assembleLights, List.getElem_mapIdx]
  exact DraftLight.describes_assemble _ _

variable (d fresh prompt mood) in
lemma parts_world : (d.world fresh prompt mood).metadata = d.metadata.assemble prompt ∧
    (d.world fresh prompt mood).lights = d.shining fresh ∧
    (d.world fresh prompt mood).mechanisms = d.assembleMechanisms fresh := by
  rw [world, peopled_eq]
  exact ⟨rfl, rfl, rfl⟩

section

variable (prompt mood) (hE : ((d.assembleEntities fresh).map (·.id)).Nodup)

include hE

lemma entityIds_world : (d.world fresh prompt mood).entityIds = (d.assembleEntities fresh).map (·.id) :=
  entityIds_peopled prompt mood hE

lemma ids_world : (d.world fresh prompt mood).ids = d.ids fresh := by
  obtain ⟨_, hlights, hmechanisms⟩ := parts_world d fresh prompt mood
  rw [World.ids_eq, entityIds_world prompt mood hE, hlights, hmechanisms, ids, List.append_assoc]

lemma childless_world : ((d.world fresh prompt mood).entities.map fun e => { e with children := [] }) =
    d.assembleEntities fresh := by
  have hempty : (d.assembleEntities fresh).map (fun e => { e with children := [] }) = d.assembleEntities fresh := by
    refine (List.map_congr_left fun e he => ?_).trans (List.map_id _)
    obtain ⟨k, hk, rfl⟩ := List.mem_mapIdx.mp he
    rfl
  exact (World.childless_foldl_link (w := d.empty prompt mood) hE).trans hempty

end

lemma visible_of_mem_given {x : String} (h : some x ∈ d.given) : Text.Visible x := by
  simp only [given, List.mem_append, List.mem_map] at h
  rcases h with (⟨_, _, hx⟩ | ⟨_, _, hx⟩) | ⟨_, _, hx⟩
  · exact (present?_eq_some_iff.mp hx).2
  · exact (present?_eq_some_iff.mp hx).2
  · exact (present?_eq_some_iff.mp hx).2

lemma visible_of_mem_ids (h : ∀ k ≤ d.partCount, Text.Visible (fresh k)) {x : String} (hx : x ∈ d.ids fresh) :
    Text.Visible x := by
  have hfilled : x ∈ filled fresh d.given → Text.Visible x := by
    intro hm
    rcases of_mem_filled hm with hm | ⟨k, hk, rfl⟩
    · exact visible_of_mem_given hm
    · rw [length_given] at hk
      exact h k (Nat.le_of_lt hk)
  by_cases hl : d.lights = []
  · rcases List.mem_cons.mp ((ids_perm_of_unlit hl).mem_iff.mp hx) with rfl | hm
    · exact h _ le_rfl
    · exact hfilled hm
  · exact hfilled (ids_eq_of_lit hl ▸ hx)

lemma visible_name (hE : ((d.assembleEntities fresh).map (·.id)).Nodup) :
    ∀ e ∈ (d.world fresh prompt mood).entities, Text.Visible e.name := by
  intro e he
  have hm : { e with children := [] } ∈ d.assembleEntities fresh :=
    childless_world prompt mood hE ▸ List.mem_map_of_mem he
  obtain ⟨k, hk, hname⟩ := List.mem_mapIdx.mp hm
  have hname : e.name = (present? d.entities[k].name).getD "Entity" := (congrArg Entity.name hname).symm
  rw [hname]
  exact visible_getD_present? ⟨'E', by decide, by decide⟩

lemma consistent_world (h : d.assemble fresh prompt mood = .ok (d.world fresh prompt mood)) :
    (d.world fresh prompt mood).Consistent := by
  obtain ⟨hids, hrooted, hacyclic, _⟩ := WorldDraft.assemble_eq_ok_iff.mp h
  have hempty : (d.empty prompt mood).Consistent :=
    (World.consistent_empty (d.metadata.assemble prompt)).of_entities rfl List.nodup_nil
  have hpeopled : (d.peopled fresh prompt mood).Consistent :=
    hempty.foldl_link (fun _ _ => List.not_mem_nil) (nodup_of_ids hids)
      (fun e he up hp => Or.inl (hrooted e he up hp)) hacyclic
  exact hpeopled.of_entities rfl ((ids_world prompt mood (nodup_of_ids hids)).symm ▸ hids)

lemma Supplied.makes (h : d.Supplied fresh) (hc : d.Coherent) : d.Makes fresh (d.world fresh prompt mood) := by
  have hmade : d.assemble fresh prompt mood = .ok (d.world fresh prompt mood) := h.assemble_eq_ok_iff.mpr ⟨hc, rfl⟩
  have hids := (WorldDraft.assemble_eq_ok_iff.mp hmade).1
  have hE := nodup_of_ids hids
  have hconsistent := consistent_world hmade
  obtain ⟨hmetadata, hlights, hmechanisms⟩ := parts_world d fresh prompt mood
  refine ⟨childless_world prompt mood hE, fun hl => ?_, fun hl => ?_, hmechanisms, ?_, fun hl => ?_, ?_,
    hconsistent, rfl, fun hvisible i hi he => ?_⟩
  · rw [hlights, shining, if_neg hl]
    exact describes_assembleLights d fresh
  · rw [hlights, shining, if_pos hl]
    rfl
  · change List.Forall₂ Serves _ (d.world fresh prompt mood).entityIds
    rw [entityIds_world prompt mood hE, map_id_assembleEntities]
    exact forall₂_serves_filled _ _ _
  · rw [hlights, shining, if_neg hl, map_id_assembleLights]
    exact forall₂_serves_filled _ _ _
  · rw [hmechanisms, map_id_assembleMechanisms]
    exact forall₂_serves_filled _ _ _
  · refine hconsistent.errors ?_ (fun id hid => ?_) (visible_name hE) hi he
    · rw [hmetadata]
      exact visible_getD_present? (DraftInfo.visible_promptTitle prompt)
    · exact visible_of_mem_ids hvisible (ids_world prompt mood hE ▸ hid)

structure Fit (d : WorldDraft) (fresh : Nat → String) (prompt : String) (mood : Option String) : Prop where
  version : Text.Visible (d.metadata.assemble prompt).version
  ids : ∀ k ≤ d.partCount, Text.Visible (fresh k)
  lights : ∀ l ∈ d.shining fresh, l.InRange
  materials : ∀ e ∈ d.assembleEntities fresh, ∀ m, e.material = some m → m.InRange
  physics : ∀ e ∈ d.assembleEntities fresh, ∀ p, e.physics = some p → p.InRange
  environment : (d.environment.assemble mood).InRange
  targets : ∀ m ∈ d.assembleMechanisms fresh, ∀ x ∈ m.interactions, ∀ target, x.target = some target →
    target ∈ (d.assembleEntities fresh).map (·.id)

theorem sound_world (h : d.assemble fresh prompt mood = .ok (d.world fresh prompt mood))
    (hfit : d.Fit fresh prompt mood) : (d.world fresh prompt mood).Sound := by
  have hids := (WorldDraft.assemble_eq_ok_iff.mp h).1
  have hE := nodup_of_ids hids
  obtain ⟨hmetadata, hlights, hmechanisms⟩ := parts_world d fresh prompt mood
  have henvironment : (d.world fresh prompt mood).environment = d.environment.assemble mood := by
    rw [world, peopled_eq]
    rfl
  have hentities : ∀ e ∈ (d.world fresh prompt mood).entities, { e with children := [] } ∈ d.assembleEntities fresh :=
    fun e he => childless_world prompt mood hE ▸ List.mem_map_of_mem he
  refine ⟨consistent_world h, ?_, ?_, fun id hid => ?_, visible_name hE, ?_, fun e he => ?_, fun e he => ?_, ?_, ?_⟩
  · rw [hmetadata]
    exact visible_getD_present? (DraftInfo.visible_promptTitle prompt)
  · rw [hmetadata]
    exact hfit.version
  · exact visible_of_mem_ids hfit.ids (ids_world prompt mood hE ▸ hid)
  · rw [hlights]
    exact hfit.lights
  · exact hfit.materials { e with children := [] } (hentities e he)
  · exact hfit.physics { e with children := [] } (hentities e he)
  · rw [henvironment]
    exact hfit.environment
  · rw [hmechanisms]
    intro m hm x hx target ht
    have hmem := hfit.targets m hm x hx target ht
    rw [← entityIds_world prompt mood hE] at hmem
    exact List.mem_map.mp hmem

end WorldDraft

theorem draft_assembles (d : WorldDraft) (fresh : Nat → String) (prompt : String) (mood : Option String)
    (h : d.Supplied fresh) : ((∃ w, d.assemble fresh prompt mood = .ok w) ↔ d.Coherent) ∧
      ∀ w, d.assemble fresh prompt mood = .ok w → d.Makes fresh w := by
  refine ⟨⟨?_, fun hc => ⟨_, h.assemble_eq_ok_iff.mpr ⟨hc, rfl⟩⟩⟩, fun w hw => ?_⟩
  · rintro ⟨w, hw⟩
    exact (h.assemble_eq_ok_iff.mp hw).1
  · obtain ⟨hc, rfl⟩ := h.assemble_eq_ok_iff.mp hw
    exact h.makes hc

def lampDraft : WorldDraft where
  entities := [{ id := some "lamp", parent := some "table" }, { id := some "table" },
    { id := some " ", name := some "Rug" }]

lemma coherent_lampDraft : lampDraft.Coherent := by
  have hunder : ∀ {a b : String}, lampDraft.Under a b → a = "lamp" ∧ b = "table" := by
    rintro a b ⟨e, he, hid, hp⟩
    obtain ⟨hid, _⟩ := present?_eq_some_iff.mp hid
    obtain ⟨hp, _⟩ := present?_eq_some_iff.mp hp
    simp only [lampDraft, List.mem_cons, List.not_mem_nil, or_false] at he
    rcases he with rfl | rfl | rfl
    · exact ⟨(Option.some.inj hid).symm, (Option.some.inj hp).symm⟩
    · cases hp
    · cases hp
  refine ⟨by decide, by decide, fun id hc => ?_⟩
  obtain ⟨_, hfirst, _⟩ := TransGen.head'_iff.mp hc
  obtain ⟨_, _, hlast⟩ := TransGen.tail'_iff.mp hc
  have hends : "lamp" = "table" := (hunder hfirst).1.symm.trans (hunder hlast).2
  exact absurd hends (by decide)

theorem draft_assembles_lamp : lampDraft.Supplied (FreshId.fromStart 0 0) ∧
    (∀ k, Text.Visible (FreshId.fromStart 0 0 k)) ∧
    ∃ w, lampDraft.assemble (FreshId.fromStart 0 0) "a room" none = .ok w ∧
      lampDraft.Makes (FreshId.fromStart 0 0) w := by
  have hsupplied : lampDraft.Supplied (FreshId.fromStart 0 0) := ⟨by decide, by decide, by decide⟩
  obtain ⟨hiff, hmakes⟩ := draft_assembles lampDraft (FreshId.fromStart 0 0) "a room" none hsupplied
  obtain ⟨w, hw⟩ := hiff.mpr coherent_lampDraft
  exact ⟨hsupplied, fun k => FreshId.visible_text _, w, hw, hmakes w hw⟩

end Diorama
