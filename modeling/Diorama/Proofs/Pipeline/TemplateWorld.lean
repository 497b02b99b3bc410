import Diorama.Proofs.Drafts.Worlds
import Diorama.Proofs.Pipeline.TemplateAnswers

namespace Diorama

lemma FreshId.text_ne {n : Nat} {name : String} (h : ∃ c ∈ name.toList.take 2, c ∉ "0123456789abcdef".toList) :
    text n ≠ name := by
  have hdigit : ∀ k < 16, Nat.digitChar k ∈ "0123456789abcdef".toList := by decide
  have hstart : (text n).toList.take 2 =
      [Nat.digitChar ((n >>> 90 >>> 28) % 16), Nat.digitChar ((n >>> 90 >>> 24) % 16)] := by
    rw [text, String.toList_ofList]
    rfl
  rintro rfl
  obtain ⟨c, hc, hother⟩ := h
  simp only [hstart, List.mem_cons, List.not_mem_nil, or_false] at hc
  rcases hc with rfl | rfl
  · exact hother (hdigit _ (Nat.mod_lt _ (by decide)))
  · exact hother (hdigit _ (Nat.mod_lt _ (by decide)))

lemma present?_of_visible {x : String} (h : Text.Visible x) : present? (some x) = some x :=
  present?_eq_some_iff.mpr ⟨rfl, h⟩

lemma filled_map_some (fresh : Nat → String) (ids : List String) : filled fresh (ids.map some) = ids := by
  induction ids generalizing fresh with
  | nil => rfl
  | cons id ids ih => rw [List.map_cons, filled_cons, ih, Option.getD_some]

lemma Color.inRange_of_all {c : Color} (h : c.channels.all Rule.inUnitInterval = true) : c.InRange :=
  fun x hx => Rule.inUnitInterval_iff.mp (List.all_eq_true.mp h x hx)

lemma Environment.inRange_default : Environment.InRange {} where
  fogDensity := Rule.inUnitInterval_iff.mp (by decide)
  hour := by decide
  minute := by decide
  ambientLight := Color.inRange_of_all (by decide)
  fogColor := Color.inRange_of_all (by decide)
  skyboxTint := Color.inRange_of_all (by decide)

namespace Template

def landmarkId (number : Nat) : String := s!"landmark-{number}"

lemma toList_landmarkId (number : Nat) : (landmarkId number).toList = "landmark-".toList ++ Nat.toDigits 10 number := by
  change ("landmark-" ++ toString number).toList = _
  simp only [String.toList_append, Nat.toString_eq_ofList_toDigits, String.toList_ofList]

lemma landmarkId_injective : Function.Injective landmarkId := by
  intro m n h
  have hdigits : Nat.toDigits 10 m = Nat.toDigits 10 n := by
    have hlists := congrArg String.toList h
    rw [toList_landmarkId, toList_landmarkId] at hlists
    exact List.append_cancel_left hlists
  simpa using congrArg (Nat.ofDigitChars 10 · 0) hdigits

lemma landmarkId_ne {name : String} (h : name.toList.head? ≠ some 'l') (number : Nat) : landmarkId number ≠ name := by
  rintro rfl
  rw [toList_landmarkId] at h
  exact h rfl

def entityIds (places : List Vec3) : List String :=
  "ground" :: "spawn" :: (List.range places.length).map fun index => landmarkId (index + 1)

def mechanismIds (places : List Vec3) : List String := if places.isEmpty then [] else ["exploration"]

variable {c : Cues} {prompt : String} {places : List Vec3}

lemma mem_mechanismIds {id : String} (h : id ∈ mechanismIds places) : id = "exploration" := by
  unfold mechanismIds at h
  split at h
  · cases h
  · exact List.mem_singleton.mp h

lemma nodup_ids (places : List Vec3) : (entityIds places ++ mechanismIds places).Nodup := by
  have hlandmarks : ((List.range places.length).map fun index => landmarkId (index + 1)).Nodup :=
    List.nodup_range.map fun _ _ h => Nat.succ.inj (landmarkId_injective h)
  have hother : ∀ name : String, name.toList.head? ≠ some 'l' →
      name ∉ (List.range places.length).map fun index => landmarkId (index + 1) := by
    intro name hname hm
    obtain ⟨index, -, he⟩ := List.mem_map.mp hm
    exact landmarkId_ne hname _ he
  have hentities : (entityIds places).Nodup := by
    rw [entityIds, List.nodup_cons, List.nodup_cons, List.mem_cons, not_or]
    exact ⟨⟨by decide, hother _ (by decide)⟩, hother _ (by decide), hlandmarks⟩
  have hmechanisms : (mechanismIds places).Nodup := by
    unfold mechanismIds
    split <;> simp
  refine hentities.append hmechanisms fun id hid hid' => ?_
  rw [mem_mechanismIds hid', entityIds, List.mem_cons, List.mem_cons] at hid
  rcases hid with h | h | h
  · exact absurd h (by decide)
  · exact absurd h (by decide)
  · exact hother _ (by decide) h

lemma text_notMem_ids (n : Nat) (places : List Vec3) : FreshId.text n ∉ entityIds places ++ mechanismIds places := by
  intro hm
  rw [entityIds, List.cons_append, List.cons_append, List.mem_cons, List.mem_cons, List.mem_append] at hm
  rcases hm with h | h | h | h
  · exact FreshId.text_ne ⟨'g', by decide, by decide⟩ h
  · exact FreshId.text_ne ⟨'s', by decide, by decide⟩ h
  · obtain ⟨index, -, he⟩ := List.mem_map.mp h
    refine FreshId.text_ne ⟨'l', ?_, by decide⟩ he.symm
    rw [toList_landmarkId]
    exact List.mem_cons_self
  · exact FreshId.text_ne ⟨'x', by decide, by decide⟩ (mem_mechanismIds h)

lemma visible_landmarkId (number : Nat) : Text.Visible (landmarkId number) := by
  refine ⟨'l', ?_, by decide⟩
  rw [toList_landmarkId]
  exact List.mem_append_left _ (by decide)

lemma given_entities (prompt : String) (c : Cues) (places : List Vec3) :
    (draft prompt c places).entities.map (present? ·.id) = (entityIds places).map some := by
  have hlandmarks : (places.zipIdx.map fun p => landmarkDraft (p.2 + 1) p.1).map (present? ·.id) =
      ((List.range places.length).map fun index => landmarkId (index + 1)).map some := by
    rw [List.map_map, List.map_map, List.range_eq_range', ← List.zipIdx_map_snd, List.map_map]
    exact List.map_congr_left fun p _ => present?_of_visible (visible_landmarkId (p.2 + 1))
  have hground : present? groundDraft.id = some "ground" := present?_of_visible ⟨'g', by decide, by decide⟩
  have hspawn : present? spawnDraft.id = some "spawn" := present?_of_visible ⟨'s', by decide, by decide⟩
  change present? groundDraft.id :: present? spawnDraft.id ::
    (places.zipIdx.map fun p => landmarkDraft (p.2 + 1) p.1).map (present? ·.id) = _
  rw [hground, hspawn, hlandmarks]
  rfl

lemma given_mechanisms (prompt : String) (c : Cues) (places : List Vec3) :
    (draft prompt c places).mechanisms.map (present? ·.id) = (mechanismIds places).map some := by
  have hexploration : present? explorationDraft.id = some "exploration" :=
    present?_of_visible ⟨'e', by decide, by decide⟩
  cases places with
  | nil => rfl
  | cons place places => exact congrArg ([·]) hexploration

lemma filled_draft (fresh : Nat → String) (prompt : String) (c : Cues) (places : List Vec3) :
    filled fresh (draft prompt c places).given = entityIds places ++ mechanismIds places := by
  rw [WorldDraft.given, given_entities, given_mechanisms]
  change filled fresh ((entityIds places).map some ++ [] ++ (mechanismIds places).map some) = _
  rw [List.append_nil, ← List.map_append, filled_map_some]

lemma map_id_entities (fresh : Nat → String) (prompt : String) (c : Cues) (places : List Vec3) :
    ((draft prompt c places).assembleEntities fresh).map (·.id) = entityIds places := by
  rw [WorldDraft.map_id_assembleEntities, given_entities, filled_map_some]

def groundMaterial : DraftMaterial := { name := some "Ground", roughness := some (Scalar.narrow 0.9) }

lemma plain_entities {e : DraftEntity} (he : e ∈ (draft prompt c places).entities) :
    e.parent = none ∧ e.physics = none ∧ ∀ m, e.material = some m → m = groundMaterial := by
  simp only [draft, List.mem_cons, List.mem_map] at he
  rcases he with rfl | rfl | ⟨p, -, rfl⟩
  · exact ⟨rfl, rfl, fun m hm => (Option.some.inj hm).symm⟩
  · exact ⟨rfl, rfl, fun m hm => nomatch hm⟩
  · exact ⟨rfl, rfl, fun m hm => nomatch hm⟩

lemma exists_of_mem_assembleEntities {d : WorldDraft} {fresh : Nat → String} {e : Entity}
    (he : e ∈ d.assembleEntities fresh) : ∃ x ∈ d.entities, ∃ id, e = x.assemble id := by
  obtain ⟨k, hk, rfl⟩ := List.mem_mapIdx.mp he
  exact ⟨_, List.getElem_mem hk, _, rfl⟩

lemma assemble_draft (serial : Nat → Nat) (prompt : String) (c : Cues) (places : List Vec3) (mood : Option String) :
    (draft prompt c places).assemble (fun k => FreshId.text (serial k)) prompt mood =
      .ok ((draft prompt c places).world (fun k => FreshId.text (serial k)) prompt mood) := by
  set fresh := fun k => FreshId.text (serial k) with hfresh
  have hparent : ∀ e ∈ (draft prompt c places).assembleEntities fresh, e.parent = none := by
    intro e he
    obtain ⟨x, hx, id, rfl⟩ := exists_of_mem_assembleEntities he
    simp [DraftEntity.assemble, (plain_entities hx).1, present?]
  have hids : ((draft prompt c places).ids fresh).Nodup := by
    rw [(WorldDraft.ids_perm_of_unlit rfl).nodup_iff, filled_draft, List.nodup_cons]
    exact ⟨text_notMem_ids (serial _) places, nodup_ids places⟩
  refine WorldDraft.assemble_eq_ok_iff.mpr ⟨hids, fun e he up hup => ?_, fun e he hc => ?_, rfl⟩
  · rw [hparent e he] at hup
    cases hup
  · obtain ⟨_, hfirst, _⟩ := Relation.TransGen.head'_iff.mp hc
    obtain ⟨x, hx, -, hup⟩ := (WorldDraft.under_peopled (WorldDraft.nodup_of_ids hids)).mp hfirst
    rw [hparent x hx] at hup
    cases hup

lemma inRange_sun (id : String) : (WorldDraft.sun id).InRange where
  intensity := (by decide : (0 : Scalar) ≤ 1)
  range _ h := nomatch h
  spotAngle _ h := nomatch h
  color := (Color.inRange_of_all (by decide) : Color.InRange { r := 1, g := 0.95, b := 0.9 })

lemma inRange_ground : groundMaterial.assemble.InRange where
  roughness := Rule.inUnitInterval_iff.mp (by decide)
  metallic := Rule.inUnitInterval_iff.mp (by decide)
  emissionStrength := by decide
  baseColor := Color.inRange_of_all (by decide)
  emissionColor _ h := nomatch h

lemma inRange_environment (hc : c.Known) : ((draft prompt c places).environment.assemble (some c.mood)).InRange where
  fogDensity := Environment.inRange_default.fogDensity
  hour := by
    change UInt8.ofNat c.hour ≤ 23
    obtain h | h := hc.hour
    · rw [h]
      decide
    · rw [h]
      decide
  minute := Environment.inRange_default.minute
  ambientLight := by
    change Color.InRange ((DraftEnvironment.moodLight? (some c.mood)).getD _)
    obtain h | h := hc.mood
    · rw [h]
      exact Color.inRange_of_all (by decide)
    · rw [h]
      exact Color.inRange_of_all (by decide)
  fogColor := Environment.inRange_default.fogColor
  skyboxTint := Environment.inRange_default.skyboxTint

lemma targets_draft (fresh : Nat → String) : ∀ m ∈ (draft prompt c places).assembleMechanisms fresh,
    ∀ x ∈ m.interactions, ∀ target, x.target = some target → target ∈ entityIds places := by
  cases places with
  | nil =>
    intro m hm
    cases hm
  | cons place places =>
    intro m hm x hx target ht
    obtain rfl := List.mem_singleton.mp hm
    obtain rfl := List.mem_singleton.mp hx
    have htarget : present? (some "landmark-1") = some target := ht
    rw [present?_of_visible ⟨'l', by decide, by decide⟩] at htarget
    obtain rfl := Option.some.inj htarget
    exact List.mem_cons_of_mem _ (List.mem_cons_of_mem _ (List.mem_map.mpr ⟨0, by simp, rfl⟩))

lemma fit_draft (serial : Nat → Nat) (prompt : String) (hc : c.Known) (places : List Vec3) :
    (draft prompt c places).Fit (fun k => FreshId.text (serial k)) prompt (some c.mood) where
  version := (⟨'1', by decide, by decide⟩ : Text.Visible "1.0.0")
  ids _ _ := FreshId.visible_text _
  lights l hl := by
    obtain rfl := List.mem_singleton.mp hl
    exact inRange_sun _
  materials e he m hm := by
    obtain ⟨x, hx, id, rfl⟩ := exists_of_mem_assembleEntities he
    obtain ⟨y, hy, rfl⟩ := Option.map_eq_some_iff.mp hm
    obtain rfl := (plain_entities hx).2.2 y hy
    exact inRange_ground
  physics e he p hp := by
    obtain ⟨x, hx, id, rfl⟩ := exists_of_mem_assembleEntities he
    obtain ⟨y, hy, -⟩ := Option.map_eq_some_iff.mp hp
    rw [(plain_entities hx).2.1] at hy
    cases hy
  environment := inRange_environment hc
  targets := by
    rw [map_id_entities]
    exact targets_draft _

/-- The draft becomes a world in which nothing is wrong, whatever serial numbers its fresh identifiers are made of. -/
theorem exists_sound_world (serial : Nat → Nat) (prompt : String) (hc : c.Known) (places : List Vec3) :
    ∃ w, (draft prompt c places).assemble (fun k => FreshId.text (serial k)) prompt (some c.mood) = .ok w ∧ w.Sound :=
  have hmade := assemble_draft serial prompt c places (some c.mood)
  ⟨_, hmade, WorldDraft.sound_world hmade (fit_draft serial prompt hc places)⟩

end Template

end Diorama
