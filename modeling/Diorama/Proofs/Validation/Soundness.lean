import Diorama.Proofs.Hierarchy.Consistency
import Diorama.Proofs.Validation.Ranges
import Diorama.Proofs.Validation.Structure
import Diorama.Validation.Default

/-! A world is sound if its hierarchy is consistent, what must be named is named, its numbers are in range and
its mechanisms act on its entities. The standard rules find an error in every other world and in no sound one. -/

namespace Diorama

open Relation

structure World.Sound (w : World) : Prop extends World.Consistent w where
  title : Text.Visible w.metadata.title
  version : Text.Visible w.metadata.version
  ids : ∀ id ∈ w.ids, Text.Visible id
  names : ∀ e ∈ w.entities, Text.Visible e.name
  lights : ∀ l ∈ w.lights, l.InRange
  materials : ∀ e ∈ w.entities, ∀ m, e.material = some m → m.InRange
  physics : ∀ e ∈ w.entities, ∀ p, e.physics = some p → p.InRange
  environment : w.environment.InRange
  targets : ∀ m ∈ w.mechanisms, ∀ x ∈ m.interactions, ∀ target, x.target = some target →
    ∃ e ∈ w.entities, e.id = target

lemma World.Sound.of_same {w w' : World} (h : w.Sound) (htitle : w'.metadata.title = w.metadata.title)
    (hversion : w'.metadata.version = w.metadata.version) (henvironment : w'.environment = w.environment)
    (hentities : w'.entities = w.entities) (hlights : w'.lights = w.lights)
    (hmechanisms : w'.mechanisms = w.mechanisms) : w'.Sound := by
  have hids : w'.ids = w.ids := by rw [World.ids, hentities, hlights, hmechanisms, World.ids]
  refine ⟨h.toConsistent.of_entities hentities (hids ▸ h.distinct), ?_, ?_, ?_, ?_, ?_, ?_, ?_, ?_, ?_⟩
  · exact htitle ▸ h.title
  · exact hversion ▸ h.version
  · exact hids ▸ h.ids
  · exact hentities ▸ h.names
  · exact hlights ▸ h.lights
  · exact hentities ▸ h.materials
  · exact hentities ▸ h.physics
  · exact henvironment ▸ h.environment
  · rw [hmechanisms, hentities]
    exact h.targets

namespace Rule

lemma clean_physicsSettings (w : World) : Clean (physicsSettings w) := by
  rw [physicsSettings, Clean.flatMap_iff]
  intro e _
  simp only [entityPhysics, Clean.append_iff]
  constructor
  · split <;> simp [Clean, Issue.isError]
  · split <;> simp [Clean, Issue.isError]

lemma clean_boundsConsistency (w : World) : Clean (boundsConsistency w) := by
  unfold boundsConsistency
  split <;> simp [Clean, Issue.isError]

lemma clean_collisions (w : World) : Clean (collisions w) := by
  simp only [collisions]
  split <;> simp [Clean, Issue.isError]

lemma clean_parentReferences {w : World} (hn : w.entityIds.Nodup) : Clean (parentReferences w) ↔
    (∀ e ∈ w.entities, ∀ up, e.parent = some up → ∃ q ∈ w.entities, q.id = up) ∧
      (∀ id, ¬TransGen w.Under id id) ∧ w.Mirrored := by
  rw [parentReferences, Clean.append_iff, Clean.append_iff, clean_missingParents, clean_parentCycles hn,
    clean_childrenMismatches, and_assoc]

end Rule

open Rule

lemma issues_standard (w : World) : (Validator.standard.validate w).issues = uniqueIds w ++ (parentReferences w ++
    (requiredFields w ++ (numericRanges w ++ (systemReferences w ++ (physicsSettings w ++
      (boundsConsistency w ++ (collisions w ++ []))))))) := rfl

lemma Clean.standard_iff {w : World} : Clean (Validator.standard.validate w).issues ↔
    Clean (uniqueIds w) ∧ Clean (parentReferences w) ∧ Clean (requiredFields w) ∧ Clean (numericRanges w) ∧
      Clean (systemReferences w) := by
  rw [issues_standard]
  simp only [Clean.append_iff, clean_physicsSettings, clean_boundsConsistency, clean_collisions, Clean.nil,
    and_true]

lemma World.sound_iff {w : World} : w.Sound ↔ Clean (Validator.standard.validate w).issues := by
  rw [Clean.standard_iff, clean_uniqueIds, clean_requiredFields, clean_numericRanges, clean_systemReferences]
  constructor
  · intro h
    have hn := nodup_entityIds h.distinct
    refine ⟨h.distinct, (clean_parentReferences hn).mpr ⟨h.rooted, h.acyclic, h.mirrored⟩,
      ⟨h.title, h.version, h.ids, h.names⟩, ⟨h.lights, fun e he => ?_, h.environment⟩, h.targets⟩
    exact ⟨h.materials e he, h.physics e he⟩
  · rintro ⟨hd, hp, ⟨htitle, hversion, hids, hnames⟩, ⟨hlights, hentities, henvironment⟩, htargets⟩
    -- That no identifier is used twice is known before the search for cycles is read.
    obtain ⟨hrooted, hacyclic, hmirrored⟩ := (clean_parentReferences (nodup_entityIds hd)).mp hp
    exact ⟨⟨hd, hrooted, hacyclic, hmirrored⟩, htitle, hversion, hids, hnames, hlights,
      fun e he => (hentities e he).1, fun e he => (hentities e he).2, henvironment, htargets⟩

theorem standard_isValid (w : World) :
    ((Validator.standard.validate w).isValid = true ↔ w.Sound) ∧
    (∀ i ∈ physicsSettings w ++ boundsConsistency w ++ collisions w, i.isError = false) ∧
    (∀ l ∈ w.lights, brightIntensity < l.intensity →
      ∀ i ∈ lightRanges l, i.field = some "intensity" → i.isError = false) ∧
    ∀ b platforms, (Validator.standard.validate { w with
      bounds := b, metadata := { w.metadata with targetPlatforms := platforms } }).isValid =
        (Validator.standard.validate w).isValid := by
  have hsound : ∀ v : World, (Validator.standard.validate v).isValid = true ↔ v.Sound := by
    intro v
    rw [World.sound_iff]
    exact Clean.isValid_iff _
  refine ⟨hsound w, ?_, fun l _ h i hi hf => advisory_of_bright h hi hf, ?_⟩
  · exact Clean.append_iff.mpr ⟨Clean.append_iff.mpr ⟨clean_physicsSettings w, clean_boundsConsistency w⟩,
      clean_collisions w⟩
  · intro b platforms
    rw [Bool.eq_iff_iff, hsound, hsound]
    constructor
    · exact fun h => h.of_same rfl rfl rfl rfl rfl rfl
    · exact fun h => h.of_same rfl rfl rfl rfl rfl rfl

end Diorama
