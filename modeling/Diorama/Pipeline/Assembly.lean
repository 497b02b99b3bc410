import Diorama.Pipeline.Draft
import Diorama.Spatial.Query
import Diorama.Text.Blank
import Diorama.World.Hierarchy

/-! Putting a world together from a draft. Blank names, titles and identifiers count as left out; parts without
an identifier get a fresh one, by their place among all parts of the draft. -/

namespace Diorama

def present? (text : Option String) : Option String := text.filter (!Text.isBlankText ·)

namespace DraftMaterial

def assemble (d : DraftMaterial) : Material :=
  let base : Material := { name := d.name.getD "default" }
  { base with
    kind := d.kind.getD base.kind
    baseColor := (d.baseColor.map (·.fill)).getD base.baseColor
    metallic := d.metallic.getD base.metallic
    roughness := d.roughness.getD base.roughness
    emissionColor := d.emissionColor.map (·.fill)
    emissionStrength := d.emissionStrength.getD base.emissionStrength
    texturePath := d.texturePath
    normalMapPath := d.normalMapPath }

end DraftMaterial

namespace DraftPhysics

def assemble (d : DraftPhysics) : Physics :=
  let base : Physics := {}
  { enabled := d.enabled.getD base.enabled
    isKinematic := d.isKinematic.getD base.isKinematic
    mass := d.mass.getD base.mass
    drag := d.drag.getD base.drag
    angularDrag := d.angularDrag.getD base.angularDrag
    useGravity := d.useGravity.getD base.useGravity
    collisionEnabled := d.collisionEnabled.getD base.collisionEnabled }

end DraftPhysics

namespace DraftEntity

def assemble (fresh : String) (d : DraftEntity) : Entity where
  id := (present? d.id).getD fresh
  name := (present? d.name).getD "Entity"
  kind := d.kind.getD default
  transform := d.transform.fill
  material := d.material.map (·.assemble)
  physics := d.physics.map (·.assemble)
  parent := present? d.parent
  tags := .ofList d.tags
  metadata := d.metadata
  asset := d.asset
  prefab := d.prefab

end DraftEntity

namespace DraftLight

def assemble (fresh : String) (d : DraftLight) : Light :=
  let base : Light := { id := (present? d.id).getD fresh, name := (present? d.name).getD "Light" }
  { base with
    kind := d.kind.getD default
    color := (d.color.map (·.fill)).getD base.color
    intensity := d.intensity.getD base.intensity
    range := d.range
    spotAngle := d.spotAngle
    castShadows := d.castShadows.getD base.castShadows
    transform := d.transform.fill }

end DraftLight

namespace DraftInteraction

def assemble (d : DraftInteraction) : Interaction where
  trigger := d.trigger
  action := d.action
  target := present? d.target
  parameters := d.parameters

end DraftInteraction

namespace DraftMechanism

def assemble (fresh : String) (d : DraftMechanism) : Mechanism where
  id := (present? d.id).getD fresh
  name := (present? d.name).getD "System"
  description := d.description
  interactions := d.interactions.map (·.assemble)
  enabled := d.enabled.getD true
  priority := d.priority
  conditions := d.conditions

end DraftMechanism

namespace DraftEnvironment

def moodLight? : Option String → Option Color
  | some "serene" => some { r := 0.3, g := 0.35, b := 0.4 }
  | some "ominous" => some { r := 0.15, g := 0.12, b := 0.18 }
  | _ => none

def assemble (d : DraftEnvironment) (mood : Option String) : Environment :=
  let base : Environment := {}
  let time := d.timeOfDay.getD {}
  { base with
    weather := d.weather.getD base.weather
    timeOfDay := { base.timeOfDay with
      hour := time.hour.getD base.timeOfDay.hour
      minute := time.minute.getD base.timeOfDay.minute
      dayNightCycle := time.dayNightCycle.getD base.timeOfDay.dayNightCycle }
    ambientLight :=
      ((d.ambientLight.map (·.fill)).or (moodLight? mood)).getD base.ambientLight
    fog := { base.fog with
      enabled := d.fogEnabled.getD base.fog.enabled
      density := d.fogDensity.getD base.fog.density }
    skybox := { base.skybox with kind := d.skybox.getD base.skybox.kind }
    gravity := (d.gravity.map (·.fill base.gravity)).getD base.gravity
    audioReverb := d.audioReverb }

end DraftEnvironment

namespace DraftInfo

def titleLength : Nat := 50

def promptTitle (prompt : String) : String :=
  let start := (Text.trimChars prompt.toList).take titleLength
  if start.isEmpty then "New World" else .ofList start

def assemble (d : DraftInfo) (prompt : String) : WorldInfo :=
  let base : WorldInfo := { title := (present? d.title).getD (promptTitle prompt) }
  { base with
    description := d.description.getD prompt
    author := d.author.getD "OmniWorld Builder"
    version := d.version.getD base.version
    tags := d.tags
    targetPlatforms := d.targetPlatforms.getD base.targetPlatforms }

end DraftInfo

namespace WorldDraft

def sun (fresh : String) : Light where
  id := fresh
  name := "Sun"
  kind := .directional
  color := { r := 1, g := 0.95, b := 0.9 }
  transform := { rotation := ⟨50, -30, 0⟩ }

def assembleEntities (d : WorldDraft) (fresh : Nat → String) : List Entity :=
  d.entities.mapIdx fun i e => e.assemble (fresh i)

def assembleLights (d : WorldDraft) (fresh : Nat → String) : List Light :=
  d.lights.mapIdx fun i l => l.assemble (fresh (d.entities.length + i))

def assembleMechanisms (d : WorldDraft) (fresh : Nat → String) : List Mechanism :=
  d.mechanisms.mapIdx fun i m => m.assemble (fresh (d.entities.length + d.lights.length + i))

def partCount (d : WorldDraft) : Nat := d.entities.length + d.lights.length + d.mechanisms.length

def assemble (d : WorldDraft) (fresh : Nat → String) (prompt : String) (mood : Option String) :
    Except WorldError World := do
  let base : World := {
    metadata := d.metadata.assemble prompt
    environment := d.environment.assemble mood }
  let peopled ← base.addEntities (d.assembleEntities fresh)
  let lit ← (d.assembleLights fresh).foldlM World.addLight peopled
  let driven ← (d.assembleMechanisms fresh).foldlM World.addMechanism lit
  let world ← if driven.lights.isEmpty then driven.addLight (sun (fresh d.partCount)) else pure driven
  return world.refreshBounds

end WorldDraft

end Diorama
