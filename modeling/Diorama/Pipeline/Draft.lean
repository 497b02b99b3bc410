import Diorama.Pipeline.Loose
import Diorama.World.Basic

namespace Diorama

structure DraftMaterial where
  name : Option String := none
  kind : Option MaterialKind := none
  baseColor : Option LooseColor := none
  metallic : Option Scalar := none
  roughness : Option Scalar := none
  emissionColor : Option LooseColor := none
  emissionStrength : Option Scalar := none
  texturePath : Option String := none
  normalMapPath : Option String := none
deriving BEq

namespace DraftMaterial

def form : RecordForm DraftMaterial where
  blank := {}
  others := .ignored
  fields := [
    .optional "name" (·.name) fun v m => { m with name := v },
    .optional "material_type" (·.kind) fun v m => { m with kind := v },
    .optional "base_color" (·.baseColor) fun v m => { m with baseColor := v },
    .optional "metallic" (·.metallic) fun v m => { m with metallic := v },
    .optional "roughness" (·.roughness) fun v m => { m with roughness := v },
    .optional "emission_color" (·.emissionColor) fun v m => { m with emissionColor := v },
    .optional "emission_strength" (·.emissionStrength) fun v m => { m with emissionStrength := v },
    .optional "texture_path" (·.texturePath) fun v m => { m with texturePath := v },
    .optional "normal_map_path" (·.normalMapPath) fun v m => { m with normalMapPath := v }]

instance : JsonForm DraftMaterial := form.jsonForm

end DraftMaterial

structure DraftPhysics where
  enabled : Option Bool := none
  isKinematic : Option Bool := none
  mass : Option Scalar := none
  drag : Option Scalar := none
  angularDrag : Option Scalar := none
  useGravity : Option Bool := none
  collisionEnabled : Option Bool := none
deriving BEq

namespace DraftPhysics

def form : RecordForm DraftPhysics where
  blank := {}
  others := .ignored
  fields := [
    .optional "enabled" (·.enabled) fun v p => { p with enabled := v },
    .optional "is_kinematic" (·.isKinematic) fun v p => { p with isKinematic := v },
    .optional "mass" (·.mass) fun v p => { p with mass := v },
    .optional "drag" (·.drag) fun v p => { p with drag := v },
    .optional "angular_drag" (·.angularDrag) fun v p => { p with angularDrag := v },
    .optional "use_gravity" (·.useGravity) fun v p => { p with useGravity := v },
    .optional "collision_enabled" (·.collisionEnabled) fun v p => { p with collisionEnabled := v }]

instance : JsonForm DraftPhysics := form.jsonForm

end DraftPhysics

structure DraftEntity where
  id : Option String := none
  name : Option String := none
  kind : Option EntityKind := none
  transform : LooseTransform := {}
  material : Option DraftMaterial := none
  physics : Option DraftPhysics := none
  parent : Option String := none
  tags : List String := []
  metadata : Dictionary Value := ∅
  asset : Option String := none
  prefab : Option String := none
deriving BEq

namespace DraftEntity

def form : RecordForm DraftEntity where
  blank := {}
  others := .ignored
  fields := [
    .optional "id" (·.id) fun v e => { e with id := v },
    .optional "name" (·.name) fun v e => { e with name := v },
    .optional "entity_type" (·.kind) fun v e => { e with kind := v },
    .optional "transform" (·.transform) fun v e => { e with transform := v },
    .optional "material" (·.material) fun v e => { e with material := v },
    .optional "physics" (·.physics) fun v e => { e with physics := v },
    .optional "parent_id" (·.parent) fun v e => { e with parent := v },
    .optional "tags" (·.tags) fun v e => { e with tags := v },
    .optional "metadata" (·.metadata) fun v e => { e with metadata := v },
    .optional "asset_reference" (·.asset) fun v e => { e with asset := v },
    .optional "prefab_reference" (·.prefab) fun v e => { e with prefab := v }]

instance : JsonForm DraftEntity := form.jsonForm

end DraftEntity

structure DraftLight where
  id : Option String := none
  name : Option String := none
  kind : Option LightKind := none
  color : Option LooseColor := none
  intensity : Option Scalar := none
  range : Option Scalar := none
  spotAngle : Option Scalar := none
  castShadows : Option Bool := none
  transform : LooseTransform := {}
deriving BEq

namespace DraftLight

def form : RecordForm DraftLight where
  blank := {}
  others := .ignored
  fields := [
    .optional "id" (·.id) fun v l => { l with id := v },
    .optional "name" (·.name) fun v l => { l with name := v },
    .optional "light_type" (·.kind) fun v l => { l with kind := v },
    .optional "color" (·.color) fun v l => { l with color := v },
    .optional "intensity" (·.intensity) fun v l => { l with intensity := v },
    .optional "range" (·.range) fun v l => { l with range := v },
    .optional "spot_angle" (·.spotAngle) fun v l => { l with spotAngle := v },
    .optional "cast_shadows" (·.castShadows) fun v l => { l with castShadows := v },
    .optional "transform" (·.transform) fun v l => { l with transform := v }]

instance : JsonForm DraftLight := form.jsonForm

end DraftLight

structure DraftInteraction where
  trigger : Trigger
  action : Action
  target : Option String := none
  parameters : Dictionary Value := ∅
deriving BEq

namespace DraftInteraction

def form : RecordForm DraftInteraction where
  blank := { trigger := .click, action := .spawn }
  others := .ignored
  fields := [
    .required "trigger_type" (·.trigger) fun v i => { i with trigger := v },
    .required "action_type" (·.action) fun v i => { i with action := v },
    .optional "target_entity_id" (·.target) fun v i => { i with target := v },
    .optional "parameters" (·.parameters) fun v i => { i with parameters := v }]

instance : JsonForm DraftInteraction := form.jsonForm

end DraftInteraction

structure DraftMechanism where
  id : Option String := none
  name : Option String := none
  description : String := ""
  interactions : List DraftInteraction := []
  enabled : Option Bool := none
  priority : Int32 := 0
  conditions : Dictionary Value := ∅
deriving BEq

namespace DraftMechanism

def form : RecordForm DraftMechanism where
  blank := {}
  others := .ignored
  fields := [
    .optional "id" (·.id) fun v m => { m with id := v },
    .optional "name" (·.name) fun v m => { m with name := v },
    .optional "description" (·.description) fun v m => { m with description := v },
    .optional "interactions" (·.interactions) fun v m => { m with interactions := v },
    .optional "enabled" (·.enabled) fun v m => { m with enabled := v },
    .optional "priority" (·.priority) fun v m => { m with priority := v },
    .optional "conditions" (·.conditions) fun v m => { m with conditions := v }]

instance : JsonForm DraftMechanism := form.jsonForm

end DraftMechanism

structure DraftTimeOfDay where
  hour : Option UInt8 := none
  minute : Option UInt8 := none
  dayNightCycle : Option Bool := none
deriving BEq

namespace DraftTimeOfDay

def form : RecordForm DraftTimeOfDay where
  blank := {}
  others := .ignored
  fields := [
    .optional "hour" (·.hour) fun v t => { t with hour := v },
    .optional "minute" (·.minute) fun v t => { t with minute := v },
    .optional "day_night_cycle" (·.dayNightCycle) fun v t => { t with dayNightCycle := v }]

instance : JsonForm DraftTimeOfDay := form.jsonForm

end DraftTimeOfDay

structure DraftEnvironment where
  weather : Option Weather := none
  timeOfDay : Option DraftTimeOfDay := none
  ambientLight : Option LooseColor := none
  fogEnabled : Option Bool := none
  fogDensity : Option Scalar := none
  skybox : Option String := none
  gravity : Option LooseVec3 := none
  audioReverb : Option String := none
deriving BEq

namespace DraftEnvironment

def form : RecordForm DraftEnvironment where
  blank := {}
  others := .ignored
  fields := [
    .optional "weather" (·.weather) fun v e => { e with weather := v },
    .optional "time_of_day" (·.timeOfDay) fun v e => { e with timeOfDay := v },
    .optional "ambient_light" (·.ambientLight) fun v e => { e with ambientLight := v },
    .optional "fog_enabled" (·.fogEnabled) fun v e => { e with fogEnabled := v },
    .optional "fog_density" (·.fogDensity) fun v e => { e with fogDensity := v },
    .optional "skybox" (·.skybox) fun v e => { e with skybox := v },
    .optional "gravity" (·.gravity) fun v e => { e with gravity := v },
    .optional "audio_reverb_preset" (·.audioReverb) fun v e => { e with audioReverb := v }]

instance : JsonForm DraftEnvironment := form.jsonForm

end DraftEnvironment

structure DraftInfo where
  title : Option String := none
  description : Option String := none
  author : Option String := none
  version : Option String := none
  tags : List String := []
  targetPlatforms : Option (List String) := none
deriving BEq

namespace DraftInfo

def form : RecordForm DraftInfo where
  blank := {}
  others := .ignored
  fields := [
    .optional "title" (·.title) fun v m => { m with title := v },
    .optional "description" (·.description) fun v m => { m with description := v },
    .optional "author" (·.author) fun v m => { m with author := v },
    .optional "version" (·.version) fun v m => { m with version := v },
    .optional "tags" (·.tags) fun v m => { m with tags := v },
    .optional "target_platforms" (·.targetPlatforms) fun v m => { m with targetPlatforms := v }]

instance : JsonForm DraftInfo := form.jsonForm

end DraftInfo

structure WorldDraft where
  metadata : DraftInfo := {}
  environment : DraftEnvironment := {}
  entities : List DraftEntity := []
  lights : List DraftLight := []
  mechanisms : List DraftMechanism := []
deriving BEq

namespace WorldDraft

def form : RecordForm WorldDraft where
  blank := {}
  others := .ignored
  fields := [
    .optional "metadata" (·.metadata) fun v d => { d with metadata := v },
    .optional "environment" (·.environment) fun v d => { d with environment := v },
    .optional "entities" (·.entities) fun v d => { d with entities := v },
    .optional "lights" (·.lights) fun v d => { d with lights := v },
    .optional "systems" (·.mechanisms) fun v d => { d with mechanisms := v }]

instance : JsonForm WorldDraft := form.jsonForm

end WorldDraft

end Diorama
