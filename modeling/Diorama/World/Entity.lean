import Diorama.Geometry.Transform
import Diorama.World.Material
import Diorama.World.Physics

namespace Diorama

inductive EntityKind where
  | terrain
  | staticMesh
  | dynamicObject
  | character
  | prop
  | trigger
  | spawnPoint
  | waypoint
  | camera
  | audioSource
  | particleSystem
deriving DecidableEq

instance : Inhabited EntityKind := ⟨.staticMesh⟩

instance : Named EntityKind where
  all := [.terrain, .staticMesh, .dynamicObject, .character, .prop, .trigger, .spawnPoint, .waypoint,
    .camera, .audioSource, .particleSystem]
  name
    | .terrain => "terrain"
    | .staticMesh => "static_mesh"
    | .dynamicObject => "dynamic_object"
    | .character => "character"
    | .prop => "prop"
    | .trigger => "trigger"
    | .spawnPoint => "spawn_point"
    | .waypoint => "waypoint"
    | .camera => "camera"
    | .audioSource => "audio_source"
    | .particleSystem => "particle_system"

structure Entity where
  id : String
  name : String
  kind : EntityKind := .staticMesh
  transform : Transform := {}
  material : Option Material := none
  physics : Option Physics := none
  collider : Option Collider := none
  parent : Option String := none
  children : List String := []
  tags : NameSet := ∅
  metadata : Dictionary Value := ∅
  asset : Option String := none
  prefab : Option String := none
deriving BEq

namespace Entity

def form : RecordForm Entity where
  blank := { id := "", name := "" }
  others := .refused
  fields := [
    .required "id" (·.id) fun v e => { e with id := v },
    .required "name" (·.name) fun v e => { e with name := v },
    .optional "entity_type" (·.kind) fun v e => { e with kind := v },
    .optional "transform" (·.transform) fun v e => { e with transform := v },
    .optional "material" (·.material) fun v e => { e with material := v },
    .optional "physics" (·.physics) fun v e => { e with physics := v },
    .optional "collider" (·.collider) fun v e => { e with collider := v },
    .optional "parent_id" (·.parent) fun v e => { e with parent := v },
    .optional "children_ids" (·.children) fun v e => { e with children := v },
    .optional "tags" (·.tags) fun v e => { e with tags := v },
    .optional "metadata" (·.metadata) fun v e => { e with metadata := v },
    .optional "asset_reference" (·.asset) fun v e => { e with asset := v },
    .optional "prefab_reference" (·.prefab) fun v e => { e with prefab := v }]

instance : JsonForm Entity := form.jsonForm

def position (e : Entity) : Vec3 := e.transform.position

end Entity

end Diorama
