import Diorama.Geometry.Box
import Diorama.Json.Printer
import Diorama.Json.Reader
import Diorama.World.Entity
import Diorama.World.Environment
import Diorama.World.Light
import Diorama.World.Mechanism

/-! A world: its description, its environment, and its entities, lights and mechanisms in order. A world that
was read may break every rule of the hierarchy; only its form is certain. -/

namespace Diorama

structure WorldInfo where
  title : String
  description : String := ""
  author : String := ""
  version : String := "1.0.0"
  tags : List String := []
  targetPlatforms : List String := ["unity", "unreal", "horizon"]
deriving BEq, DecidableEq

namespace WorldInfo

def form : RecordForm WorldInfo where
  blank := { title := "" }
  others := .refused
  fields := [
    .required "title" (·.title) fun v m => { m with title := v },
    .optional "description" (·.description) fun v m => { m with description := v },
    .optional "author" (·.author) fun v m => { m with author := v },
    .optional "version" (·.version) fun v m => { m with version := v },
    .optional "tags" (·.tags) fun v m => { m with tags := v },
    .optional "target_platforms" (·.targetPlatforms) fun v m => { m with targetPlatforms := v }]

instance : JsonForm WorldInfo := form.jsonForm

end WorldInfo

structure World where
  metadata : WorldInfo
  environment : Environment := {}
  entities : List Entity := []
  lights : List Light := []
  mechanisms : List Mechanism := []
  bounds : Box := .empty
deriving BEq

inductive WorldError where
  | malformed
  | notAnObject (given : Value)
  | duplicateIdentifier (id : String)
  | entityNotFound (id : String)
  | hierarchyCycle (child parent : String)

namespace WorldError

def message : WorldError → String
  | .malformed => "schema violation: the document has not the expected form"
  | .notAnObject given => "schema violation: expected a JSON object, got " ++ given.json.compact
  | .duplicateIdentifier id => "duplicate identifier: " ++ id
  | .entityNotFound id => "entity " ++ id ++ " not found"
  | .hierarchyCycle child parent =>
    "parenting " ++ child ++ " under " ++ parent ++ " would create a cycle"

end WorldError

namespace World

def form : RecordForm World where
  blank := { metadata := { title := "" } }
  others := .refused
  fields := [
    .required "metadata" (·.metadata) fun v w => { w with metadata := v },
    .optional "environment" (·.environment) fun v w => { w with environment := v },
    .optional "entities" (·.entities) fun v w => { w with entities := v },
    .optional "lights" (·.lights) fun v w => { w with lights := v },
    .optional "systems" (·.mechanisms) fun v w => { w with mechanisms := v },
    .optional "bounds" (·.bounds) fun v w => { w with bounds := v }]

instance : JsonForm World := form.jsonForm

def toValue (w : World) : Value := (toJson w).value

def ofValue? (v : Value) : Except WorldError World :=
  match ofJson? v.json with
  | some w => .ok w
  | none => .error .malformed

def toText (w : World) : String := (toJson w).pretty

def ofText? (text : String) : Except WorldError World :=
  match (Json.ofText? text).bind ofJson? with
  | some w => .ok w
  | none => .error .malformed

def entity? (w : World) (id : String) : Option Entity := w.entities.find? (·.id == id)

def light? (w : World) (id : String) : Option Light := w.lights.find? (·.id == id)

def mechanism? (w : World) (id : String) : Option Mechanism := w.mechanisms.find? (·.id == id)

def entitiesOfKind (w : World) (kind : EntityKind) : List Entity := w.entities.filter (·.kind = kind)

def entitiesTagged (w : World) (tag : String) : List Entity :=
  w.entities.filter (·.tags.contains tag)

def ids (w : World) : List String := w.entities.map (·.id) ++ w.lights.map (·.id) ++ w.mechanisms.map (·.id)

def containsId (w : World) (id : String) : Bool := w.ids.contains id

end World

end Diorama
