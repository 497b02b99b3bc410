import Diorama.Geometry.Color
import Diorama.Geometry.Transform

namespace Diorama

inductive LightKind where
  | directional
  | point
  | spot
  | area
  | ambient
deriving DecidableEq

instance : Inhabited LightKind := ⟨.point⟩

instance : Named LightKind where
  all := [.directional, .point, .spot, .area, .ambient]
  name
    | .directional => "directional"
    | .point => "point"
    | .spot => "spot"
    | .area => "area"
    | .ambient => "ambient"

namespace LightKind

def hasRange (k : LightKind) : Bool := k = .point || k = .spot

def hasSpotAngle (k : LightKind) : Bool := k = .spot

end LightKind

structure Light where
  id : String
  name : String
  kind : LightKind := .point
  color : Color := .white
  intensity : Scalar := 1
  range : Option Scalar := none
  spotAngle : Option Scalar := none
  castShadows : Bool := true
  transform : Transform := {}
deriving BEq, DecidableEq

namespace Light

def form : RecordForm Light where
  blank := { id := "", name := "" }
  others := .refused
  fields := [
    .required "id" (·.id) fun v l => { l with id := v },
    .required "name" (·.name) fun v l => { l with name := v },
    .optional "light_type" (·.kind) fun v l => { l with kind := v },
    .optional "color" (·.color) fun v l => { l with color := v },
    .optional "intensity" (·.intensity) fun v l => { l with intensity := v },
    .optional "range" (·.range) fun v l => { l with range := v },
    .optional "spot_angle" (·.spotAngle) fun v l => { l with spotAngle := v },
    .optional "cast_shadows" (·.castShadows) fun v l => { l with castShadows := v },
    .optional "transform" (·.transform) fun v l => { l with transform := v }]

instance : JsonForm Light := form.jsonForm

end Light

end Diorama
