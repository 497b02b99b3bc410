import Diorama.Geometry.Color

namespace Diorama

inductive MaterialKind where
  | standard
  | pbr
  | unlit
  | transparent
  | emissive
deriving DecidableEq, Inhabited

instance : Named MaterialKind where
  all := [.standard, .pbr, .unlit, .transparent, .emissive]
  name
    | .standard => "standard"
    | .pbr => "pbr"
    | .unlit => "unlit"
    | .transparent => "transparent"
    | .emissive => "emissive"

structure Material where
  name : String
  kind : MaterialKind := .standard
  baseColor : Color := .white
  metallic : Scalar := 0
  roughness : Scalar := 0.5
  emissionColor : Option Color := none
  emissionStrength : Scalar := 0
  texturePath : Option String := none
  normalMapPath : Option String := none
deriving BEq, DecidableEq

namespace Material

def form : RecordForm Material where
  blank := { name := "" }
  others := .refused
  fields := [
    .required "name" (·.name) fun v m => { m with name := v },
    .optional "material_type" (·.kind) fun v m => { m with kind := v },
    .optional "base_color" (·.baseColor) fun v m => { m with baseColor := v },
    .optional "metallic" (·.metallic) fun v m => { m with metallic := v },
    .optional "roughness" (·.roughness) fun v m => { m with roughness := v },
    .optional "emission_color" (·.emissionColor) fun v m => { m with emissionColor := v },
    .optional "emission_strength" (·.emissionStrength) fun v m => { m with emissionStrength := v },
    .optional "texture_path" (·.texturePath) fun v m => { m with texturePath := v },
    .optional "normal_map_path" (·.normalMapPath) fun v m => { m with normalMapPath := v }]

instance : JsonForm Material := form.jsonForm

end Material

end Diorama
