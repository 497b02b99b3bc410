import Diorama.Geometry.Vec3

namespace Diorama

structure Transform where
  position : Vec3 := .zero
  rotation : Vec3 := .zero
  scale : Vec3 := .one
deriving BEq, DecidableEq, Inhabited

namespace Transform

def form : RecordForm Transform where
  blank := {}
  others := .refused
  fields := [
    .optional "position" (·.position) fun v t => { t with position := v },
    .optional "rotation" (·.rotation) fun v t => { t with rotation := v },
    .optional "scale" (·.scale) fun v t => { t with scale := v }]

instance : JsonForm Transform := form.jsonForm

end Transform

end Diorama
