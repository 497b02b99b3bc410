import Diorama.Geometry.Color
import Diorama.Geometry.Transform

namespace Diorama

inductive LooseVec3 where
  | array (v : Vec3)
  | object (x y z : Option Scalar)
deriving BEq

namespace LooseVec3

structure Coordinates where
  x : Option Scalar := none
  y : Option Scalar := none
  z : Option Scalar := none

def coordinatesForm : RecordForm Coordinates where
  blank := {}
  others := .ignored
  fields := [
    .optional "x" (·.x) fun v c => { c with x := v },
    .optional "y" (·.y) fun v c => { c with y := v },
    .optional "z" (·.z) fun v c => { c with z := v }]

instance : JsonForm LooseVec3 where
  toJson
    | .array v => toJson v
    | .object x y z => coordinatesForm.write ⟨x, y, z⟩
  ofJson? j :=
    if j.isReadable then
      match j with
      | .object members => (coordinatesForm.readMembers? members).map fun c => .object c.x c.y c.z
      | j => (ofJson? j).map .array
    else none

def fill (v : LooseVec3) (fallback : Vec3) : Vec3 :=
  match v with
  | .array v => v
  | .object x y z => ⟨x.getD fallback.x, y.getD fallback.y, z.getD fallback.z⟩

end LooseVec3

structure LooseColor where
  r : Option Scalar := none
  g : Option Scalar := none
  b : Option Scalar := none
  a : Option Scalar := none
deriving BEq

namespace LooseColor

def form : RecordForm LooseColor where
  blank := {}
  others := .ignored
  fields := [
    .optional "r" (·.r) fun v c => { c with r := v },
    .optional "g" (·.g) fun v c => { c with g := v },
    .optional "b" (·.b) fun v c => { c with b := v },
    .optional "a" (·.a) fun v c => { c with a := v }]

instance : JsonForm LooseColor := form.jsonForm

def fill (c : LooseColor) : Color := ⟨c.r.getD 1, c.g.getD 1, c.b.getD 1, c.a.getD 1⟩

end LooseColor

structure LooseTransform where
  position : Option LooseVec3 := none
  rotation : Option LooseVec3 := none
  scale : Option LooseVec3 := none
deriving BEq

namespace LooseTransform

def form : RecordForm LooseTransform where
  blank := {}
  others := .ignored
  fields := [
    .optional "position" (·.position) fun v t => { t with position := v },
    .optional "rotation" (·.rotation) fun v t => { t with rotation := v },
    .optional "scale" (·.scale) fun v t => { t with scale := v }]

instance : JsonForm LooseTransform := form.jsonForm

def fill (t : LooseTransform) : Transform :=
  let base : Transform := {}
  let part (v : Option LooseVec3) (fallback : Vec3) : Vec3 := (v.map (·.fill fallback)).getD fallback
  { position := part t.position base.position
    rotation := part t.rotation base.rotation
    scale := part t.scale base.scale }

end LooseTransform

end Diorama
