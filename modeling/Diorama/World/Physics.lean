import Diorama.Geometry.Vec3

namespace Diorama

structure Physics where
  enabled : Bool := false
  isKinematic : Bool := false
  mass : Scalar := 1
  drag : Scalar := 0
  angularDrag : Scalar := 0.05
  useGravity : Bool := true
  collisionEnabled : Bool := true
deriving BEq, DecidableEq

namespace Physics

def form : RecordForm Physics where
  blank := {}
  others := .refused
  fields := [
    .optional "enabled" (·.enabled) fun v p => { p with enabled := v },
    .optional "is_kinematic" (·.isKinematic) fun v p => { p with isKinematic := v },
    .optional "mass" (·.mass) fun v p => { p with mass := v },
    .optional "drag" (·.drag) fun v p => { p with drag := v },
    .optional "angular_drag" (·.angularDrag) fun v p => { p with angularDrag := v },
    .optional "use_gravity" (·.useGravity) fun v p => { p with useGravity := v },
    .optional "collision_enabled" (·.collisionEnabled) fun v p => { p with collisionEnabled := v }]

instance : JsonForm Physics := form.jsonForm

end Physics

inductive ColliderKind where
  | box
  | sphere
  | capsule
  | mesh
  | convex
deriving DecidableEq, Inhabited

instance : Named ColliderKind where
  all := [.box, .sphere, .capsule, .mesh, .convex]
  name
    | .box => "box"
    | .sphere => "sphere"
    | .capsule => "capsule"
    | .mesh => "mesh"
    | .convex => "convex"

structure Collider where
  kind : ColliderKind := .box
  isTrigger : Bool := false
  center : Vec3 := .zero
  size : Vec3 := .one
  radius : Option Scalar := none
  height : Option Scalar := none
deriving BEq, DecidableEq

namespace Collider

def form : RecordForm Collider where
  blank := {}
  others := .refused
  fields := [
    .optional "collider_type" (·.kind) fun v c => { c with kind := v },
    .optional "is_trigger" (·.isTrigger) fun v c => { c with isTrigger := v },
    .optional "center" (·.center) fun v c => { c with center := v },
    .optional "size" (·.size) fun v c => { c with size := v },
    .optional "radius" (·.radius) fun v c => { c with radius := v },
    .optional "height" (·.height) fun v c => { c with height := v }]

instance : JsonForm Collider := form.jsonForm

end Collider

end Diorama
