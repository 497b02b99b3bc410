import Diorama.Geometry.Vec3

/-! Sample places on rings around a point. Ring zero is the point itself; ring `k` has the radius of `k` steps
and `5 * k` samples, counter-clockwise from the first axis. -/

namespace Diorama.Rings

def limit : Nat := 512

/-- The factor by which the rings of a search lie farther apart than its spacing, so that rounding does
not bring them closer. -/
def stepFactor : Scalar := 1.001

def fullTurn : Scalar := 6.283185307179586

def scalar (n : Nat) : Scalar := n.toUInt32.toFloat32

def ring (near : Vec3) (step : Scalar) : Nat → List Vec3
  | 0 => [near]
  | k =>
    let radius := scalar k * step
    let count := 5 * k
    (List.range count).map fun (i : Nat) =>
      let angle := fullTurn * scalar i / scalar count
      near + ⟨radius * angle.cos, 0, radius * angle.sin⟩

def within (reach step : Scalar) : Nat :=
  let ratio := reach / step
  if ratio.isFinite then min limit (Scalar.floor 0 0 ratio).toNat else limit

def samples (near : Vec3) (step : Scalar) (rings : Nat) : List Vec3 :=
  (List.range (rings + 1)).flatMap (ring near step)

end Diorama.Rings
