import Diorama.Json.Record

namespace Diorama

structure Vec3 where
  x : Scalar
  y : Scalar
  z : Scalar
deriving BEq, DecidableEq, Inhabited

namespace Vec3

def zero : Vec3 := ⟨0, 0, 0⟩

def one : Vec3 := ⟨1, 1, 1⟩

def splat (a : Scalar) : Vec3 := ⟨a, a, a⟩

def map (f : Scalar → Scalar) (v : Vec3) : Vec3 := ⟨f v.x, f v.y, f v.z⟩

def zipWith (f : Scalar → Scalar → Scalar) (v w : Vec3) : Vec3 := ⟨f v.x w.x, f v.y w.y, f v.z w.z⟩

instance : Add Vec3 := ⟨zipWith (· + ·)⟩

instance : Sub Vec3 := ⟨zipWith (· - ·)⟩

def scale (v : Vec3) (a : Scalar) : Vec3 := v.map (· * a)

def abs (v : Vec3) : Vec3 := v.map Float32.abs

def min (v w : Vec3) : Vec3 := zipWith Scalar.min v w

def max (v w : Vec3) : Vec3 := zipWith Scalar.max v w

def dot (v w : Vec3) : Scalar := v.x * w.x + v.y * w.y + v.z * w.z

def distanceSquared (v w : Vec3) : Scalar := (v - w).dot (v - w)

def distance (v w : Vec3) : Scalar := (v.distanceSquared w).sqrt

def isFinite (v : Vec3) : Bool := v.x.isFinite && v.y.isFinite && v.z.isFinite

def toList (v : Vec3) : List Scalar := [v.x, v.y, v.z]

end Vec3

instance : JsonForm Vec3 where
  toJson v := toJson v.toList
  ofJson?
    | .array [x, y, z] => do return ⟨← ofJson? x, ← ofJson? y, ← ofJson? z⟩
    | _ => none

end Diorama
