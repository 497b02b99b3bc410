import Diorama.Geometry.Vec3

/-! Boxes whose edges follow the axes. Faces belong to a box, so touching boxes intersect; boxes overlap only
where they share a volume. -/

namespace Diorama

structure Box where
  min : Vec3
  max : Vec3
deriving BEq, DecidableEq, Inhabited

namespace Box

def empty : Box := ⟨.zero, .zero⟩

def ofCenterSize (center size : Vec3) : Box :=
  let half := size.abs.scale 0.5
  ⟨center - half, center + half⟩

def center (b : Box) : Vec3 := (b.min + b.max).scale 0.5

def size (b : Box) : Vec3 := b.max - b.min

def volume (b : Box) : Scalar := b.size.x * b.size.y * b.size.z

def isDegenerate (b : Box) : Bool := b.size.x ≤ 0 || b.size.y ≤ 0 || b.size.z ≤ 0

def isFinite (b : Box) : Bool := b.min.isFinite && b.max.isFinite

def contains (b : Box) (p : Vec3) : Bool :=
  b.min.x ≤ p.x && p.x ≤ b.max.x && b.min.y ≤ p.y && p.y ≤ b.max.y && b.min.z ≤ p.z && p.z ≤ b.max.z

def intersects (a b : Box) : Bool :=
  a.min.x ≤ b.max.x && b.min.x ≤ a.max.x && a.min.y ≤ b.max.y && b.min.y ≤ a.max.y
    && a.min.z ≤ b.max.z && b.min.z ≤ a.max.z

def overlapExtent (a b : Box) : Vec3 := a.max.min b.max - a.min.max b.min

def overlaps (a b : Box) : Bool :=
  let extent := a.overlapExtent b
  0 < extent.x && 0 < extent.y && 0 < extent.z

def union (a b : Box) : Box := ⟨a.min.min b.min, a.max.max b.max⟩

def expand (b : Box) (amount : Scalar) : Box := ⟨b.min - .splat amount, b.max + .splat amount⟩

def corners (b : Box) : List Vec3 :=
  [b.min.z, b.max.z].flatMap fun z =>
    [b.min.y, b.max.y].flatMap fun y => [b.min.x, b.max.x].map fun x => ⟨x, y, z⟩

def approxEq (a b : Box) (tolerance : Scalar) : Bool :=
  let close (v w : Vec3) : Bool := (v - w).abs.toList.all (· ≤ tolerance)
  close a.min b.min && close a.max b.max

def form : RecordForm Box where
  blank := empty
  others := .refused
  fields := [
    .required "min" (·.min) fun v b => { b with min := v },
    .required "max" (·.max) fun v b => { b with max := v }]

instance : JsonForm Box := form.jsonForm

end Box

end Diorama
