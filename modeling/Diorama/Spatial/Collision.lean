import Diorama.Spatial.Query

namespace Diorama

structure CollisionPair where
  first : String
  second : String
deriving DecidableEq, Repr

namespace CollisionPair

def of (a b : String) : CollisionPair := if a ≤ b then ⟨a, b⟩ else ⟨b, a⟩

def contains (p : CollisionPair) (id : String) : Bool := p.first == id || p.second == id

def le (p q : CollisionPair) : Bool :=
  p.first < q.first || (p.first == q.first && p.second ≤ q.second)

def form : RecordForm CollisionPair where
  blank := ⟨"", ""⟩
  others := .ignored
  fields := [
    .required "first" (·.first) fun v p => { p with first := v },
    .required "second" (·.second) fun v p => { p with second := v }]

instance : JsonForm CollisionPair := form.jsonForm

end CollisionPair

namespace World

def collidingWith (w : World) (id : String) : List Entity :=
  match w.entities.findIdx? (·.id == id) with
  | none => []
  | some index =>
    match w.boxes[index]? with
    | none => []
    | some target =>
      w.entities.zipIdx.filterMap fun (e, i) =>
        if i != index && target.overlaps e.box then some e else none

def sweepFrom (id : String) (box : Box) (later : List (String × Box)) : List CollisionPair :=
  (later.takeWhile fun (_, other) => !(box.max.x ≤ other.min.x)).filterMap fun (otherId, other) =>
    if box.overlaps other then some (.of id otherId) else none

def sweep : List (String × Box) → List CollisionPair
  | [] => []
  | (id, box) :: later => sweepFrom id box later ++ sweep later

def collisions (w : World) : List CollisionPair :=
  let solid := (w.entities.map fun e => (e.id, e.box)).filter fun (_, box) =>
    box.isFinite && !box.isDegenerate
  let order := solid.mergeSort fun (_, a) (_, b) => Scalar.rank a.min.x ≤ Scalar.rank b.min.x
  ((sweep order).mergeSort CollisionPair.le).eraseReps

end World

structure SpatialAnalysis where
  entityCount : Nat
  bounds : Option Box
  collisions : List CollisionPair
  density : Scalar

namespace SpatialAnalysis

def collisionCount (a : SpatialAnalysis) : Nat := a.collisions.length

def json (a : SpatialAnalysis) : Json :=
  .object [
    ("entity_count", .integer a.entityCount),
    ("bounds", toJson a.bounds),
    ("collisions", toJson a.collisions),
    ("collision_count", .integer a.collisionCount),
    ("density", toJson a.density)]

end SpatialAnalysis

def World.analysis (w : World) : SpatialAnalysis where
  entityCount := w.entities.length
  bounds := if w.entities.isEmpty then none else some w.extent
  collisions := w.collisions
  density := if w.entities.isEmpty then 0 else w.density w.extent

end Diorama
