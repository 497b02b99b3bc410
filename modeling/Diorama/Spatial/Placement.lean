import Diorama.Spatial.Query
import Diorama.Spatial.Rings

namespace Diorama

structure PlacementSearch where
  accepted : Array Vec3
  grid : Grid

namespace PlacementSearch

def isClear (grid : Grid) (places : Array Vec3) (spacing : Scalar) (sample : Vec3) : Bool :=
  !(0 < spacing) ||
    (grid.candidatesNear sample spacing).all fun index =>
      places[index]?.all fun p => !(sample.distanceSquared p < spacing * spacing)

def accept (s : PlacementSearch) (sample : Vec3) : PlacementSearch :=
  match s with
  | ⟨accepted, grid⟩ =>
    let index := accepted.size
    ⟨accepted.push sample, grid.insert index sample⟩

def visit (clear : Vec3 → Bool) (spacing : Scalar) (count : Nat) :
    List Vec3 → PlacementSearch → PlacementSearch
  | [], s => s
  | sample :: rest, s =>
    if count ≤ s.accepted.size then s
    else if clear sample && isClear s.grid s.accepted spacing sample then
      visit clear spacing count rest (s.accept sample)
    else visit clear spacing count rest s

def visitRings (visitRing : Nat → PlacementSearch → PlacementSearch) (count : Nat) :
    Nat → Nat → PlacementSearch → PlacementSearch
  | 0, _, s => s
  | rings + 1, k, s =>
    if count ≤ s.accepted.size then s
    else visitRings visitRing count rings (k + 1) (visitRing k s)

end PlacementSearch

namespace World

def placementsWithin (w : World) (cellSize : Scalar) (near : Vec3) (desired : Scalar) (count : Nat)
    (reach : Scalar) : List Vec3 :=
  if count = 0 || !near.isFinite || !desired.isFinite then []
  else
    let spacing := Scalar.max desired 0
    let step := if 0 < spacing then spacing * Rings.stepFactor else 1
    let positions := w.positions.toArray
    let grid := w.grid cellSize
    let clear := PlacementSearch.isClear grid positions spacing
    let start : PlacementSearch := ⟨#[], .ofCellSize spacing⟩
    let visitRing k := PlacementSearch.visit clear spacing count (Rings.ring near step k)
    (PlacementSearch.visitRings visitRing count (Rings.within reach step + 1) 0 start).accepted.toList

def placementReach (w : World) (near : Vec3) (desired : Scalar) (count : Nat) : Scalar :=
  let farthest :=
    if w.entities.isEmpty then 0
    else (w.extent.corners.map (·.distance near)).foldl Scalar.max 0
  farthest + Scalar.max desired 1 * Scalar.ofInt count

def placements (w : World) (cellSize : Scalar) (near : Vec3) (desired : Scalar) (count : Nat) :
    List Vec3 :=
  w.placementsWithin cellSize near desired count (w.placementReach near desired count)

end World

end Diorama
