import Diorama.Geometry.Vec3
import Std.Data.HashMap

/-! A grid over the ground plane. It files the places of a list under square cells and finds those in the cells
around a point, so that an exact test need look at few of them. -/

namespace Diorama

structure Cell where
  x : Int
  z : Int
deriving DecidableEq, Hashable, Repr

namespace Cell

def within (c low high : Cell) : Bool :=
  low.x ≤ c.x && c.x ≤ high.x && low.z ≤ c.z && c.z ≤ high.z

def span (low high : Cell) : Int64 :=
  (.ofInt high.x - .ofInt low.x + 1) * (.ofInt high.z - .ofInt low.z + 1)

def rectangle (low high : Cell) : List Cell :=
  (List.range (high.x - low.x + 1).toNat).flatMap fun (column : Nat) =>
    (List.range (high.z - low.z + 1).toNat).map fun (row : Nat) => ⟨low.x + column, low.z + row⟩

end Cell

structure Grid where
  cellSize : Scalar
  cells : Std.HashMap Cell (Array Nat)
  size : Nat

namespace Grid

def defaultCellSize : Scalar := 16

def ofCellSize (cellSize : Scalar) : Grid where
  cellSize := if cellSize.isFinite && 0 < cellSize then cellSize else defaultCellSize
  cells := ∅
  size := 0

def coordinate (g : Grid) (a : Scalar) : Int :=
  let least := Int32.minValue.toInt
  let greatest := Int32.maxValue.toInt
  max least (min greatest (Scalar.floor least greatest (a / g.cellSize)))

def cell (g : Grid) (p : Vec3) : Cell := ⟨g.coordinate p.x, g.coordinate p.z⟩

def file (g : Grid) (index : Nat) (p : Vec3) : Grid :=
  let key := g.cell p
  match g with
  | ⟨cellSize, cells, size⟩ =>
    ⟨cellSize, cells.alter key fun indices => some ((indices.getD #[]).push index), size⟩

def insert (g : Grid) (index : Nat) (p : Vec3) : Grid :=
  match g.file index p with
  | ⟨cellSize, cells, size⟩ => ⟨cellSize, cells, max size (index + 1)⟩

def ofPlaces (places : List Vec3) (cellSize : Scalar) : Grid :=
  places.zipIdx.foldl (fun g (p, index) => g.file index p)
    { ofCellSize cellSize with size := places.length }

def indicesIn (g : Grid) (c : Cell) : List Nat := (g.cells.getD c #[]).toList

/-- The indices filed under the cells that meet the square around a point, in increasing order. Where
the square has more cells than are occupied, the occupied ones are looked through instead. A region
that is not finite has every index as a candidate. -/
def candidatesNear (g : Grid) (center : Vec3) (radius : Scalar) : List Nat :=
  if !center.isFinite || !radius.isFinite then List.range g.size
  else if radius < 0 then []
  else
    let low := g.cell (center - .splat radius)
    let high := g.cell (center + .splat radius)
    let found :=
      if .ofNat g.cells.size < Cell.span low high then
        g.cells.toList.flatMap fun (c, indices) =>
          if c.within low high then indices.toList else []
      else (Cell.rectangle low high).flatMap g.indicesIn
    found.mergeSort (· ≤ ·)

def cellCount (g : Grid) : Nat := g.cells.size

def placementCount (g : Grid) : Nat := (g.cells.toList.flatMap (·.2.toList)).length

end Grid

end Diorama
