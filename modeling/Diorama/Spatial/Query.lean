import Diorama.Spatial.Grid
import Diorama.World.Basic

namespace Diorama

def Entity.box (e : Entity) : Box := .ofCenterSize e.position e.transform.scale

namespace World

def boxes (w : World) : List Box := w.entities.map (·.box)

def positions (w : World) : List Vec3 := w.entities.map (·.position)

def extent (w : World) : Box :=
  match w.boxes with
  | [] => .empty
  | first :: rest => rest.foldl Box.union first

def refreshBounds (w : World) : World := { w with bounds := w.extent }

def grid (w : World) (cellSize : Scalar) : Grid := .ofPlaces w.positions cellSize

def entitiesInRadius (w : World) (cellSize : Scalar) (center : Vec3) (radius : Scalar) :
    List Entity :=
  if radius.isNaN || radius < 0 then []
  else
    let entities := w.entities.toArray
    ((w.grid cellSize).candidatesNear center radius).filterMap fun index =>
      entities[index]?.filter fun e => center.distanceSquared e.position ≤ radius * radius

def entitiesInBox (w : World) (region : Box) : List Entity :=
  w.entities.filter fun e => region.contains e.position

def nearest? (w : World) (point : Vec3) : Option (Entity × Scalar) :=
  w.entities.foldl (fun best e =>
    let distance := point.distance e.position
    match best with
    | none => some (e, distance)
    | some (found, least) => if distance < least then some (e, distance) else some (found, least))
    none

def density (w : World) (region : Box) : Scalar :=
  let volume := region.volume
  if volume ≤ 0 || !volume.isFinite then 0
  else Scalar.ofInt (w.entitiesInBox region).length / volume

end World

end Diorama
