import Diorama.World.Basic

/-! Changes of a world that keep its identifiers unique and its hierarchy consistent: every parent is an entity,
no entity is its own ancestor, and each entity lists exactly the entities that name it as their parent. A change
that would break this fails and leaves the world as it was. -/

namespace Diorama

def lineage (parent : String → Option String) : Nat → String → List String
  | 0, id => [id]
  | links + 1, id =>
    match parent id with
    | none => [id]
    | some up => id :: lineage parent links up

namespace World

def parent? (w : World) (id : String) : Option String := (w.entity? id).bind (·.parent)

/-- Whether the way up from one identifier meets another. A way of more links than entities goes round
in a cycle and meets nothing new. -/
def reaches (w : World) (start target : String) : Bool :=
  (lineage w.parent? w.entities.length start).contains target

def updateFirst (id : String) (change : Entity → Entity) : List Entity → List Entity
  | [] => []
  | e :: rest => if e.id = id then change e :: rest else e :: updateFirst id change rest

def updateEntity (w : World) (id : String) (change : Entity → Entity) : World :=
  { w with entities := updateFirst id change w.entities }

def childrenOf (w : World) (id : String) : List String :=
  (w.entities.filter (·.parent = some id)).map (·.id)

def addChild (child : String) (e : Entity) : Entity := { e with children := e.children ++ [child] }

def dropChild (child : String) (e : Entity) : Entity :=
  { e with children := e.children.filter (· != child) }

def link (w : World) (e : Entity) : World :=
  let placed := { e with children := w.childrenOf e.id }
  let linked := match e.parent with
    | none => w
    | some parent => w.updateEntity parent (addChild e.id)
  { linked with entities := linked.entities ++ [placed] }

def addEntity (w : World) (e : Entity) : Except WorldError World := do
  if w.containsId e.id then throw (.duplicateIdentifier e.id)
  if let some parent := e.parent then
    if w.reaches parent e.id then throw (.hierarchyCycle e.id parent)
    if (w.entity? parent).isNone then throw (.entityNotFound parent)
  return w.link e

def firstTaken? (w : World) : List String → List Entity → Option String
  | _, [] => none
  | seen, e :: rest =>
    if w.containsId e.id || seen.contains e.id then some e.id else w.firstTaken? (e.id :: seen) rest

def parentWith? (w : World) (batch : List Entity) (id : String) : Option String :=
  match batch.find? (·.id == id) with
  | some e => e.parent
  | none => w.parent? id

def parentProblem? (w : World) (batch : List Entity) (e : Entity) : Option WorldError :=
  e.parent.bind fun parent =>
    if !batch.any (·.id == parent) && (w.entity? parent).isNone then some (.entityNotFound parent)
    else if (lineage (w.parentWith? batch) (batch.length + w.entities.length) parent).contains e.id then
      some (.hierarchyCycle e.id parent)
    else none

def addEntities (w : World) (batch : List Entity) : Except WorldError World := do
  if let some id := w.firstTaken? [] batch then throw (.duplicateIdentifier id)
  if let some problem := batch.findSome? (w.parentProblem? batch) then throw problem
  return batch.foldl link w

def addLight (w : World) (l : Light) : Except WorldError World :=
  if w.containsId l.id then .error (.duplicateIdentifier l.id)
  else .ok { w with lights := w.lights ++ [l] }

def addMechanism (w : World) (m : Mechanism) : Except WorldError World :=
  if w.containsId m.id then .error (.duplicateIdentifier m.id)
  else .ok { w with mechanisms := w.mechanisms ++ [m] }

def orphan (id : String) (e : Entity) : Entity :=
  dropChild id { e with parent := if e.parent = some id then none else e.parent }

def removeEntity (w : World) (id : String) : Except WorldError (Entity × World) :=
  match w.entity? id with
  | none => .error (.entityNotFound id)
  | some e =>
    .ok (e, { w with entities := (w.entities.eraseP (·.id == id)).map (orphan id) })

def setParent (w : World) (child : String) (parent : Option String) : Except WorldError World := do
  if (w.entity? child).isNone then throw (.entityNotFound child)
  if let some up := parent then
    if (w.entity? up).isNone then throw (.entityNotFound up)
    if w.reaches up child then throw (.hierarchyCycle child up)
  let detached := { w with entities := w.entities.map (dropChild child) }
  let entered := match parent with
    | none => detached
    | some up => detached.updateEntity up (addChild child)
  return entered.updateEntity child fun e => { e with parent := parent }

def setTransform (w : World) (id : String) (t : Transform) : Except WorldError World :=
  if (w.entity? id).isNone then .error (.entityNotFound id)
  else .ok (w.updateEntity id fun e => { e with transform := t })

def rebuildChildren (w : World) : World :=
  let cleared := { w with entities := w.entities.map fun e => { e with children := [] } }
  w.entities.foldl (fun built e =>
    match e.parent with
    | none => built
    | some parent => built.updateEntity parent (addChild e.id)) cleared

end World

end Diorama
