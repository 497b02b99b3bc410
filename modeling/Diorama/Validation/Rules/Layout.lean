import Diorama.Spatial.Collision
import Diorama.Validation.Numeral
import Diorama.Validation.Validator

namespace Diorama.Rule

def boundsTolerance : Scalar := 1e-3

def entityPhysics (e : Entity) : List Issue :=
  let enabled := e.physics.any (·.enabled)
  (if enabled && e.physics.any (·.mass == 0) then
      [{ severity := .warning
         code := .physicsConfig
         message := s!"`{e.id}` has physics enabled with zero mass"
         subject := some e.id
         field := some "physics.mass" }]
    else [])
  ++ if e.kind = .dynamicObject && !enabled then
      [{ severity := .info
         code := .physicsConfig
         message := s!"dynamic object `{e.id}` has no enabled physics"
         subject := some e.id
         field := some "physics" }]
    else []

def physicsSettings (w : World) : List Issue := w.entities.flatMap entityPhysics

def boundsText (b : Box) : String := Message.vector b.min ++ ".." ++ Message.vector b.max

def boundsConsistency (w : World) : List Issue :=
  if w.bounds.approxEq w.extent boundsTolerance then []
  else [{
    severity := .warning
    code := .boundsMismatch
    message := s!"stored bounds {boundsText w.bounds} differ from derived {boundsText w.extent}"
    field := some "bounds" }]

def listedPairs : Nat := 5

def collisions (w : World) : List Issue :=
  let pairs := w.collisions
  if pairs.isEmpty then []
  else
    let listed := (pairs.take listedPairs).map fun p => p.first ++ "/" ++ p.second
    let sample := if listedPairs < pairs.length then listed ++ ["..."] else listed
    [{ severity := .warning
       code := .collision
       message := s!"{pairs.length} overlapping entity pair(s): " ++ ", ".intercalate sample }]

end Diorama.Rule
