import Diorama.Json.Form

namespace Diorama

inductive Stage where
  | vision
  | systems
  | technical
  | synthesis
  | review
deriving DecidableEq, Inhabited, Repr

instance : Named Stage where
  all := [.vision, .systems, .technical, .synthesis, .review]
  name
    | .vision => "vision"
    | .systems => "systems"
    | .technical => "technical"
    | .synthesis => "synthesis"
    | .review => "review"

namespace Stage

def name (s : Stage) : String := Named.name s

def design : List Stage := [.vision, .systems, .technical]

def next? : Stage → Option Stage
  | .vision => some .systems
  | .systems => some .technical
  | .technical => some .synthesis
  | .synthesis => some .review
  | .review => none

end Stage

structure StageFailure where
  stage : Stage
  reason : String
deriving DecidableEq

namespace StageFailure

def text (f : StageFailure) : String := f.stage.name ++ " stage failed: " ++ f.reason

end StageFailure

end Diorama
