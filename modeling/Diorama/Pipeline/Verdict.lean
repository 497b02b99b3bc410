import Diorama.Json.Record

namespace Diorama

structure Verdict where
  approved : Bool := false
  score : Option Scalar := none
  completeness : Option String := none
  consistency : Option String := none
  performance : Option String := none
  improvements : List String := []
  issues : List Value := []
  feedback : Option String := none
deriving BEq

namespace Verdict

def form : RecordForm Verdict where
  blank := {}
  others := .ignored
  fields := [
    (Field.optional "approved" (·.approved) fun v d => { d with approved := v }).orNamed "approval",
    .optional "score" (·.score) fun v d => { d with score := v },
    .optional "completeness" (·.completeness) fun v d => { d with completeness := v },
    .optional "consistency" (·.consistency) fun v d => { d with consistency := v },
    .optional "performance" (·.performance) fun v d => { d with performance := v },
    .optional "improvements" (·.improvements) fun v d => { d with improvements := v },
    .optional "issues" (·.issues) fun v d => { d with issues := v },
    .optional "feedback" (·.feedback) fun v d => { d with feedback := v }]

instance : JsonForm Verdict := form.jsonForm

end Verdict

end Diorama
