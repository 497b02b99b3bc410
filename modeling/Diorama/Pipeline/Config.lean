import Diorama.Json.Record

namespace Diorama

structure Config where
  maxIterations : UInt32 := 5
  minApprovalScore : Option UInt8 := none
deriving BEq, DecidableEq

inductive ConfigError where
  | noIterations
  | scoreTooHigh (score : UInt8)
deriving DecidableEq

namespace ConfigError

def reason : ConfigError → String
  | .noIterations => "max_iterations must be at least 1"
  | .scoreTooHigh score => s!"min_approval_score must be at most 100, got {score}"

end ConfigError

namespace Config

def form : RecordForm Config where
  blank := {}
  others := .refused
  fields := [
    .optional "max_iterations" (·.maxIterations) fun v c => { c with maxIterations := v },
    .optional "min_approval_score" (·.minApprovalScore) fun v c => { c with minApprovalScore := v }]

instance : JsonForm Config := form.jsonForm

def problem? (c : Config) : Option ConfigError :=
  if c.maxIterations = 0 then some .noIterations
  else match c.minApprovalScore with
    | some score => if 100 < score then some (.scoreTooHigh score) else none
    | none => none

end Config

end Diorama
