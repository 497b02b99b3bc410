import Diorama.Json.Printer
import Diorama.Pipeline.Verdict
import Diorama.Spatial.Collision
import Diorama.Validation.Validator

namespace Diorama

structure StructuralReview where
  report : Report
  analysis : SpatialAnalysis

namespace StructuralReview

def of (w : World) (v : Validator) : StructuralReview := ⟨v.validate w, w.analysis⟩

def text (s : StructuralReview) : String :=
  let verdict := if s.report.isValid then "passed" else "failed"
  let counts := s!"({s.report.errors.length} errors, {s.report.warnings.length} warnings)"
  let density := Decimal.fixed 4 s.analysis.density
  s!"Structural validation: {verdict} {counts}\n"
    ++ String.join (s.report.issues.map fun i => s!"- {i.text}\n")
    ++ s!"Spatial: {s.analysis.entityCount} entities, {s.analysis.collisionCount} overlapping pairs, "
    ++ s!"density {density}\n"

end StructuralReview

structure ReviewRecord where
  approved : Bool := false
  verdict : Option Verdict := none
  structuralErrors : List String := []
  structuralWarnings : List String := []
  collisionCount : UInt64 := 0
  feedback : List String := []
deriving BEq

namespace ReviewRecord

def form : RecordForm ReviewRecord where
  blank := {}
  others := .refused
  fields := [
    .required "approved" (·.approved) fun v r => { r with approved := v },
    .optional "verdict" (·.verdict) fun v r => { r with verdict := v },
    .optional "structural_errors" (·.structuralErrors) fun v r => { r with structuralErrors := v },
    .optional "structural_warnings" (·.structuralWarnings) fun v r =>
      { r with structuralWarnings := v },
    .optional "collision_count" (·.collisionCount) fun v r => { r with collisionCount := v },
    .optional "feedback" (·.feedback) fun v r => { r with feedback := v }]

instance : JsonForm ReviewRecord := form.jsonForm

def remark (v : Value) : String :=
  match v.json with
  | .string s => s
  | json => json.compact

def remarks (v : Verdict) : List String :=
  v.feedback.toList ++ v.improvements ++ v.issues.map remark

def of (structural : Option StructuralReview) (verdict : Option Verdict) (approved : Bool) :
    ReviewRecord :=
  let errors := (structural.map fun s => s.report.errors.map (·.text)).getD []
  let absence := if structural.isNone then ["no candidate world was synthesized"] else []
  { approved := approved
    verdict := verdict
    structuralErrors := errors
    structuralWarnings := (structural.map fun s => s.report.warnings.map (·.text)).getD []
    collisionCount := .ofNat ((structural.map (·.analysis.collisionCount)).getD 0)
    feedback := absence ++ (verdict.map remarks).getD [] ++ errors }

end ReviewRecord

def Verdict.reaches (v : Verdict) (least : Option UInt8) : Bool :=
  least.all fun least => v.score.any fun score => Scalar.ofInt least.toNat ≤ score

def isApproved (structural : Option StructuralReview) (verdict : Option Verdict)
    (leastScore : Option UInt8) : Bool :=
  structural.any (·.report.isValid)
    && verdict.all fun v => v.approved && v.reaches leastScore

end Diorama
