import Diorama.Pipeline.Design
import Diorama.Pipeline.Review
import Diorama.Pipeline.Stage

namespace Diorama

structure TraceEntry where
  stage : Stage
  iteration : UInt32
  text : String
deriving BEq, DecidableEq

namespace TraceEntry

def form : RecordForm TraceEntry where
  blank := { stage := .vision, iteration := 0, text := "" }
  others := .refused
  fields := [
    .required "stage" (·.stage) fun v m => { m with stage := v },
    .required "iteration" (·.iteration) fun v m => { m with iteration := v },
    .required "text" (·.text) fun v m => { m with text := v }]

instance : JsonForm TraceEntry := form.jsonForm

end TraceEntry

inductive Delta where
  | vision (design : Vision)
  | systems (design : SystemsDesign)
  | technical (design : TechnicalDesign)
  | synthesis (candidate : World)
  | review (record : ReviewRecord)
  | failed (failure : StageFailure)

namespace Delta

def stage : Delta → Stage
  | .vision _ => .vision
  | .systems _ => .systems
  | .technical _ => .technical
  | .synthesis _ => .synthesis
  | .review _ => .review
  | .failed failure => failure.stage

def text : Delta → String
  | .vision _ => "vision merged"
  | .systems _ => "systems merged"
  | .technical _ => "technical merged"
  | .synthesis w =>
    s!"candidate `{w.metadata.title}` with {w.entities.length} entities, {w.lights.length} lights, "
      ++ s!"{w.mechanisms.length} systems"
  | .review record =>
    if record.approved then "approved" else s!"revision requested ({record.feedback.length} notes)"
  | .failed failure => failure.text

end Delta

structure Contract where
  prompt : String
  vision : Option Vision := none
  systems : Option SystemsDesign := none
  technical : Option TechnicalDesign := none
  candidate : Option World := none
  review : Option ReviewRecord := none
  messages : List TraceEntry := []
  stage : Option Stage := none
  iteration : UInt32 := 0
  maxIterations : UInt32
  errors : List String := []
  complete : Bool := false
deriving BEq

namespace Contract

def form : RecordForm Contract where
  blank := { prompt := "", maxIterations := 0 }
  others := .refused
  fields := [
    .required "prompt" (·.prompt) fun v c => { c with prompt := v },
    .optional "vision" (·.vision) fun v c => { c with vision := v },
    .optional "systems" (·.systems) fun v c => { c with systems := v },
    .optional "technical" (·.technical) fun v c => { c with technical := v },
    .optional "synthesis" (·.candidate) fun v c => { c with candidate := v },
    .optional "review" (·.review) fun v c => { c with review := v },
    .optional "messages" (·.messages) fun v c => { c with messages := v },
    .optional "current_stage" (·.stage) fun v c => { c with stage := v },
    .optional "iteration" (·.iteration) fun v c => { c with iteration := v },
    .required "max_iterations" (·.maxIterations) fun v c => { c with maxIterations := v },
    .optional "errors" (·.errors) fun v c => { c with errors := v },
    .optional "complete" (·.complete) fun v c => { c with complete := v }]

instance : JsonForm Contract := form.jsonForm

def toText (c : Contract) : String := (toJson c).pretty

def ofText? (text : String) : Except WorldError Contract :=
  match (Json.ofText? text).bind ofJson? with
  | some c => .ok c
  | none => .error .malformed

def put (c : Contract) : Delta → Contract
  | .vision design => { c with vision := some design }
  | .systems design => { c with systems := some design }
  | .technical design => { c with technical := some design }
  | .synthesis candidate => { c with candidate := some candidate }
  | .review record => { c with review := some record }
  | .failed failure => { c with errors := c.errors ++ [failure.text] }

def merge (c : Contract) (d : Delta) : Contract :=
  { c.put d with
    stage := some d.stage
    messages := c.messages ++ [{ stage := d.stage, iteration := c.iteration, text := d.text }] }

theorem counts_merge (c : Contract) (d : Delta) :
    (c.merge d).iteration = c.iteration ∧ (c.merge d).maxIterations = c.maxIterations := by
  cases d <;> exact ⟨rfl, rfl⟩

def revise (c : Contract) : Contract :=
  { c with iteration := min (c.iteration + 1) c.maxIterations }

theorem toNat_min (a b : UInt32) : (min a b).toNat = min a.toNat b.toNat := by
  change (if a ≤ b then a else b).toNat = _
  split
  · exact (Nat.min_eq_left (UInt32.le_iff_toNat_le.mp ‹_›)).symm
  · exact (Nat.min_eq_right (Nat.le_of_not_le fun h => ‹¬a ≤ b› (UInt32.le_iff_toNat_le.mpr h))).symm

theorem toNat_iteration_revise (c : Contract) : c.revise.iteration.toNat =
    min ((c.iteration.toNat + 1) % UInt32.size) c.maxIterations.toNat := by
  rw [revise, toNat_min, UInt32.toNat_add]
  rfl

theorem toNat_iteration_revise_of_lt {c : Contract} (h : c.iteration < c.maxIterations) :
    c.revise.iteration.toNat = c.iteration.toNat + 1 := by
  have hlimit : c.maxIterations.toNat < UInt32.size := c.maxIterations.toNat_lt
  rw [UInt32.lt_iff_toNat_lt] at h
  rw [toNat_iteration_revise, Nat.mod_eq_of_lt (by omega)]
  omega

def finish (c : Contract) : Contract := { c with complete := true }

end Contract

end Diorama
