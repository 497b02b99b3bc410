import Diorama.Pipeline.Assembly
import Diorama.Pipeline.Config
import Diorama.Pipeline.Context
import Diorama.Pipeline.Generator

/-! Running a generation. Each pass asks the generator for the designs, for a draft, and for its verdict on the
candidate, and a pass that is not approved hands its notes to the next one. A failure of a stage is recorded and
does not end the run. -/

namespace Diorama

structure RunSetting where
  generator : Generator
  validator : Validator
  leastScore : Option UInt8
  fresh : Nat → Nat → String

structure RunState where
  requests : List StageRequest
  contract : Contract

namespace RunState

def request (s : RunState) (stage : Stage) (structural : Option String) : StageRequest where
  stage := stage
  prompt := s.contract.prompt
  instruction := stage.instruction
  context := s.contract.context stage structural
  iteration := s.contract.iteration

def ask (g : Generator) (s : RunState) (stage : Stage) (structural : Option String) :
    Except GenerationError Value × RunState :=
  let requests := s.requests ++ [s.request stage structural]
  (g requests, { s with requests := requests })

def merge (s : RunState) (d : Delta) : RunState := { s with contract := s.contract.merge d }

def decoded {α : Type} [JsonForm α] (answer : Except GenerationError Value) : Except String α :=
  match answer with
  | .error e => .error e.message
  | .ok v => (decodeAnswer v).mapError (·.message)

def result {α : Type} (stage : Stage) (toDelta : α → Delta) (answer : Except String α) : Delta :=
  match answer with
  | .ok a => toDelta a
  | .error reason => .failed ⟨stage, reason⟩

def stage {α : Type} [JsonForm α] (g : Generator) (stage : Stage) (toDelta : α → Except String Delta)
    (s : RunState) : RunState :=
  let (answer, s) := s.ask g stage none
  s.merge (result stage id ((decoded answer).bind toDelta))

def design (g : Generator) (s : RunState) : RunState :=
  let s := s.stage g .vision fun d => .ok (.vision d)
  let s := s.stage g .systems fun d => .ok (.systems d)
  s.stage g .technical fun d => .ok (.technical d)

def synthesize (setting : RunSetting) (s : RunState) : RunState :=
  let mood := (s.contract.vision.getD {}).mood
  let fresh := setting.fresh s.contract.iteration.toNat
  s.stage setting.generator .synthesis fun (draft : WorldDraft) =>
    ((draft.assemble fresh s.contract.prompt (some mood)).mapError (·.message)).map .synthesis

def review (setting : RunSetting) (s : RunState) : RunState × Bool :=
  match s.contract.candidate with
  | none => (s.merge (.review (.of none none false)), false)
  | some candidate =>
    let structural := StructuralReview.of candidate setting.validator
    let (answer, s) := s.ask setting.generator .review (some structural.text)
    let (verdict, s) := match (decoded answer : Except String Verdict) with
      | .ok verdict => (some verdict, s)
      | .error reason => (none, s.merge (.failed ⟨.review, reason⟩))
    let approved := isApproved (some structural) verdict setting.leastScore
    (s.merge (.review (.of (some structural) verdict approved)), approved)

def pass (setting : RunSetting) (s : RunState) : RunState × Bool :=
  ((s.design setting.generator).synthesize setting).review setting

end RunState

inductive Completion where
  | approved
  | exhausted
deriving DecidableEq

instance : Named Completion where
  all := [.approved, .exhausted]
  name
    | .approved => "approved"
    | .exhausted => "exhausted"

namespace RunState

def revise (s : RunState) : RunState := { s with contract := s.contract.revise }

theorem counts_stage {α : Type} [JsonForm α] (g : Generator) (stage : Stage)
    (toDelta : α → Except String Delta) (s : RunState) :
    (s.stage g stage toDelta).contract.iteration = s.contract.iteration ∧
      (s.stage g stage toDelta).contract.maxIterations = s.contract.maxIterations :=
  Contract.counts_merge _ _

theorem counts_review (setting : RunSetting) (s : RunState) :
    (s.review setting).1.contract.iteration = s.contract.iteration ∧
      (s.review setting).1.contract.maxIterations = s.contract.maxIterations := by
  unfold review
  split
  · exact Contract.counts_merge _ _
  · simp only [ask, merge]
    split <;> simp [Contract.counts_merge]

theorem counts_pass (setting : RunSetting) (s : RunState) :
    (s.pass setting).1.contract.iteration = s.contract.iteration ∧
      (s.pass setting).1.contract.maxIterations = s.contract.maxIterations := by
  simp [pass, synthesize, design, counts_review, counts_stage]

def passesLeft (s : RunState) : Nat :=
  if s.contract.iteration < s.contract.maxIterations then
    s.contract.maxIterations.toNat - s.contract.iteration.toNat
  else s.contract.maxIterations.toNat + 1

theorem passesLeft_revise_pass (setting : RunSetting) (s : RunState)
    (h : ¬(s.pass setting).1.revise.contract.maxIterations ≤ (s.pass setting).1.revise.contract.iteration) :
    (s.pass setting).1.revise.passesLeft < s.passesLeft := by
  obtain ⟨hi, hm⟩ := counts_pass setting s
  have hmax : (s.pass setting).1.revise.contract.maxIterations = s.contract.maxIterations := hm
  have hlt := UInt32.not_le.mp h
  rw [passesLeft, if_pos hlt, hmax, passesLeft]
  by_cases hs : s.contract.iteration < s.contract.maxIterations
  · have hnext : (s.pass setting).1.revise.contract.iteration.toNat = s.contract.iteration.toNat + 1 := by
      rw [← hi]
      exact Contract.toNat_iteration_revise_of_lt (by rw [hi, hm]; exact hs)
    rw [if_pos hs, hnext]
    rw [UInt32.lt_iff_toNat_lt] at hs
    omega
  · rw [if_neg hs]
    omega

def passes (setting : RunSetting) (s : RunState) : RunState × Completion :=
  let reviewed := s.pass setting
  if reviewed.2 then (reviewed.1, .approved)
  else
    let revised := reviewed.1.revise
    if revised.contract.maxIterations ≤ revised.contract.iteration then (revised, .exhausted)
    else passes setting revised
termination_by s.passesLeft
decreasing_by exact passesLeft_revise_pass setting s ‹_›

end RunState

structure Outcome where
  world : World
  completion : Completion
  contract : Contract

namespace Outcome

def passCount (o : Outcome) : UInt32 :=
  match o.completion with
  | .approved => o.contract.iteration + 1
  | .exhausted => o.contract.iteration

end Outcome

inductive RunError where
  | noWorld (errors : List String)
  | invalidConfig (error : ConfigError)

namespace RunError

def message : RunError → String
  | .noWorld errors =>
    s!"no world was produced ({errors.length} errors): " ++ "; ".intercalate errors
  | .invalidConfig error => "invalid pipeline configuration: " ++ error.reason

end RunError

structure RunTrace where
  requests : List StageRequest
  result : Except RunError Outcome

def Config.setting (c : Config) (g : Generator) (v : Validator) (fresh : Nat → Nat → String) :
    RunSetting :=
  { generator := g, validator := v, leastScore := c.minApprovalScore, fresh := fresh }

def Config.start (c : Config) (prompt : String) : RunState :=
  ⟨[], { prompt := prompt, maxIterations := c.maxIterations }⟩

def Config.run (c : Config) (g : Generator) (v : Validator) (fresh : Nat → Nat → String)
    (prompt : String) : RunTrace :=
  match c.problem? with
  | some error => ⟨[], .error (.invalidConfig error)⟩
  | none =>
    let (final, completion) := (c.start prompt).passes (c.setting g v fresh)
    let contract := final.contract.finish
    match contract.candidate with
    | some world => ⟨final.requests, .ok ⟨world, completion, contract⟩⟩
    | none => ⟨final.requests, .error (.noWorld contract.errors)⟩

def Config.runWithLimit (c : Config) (limit : UInt32) (g : Generator) (v : Validator)
    (fresh : Nat → Nat → String) (prompt : String) : RunTrace :=
  { c with maxIterations := limit }.run g v fresh prompt

end Diorama
