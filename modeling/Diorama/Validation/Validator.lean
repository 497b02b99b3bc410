import Diorama.Validation.Issue
import Diorama.World.Basic

namespace Diorama

inductive RuleFailure where
  | because (reason : String)
  | unexplained

namespace RuleFailure

def reason : RuleFailure → String
  | .because reason => reason
  | .unexplained => "unknown panic"

end RuleFailure

structure Rule where
  name : String
  check : World → Except RuleFailure (List Issue)

namespace Rule

def total (name : String) (check : World → List Issue) : Rule := ⟨name, fun w => .ok (check w)⟩

def findings (r : Rule) (w : World) : List Issue :=
  match r.check w with
  | .ok issues => issues
  | .error failure => [{
      severity := .error
      code := .ruleFailure
      message := s!"rule `{r.name}` failed: {failure.reason}"
      subject := some r.name }]

end Rule

structure Validator where
  rules : List Rule

namespace Validator

def ruleNames (v : Validator) : List String := v.rules.map (·.name)

def withRule (v : Validator) (r : Rule) : Validator := ⟨v.rules ++ [r]⟩

def validate (v : Validator) (w : World) : Report := ⟨v.rules.flatMap (·.findings w)⟩

end Validator

end Diorama
