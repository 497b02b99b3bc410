import Diorama.Json.Form

namespace Diorama

inductive Severity where
  | error
  | warning
  | info
deriving DecidableEq

instance : Named Severity where
  all := [.error, .warning, .info]
  name
    | .error => "error"
    | .warning => "warning"
    | .info => "info"

inductive IssueCode where
  | duplicateIdentifier
  | missingParent
  | hierarchyCycle
  | childrenMismatch
  | missingField
  | outOfRange
  | danglingReference
  | physicsConfig
  | boundsMismatch
  | collision
  | ruleFailure
  | custom (name : String)
deriving DecidableEq

namespace IssueCode

def json : IssueCode → Json
  | .duplicateIdentifier => .string "duplicate_identifier"
  | .missingParent => .string "missing_parent"
  | .hierarchyCycle => .string "hierarchy_cycle"
  | .childrenMismatch => .string "children_mismatch"
  | .missingField => .string "missing_field"
  | .outOfRange => .string "out_of_range"
  | .danglingReference => .string "dangling_reference"
  | .physicsConfig => .string "physics_config"
  | .boundsMismatch => .string "bounds_mismatch"
  | .collision => .string "collision"
  | .ruleFailure => .string "rule_failure"
  | .custom name => .object [("custom", .string name)]

end IssueCode

structure Issue where
  severity : Severity
  code : IssueCode
  message : String
  subject : Option String := none
  field : Option String := none
deriving DecidableEq

namespace Issue

def isError (i : Issue) : Bool := i.severity = .error

def text (i : Issue) : String :=
  let place := match i.subject, i.field with
    | some subject, some field => s!" ({subject}.{field})"
    | some subject, none => s!" ({subject})"
    | none, some field => s!" ({field})"
    | none, none => ""
  s!"[{Named.name i.severity}] {i.message}{place}"

def json (i : Issue) : Json :=
  let member (name : String) (value : Option String) : List (String × Json) :=
    value.toList.map fun text => (name, .string text)
  .object ([("severity", toJson i.severity), ("code", i.code.json), ("message", .string i.message)]
    ++ member "subject" i.subject ++ member "field" i.field)

end Issue

structure Report where
  issues : List Issue

namespace Report

def isValid (r : Report) : Bool := !r.issues.any (·.isError)

def ofSeverity (r : Report) (s : Severity) : List Issue := r.issues.filter (·.severity = s)

def errors (r : Report) : List Issue := r.ofSeverity .error

def warnings (r : Report) : List Issue := r.ofSeverity .warning

def infos (r : Report) : List Issue := r.ofSeverity .info

def text (r : Report) : String :=
  let verdict := if r.isValid then "valid" else "invalid"
  let counts := s!"{r.errors.length} errors, {r.warnings.length} warnings, {r.infos.length} info"
  s!"{verdict}: {counts}\n" ++ String.join (r.issues.map fun i => s!"  {i.text}\n")

end Report

end Diorama
