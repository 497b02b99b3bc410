import Diorama.CommandLine.Arguments
import Diorama.CommandLine.Files
import Diorama.CommandLine.Number
import Diorama.Pipeline.Run
import Diorama.Pipeline.Template
import Diorama.Spatial.Placement
import Diorama.Validation.Default
import Diorama.Yaml.Reader

namespace Diorama

inductive Command where
  | validate (world : String) (assets : Option String)
  | analyze (world : String) (cellSize : Option Scalar)
  | place (world : String) (near : Vec3) (spacing : Scalar) (count : Nat)
  | build (prompt : String) (target : Option String) (config : Config)

inductive CommandError where
  | unreadable (path : String)
  | notJson (path : String)
  | world (error : WorldError)
  | cellSize (given : Scalar)
  | run (error : RunError)
  | unwritable (path : String)

namespace CommandError

def message : CommandError → String
  | .unreadable path => "reading " ++ path
  | .notJson path => "parsing " ++ path
  | .world error => error.message
  | .cellSize given => "cell size must be positive, got " ++ Message.plain.scalar given
  | .run error => error.message
  | .unwritable path => "writing " ++ path

end CommandError

namespace Command

def path? (text : String) : Option String := if text.isEmpty then none else some text

def point? (text : String) : Option Vec3 :=
  match (text.splitOn ",").mapM fun part => Argument.scalar? (Text.trim part) with
  | some [x, y, z] => some ⟨x, y, z⟩
  | _ => none

def world (a : Arguments) : Except UsageError String := do
  let text ← a.single "FILE"
  match path? text with
  | some path => .ok path
  | none => .error (.invalidValue "FILE" text)

def ofValidate (a : Arguments) : Except UsageError Command := do
  let assets ← a.value? "assets" path?
  return .validate (← world a) assets

def ofAnalyze (a : Arguments) : Except UsageError Command := do
  let cellSize ← a.value? "cell-size" Argument.scalar?
  return .analyze (← world a) cellSize

def ofPlace (a : Arguments) : Except UsageError Command := do
  let near ← a.value? "near" point?
  let spacing ← a.value? "spacing" Argument.scalar?
  let count ← a.value? "count" Argument.natural?
  return .place (← world a) (near.getD .zero) (spacing.getD 2) (count.getD 5)

def ofBuild (a : Arguments) : Except UsageError Command := do
  let target ← a.value? "out" path?
  let limit ← a.value? "max-iterations" (Argument.integerIn? 0 (UInt32.size - 1))
  let score ← a.value? "min-score" (Argument.integerIn? 0 (UInt8.size - 1))
  let base : Config := {}
  let config : Config := {
    maxIterations := (limit.map fun n => .ofNat n.toNat).getD base.maxIterations
    minApprovalScore := score.map fun n => .ofNat n.toNat }
  return .build (← a.single "PROMPT") target config

def table : List (String × List OptionSpec × (Arguments → Except UsageError Command)) := [
  ("validate", [{ long := "assets" }], ofValidate),
  ("analyze", [{ long := "cell-size" }], ofAnalyze),
  ("place", [{ long := "near" }, { long := "spacing" }, { long := "count" }], ofPlace),
  ("build", [{ long := "out", short := some 'o' }, { long := "max-iterations" },
    { long := "min-score" }], ofBuild)]

def named : List String → Except UsageError Command
  | [] => .error .noCommand
  | name :: rest =>
    match table.find? (·.1 == name) with
    | some (_, specs, understand) => (Arguments.sort specs {} rest).bind understand
    | none => if Arguments.isDashed name then .error (.unknownOption name) else .error (.unknownCommand name)

def ofArguments : List String → Except UsageError Command
  | [] => .error .noCommand
  | first :: rest =>
    if first = "-v" || first = "--verbose" then named rest else named (first :: rest)

def isYaml (path : String) : Bool :=
  match Files.extension? path with
  | some extension => extension == "yaml" || extension == "yml"
  | none => false

def inputs : Command → List String
  | .validate world assets => world :: assets.toList
  | .analyze world _ => [world]
  | .place world _ _ _ => [world]
  | .build _ _ _ => []

def loadWorld (read : String → Option String) (path : String) : Except CommandError World := do
  let some text := read path | throw (.unreadable path)
  if isYaml path then
    let some value := Yaml.value? text | throw (.notJson path)
    (World.ofValue? value).mapError .world
  else (World.ofText? text).mapError .world

def loadAssets (read : String → Option String) (path : String) :
    Except CommandError AssetRegistry := do
  let some text := read path | throw (.unreadable path)
  let some (_, registry) := AssetRegistry.loadText? {} text | throw (.notJson path)
  return registry

structure Result where
  output : String
  valid : Bool := true
  written : Option (String × String) := none

def placeLine (p : Vec3) : String :=
  ",".intercalate (p.toList.map (Decimal.fixed 3)) ++ "\n"

def run (read : String → Option String) (fresh : Nat → Nat → String) :
    Command → Except CommandError Result
  | .validate path assets => do
    let w ← loadWorld read path
    let rules ← match assets with
      | none => pure []
      | some path => do pure [Rule.assetReferences (← loadAssets read path)]
    let report := (Validator.mk (Rule.builtin ++ rules)).validate w
    return { output := report.text ++ "\n", valid := report.isValid }
  | .analyze path cellSize => do
    let w ← loadWorld read path
    if let some size := cellSize then
      if !(0 < size) then throw (.cellSize size)
    return { output := w.analysis.json.pretty ++ "\n" }
  | .place path near spacing count => do
    let w ← loadWorld read path
    let places := w.placements Grid.defaultCellSize near spacing count
    return { output := String.join (places.map placeLine) }
  | .build prompt target config => do
    let outcome ← (config.run Template.generator .standard fresh prompt).result.mapError .run
    let text := outcome.world.toText
    match target with
    | none => return { output := text ++ "\n" }
    | some path => return { output := "", written := some (path, text) }

end Command

structure Ending where
  code : UInt8
  output : String := ""
  note : String := ""
  written : Option (String × String) := none

namespace Ending

def misused (e : UsageError) : Ending := { code := 2, note := s!"error: {e.message}\n" }

def failed (e : CommandError) : Ending := { code := 1, note := s!"Error: {e.message}\n" }

def ofArguments (read : String → Option String) (fresh : Nat → Nat → String)
    (arguments : List String) : Ending :=
  match Command.ofArguments arguments with
  | .error e => misused e
  | .ok command =>
    match command.run read fresh with
    | .error e => failed e
    | .ok r => { code := if r.valid then 0 else 1, output := r.output, written := r.written }

end Ending

def Files.run (f : Files) (fresh : Nat → Nat → String) (arguments : List String) : Ending × Files :=
  let ending := Ending.ofArguments f.read? fresh arguments
  match ending.written with
  | none => (ending, f)
  | some (path, text) =>
    match f.write? path text with
    | some files => (ending, files)
    | none => (.failed (.unwritable path), f)

end Diorama
