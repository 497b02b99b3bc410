import Diorama.Pipeline.Generator
import Diorama.Spatial.Placement
import Diorama.Text.Case
import Diorama.World.Hierarchy

/-! A generator that needs no model: it looks for cue words in the prompt and fills in a template of a world
with landmarks around a spawn point. -/

namespace Diorama.Template

structure Cues where
  mood : String
  artStyle : String
  weather : String
  hour : Nat

namespace Cues

def ofPrompt (prompt : String) : Cues :=
  let text := (Text.lower prompt).toList
  let mentions (cues : List String) : Bool := cues.any fun cue => Text.contains text cue.toList
  { mood := if mentions ["dark", "haunted", "ominous", "spooky"] then "ominous" else "serene"
    artStyle := if mentions ["cartoon", "stylized"] then "stylized" else "realistic"
    weather :=
      if mentions ["storm"] then "stormy"
      else if mentions ["rain"] then "rainy"
      else if mentions ["snow"] then "snowy"
      else if mentions ["fog", "mist"] then "foggy"
      else "clear"
    hour := if mentions ["night"] then 22 else 14 }

def isNight (c : Cues) : Bool := 20 ≤ c.hour

end Cues

def numbers (xs : List Float) : Json := .array (xs.map .real)

def vision (c : Cues) : Json :=
  .object [
    ("art_style", .string c.artStyle),
    ("mood", .string c.mood),
    ("lighting_design", .object [
      ("type", .string (if c.isNight then "moonlight" else "natural")),
      ("time_of_day", .string (if c.isNight then "night" else "afternoon"))]),
    ("atmospheric_effects", .array (if c.weather == "clear" then [] else [.string c.weather]))]

def systems : Json :=
  .object [
    ("physics_settings", .object [
      ("gravity", numbers [0, -9.81, 0]),
      ("collision_enabled", .bool true)]),
    ("interaction_systems", .array [
      .object [("type", .string "proximity"), ("response", .string "play_sound")]]),
    ("gameplay_mechanics", .object [
      ("type", .string "exploration"),
      ("objectives", .array [.string "visit every landmark"])])]

def technical : Json :=
  .object [
    ("performance_budget", .object [("target_fps", .integer 60)]),
    ("optimization_notes", .array [.string "static landmarks can be batched"])]

def review : Json :=
  .object [
    ("approved", .bool true),
    ("score", .integer 80),
    ("completeness", .string "landmarks, spawn point and ground are present"),
    ("improvements", .array [])]

def titleWords : Nat := 5

def title (prompt : String) : String :=
  match ((Text.words prompt).take titleWords).map Text.capitalize with
  | [] => "New World"
  | words => " ".intercalate words

def landmarkCount : Nat := 6

def landmarkSpacing : Scalar := 6

def ground : World where
  metadata := { title := "scratch" }
  entities := [{
    id := "ground"
    name := "Ground"
    kind := .terrain
    transform := { position := ⟨0, -0.5, 0⟩, scale := ⟨100, 1, 100⟩ } }]

def spots : List Vec3 :=
  ground.placements Grid.defaultCellSize ⟨0, 0.5, 0⟩ landmarkSpacing landmarkCount

def groundEntity : Json :=
  .object [
    ("id", .string "ground"),
    ("name", .string "Ground"),
    ("entity_type", .string "terrain"),
    ("transform", .object [
      ("position", numbers [0, -0.5, 0]),
      ("scale", numbers [100, 1, 100])]),
    ("material", .object [("name", .string "Ground"), ("roughness", .real 0.9)]),
    ("tags", .array [.string "ground"])]

def spawnEntity : Json :=
  .object [
    ("id", .string "spawn"),
    ("name", .string "Spawn Point"),
    ("entity_type", .string "spawn_point"),
    ("transform", .object [
      ("position", numbers [0, 1, 0]),
      ("scale", numbers [0, 0, 0])])]

def landmark (number : Nat) (place : Vec3) : Json :=
  .object [
    ("id", .string s!"landmark-{number}"),
    ("name", .string s!"Landmark {number}"),
    ("entity_type", .string "prop"),
    ("transform", .object [
      ("position", toJson place),
      ("scale", numbers [1, 1, 1])]),
    ("tags", .array [.string "landmark"])]

def explorationSystem : Json :=
  .object [
    ("id", .string "exploration"),
    ("name", .string "Exploration"),
    ("description", .string "Chime when the player reaches a landmark"),
    ("interactions", .array [
      .object [
        ("trigger_type", .string "proximity"),
        ("action_type", .string "play_sound"),
        ("target_entity_id", .string "landmark-1"),
        ("parameters", .object [("radius", .real 3)])]])]

def synthesis (prompt : String) (c : Cues) (places : List Vec3) : Json :=
  let landmarks := places.zipIdx.map fun (place, index) => landmark (index + 1) place
  .object ([
    ("metadata", .object [
      ("title", .string (title prompt)),
      ("tags", .array [.string c.mood, .string c.artStyle])]),
    ("environment", .object [
      ("weather", .string c.weather),
      ("time_of_day", .object [("hour", .integer c.hour), ("minute", .integer 0)]),
      ("fog_enabled", .bool (c.weather == "foggy"))]),
    ("entities", .array (groundEntity :: spawnEntity :: landmarks))]
    ++ if places.isEmpty then [] else [("systems", .array [explorationSystem])])

def answerAt (places : List Vec3) (stage : Stage) (prompt : String) : Value :=
  let cues := Cues.ofPrompt prompt
  Json.value <| match stage with
    | .vision => vision cues
    | .systems => systems
    | .technical => technical
    | .synthesis => synthesis prompt cues places
    | .review => review

def answer (stage : Stage) (prompt : String) : Value := answerAt spots stage prompt

def generatorAt (places : List Vec3) : Generator := fun requests =>
  match requests.getLast? with
  | some request => .ok (answerAt places request.stage request.prompt)
  | none => .error (.unavailable "no request")

def generator : Generator := generatorAt spots

end Diorama.Template
