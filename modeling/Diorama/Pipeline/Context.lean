import Diorama.Pipeline.Contract

namespace Diorama

def Stage.instruction : Stage → String
  | .vision =>
    "You are the vision architect for a 3D world. Describe its art direction as "
      ++ "a JSON object with art_style, color_palette \x7bprimary, secondary\x7d, mood, "
      ++ "lighting_design \x7btype, time_of_day, key_sources\x7d, environmental_elements, "
      ++ "atmospheric_effects and reference_inspirations. Answer with JSON only."
  | .systems =>
    "You are the systems designer for a 3D world. From the art direction, design "
      ++ "its gameplay as a JSON object with physics_settings \x7bgravity, "
      ++ "collision_enabled, physics_materials\x7d, interaction_systems [\x7btype, "
      ++ "response\x7d], gameplay_mechanics \x7btype, objectives\x7d, dynamic_elements and "
      ++ "event_triggers. Answer with JSON only."
  | .technical =>
    "You are the technical director for a 3D world. Turn the design into engine "
      ++ "constraints as a JSON object with asset_requirements, performance_budget, "
      ++ "lod_strategy, platform_considerations, shader_requirements and "
      ++ "optimization_notes. Answer with JSON only."
  | .synthesis =>
    "You are the world generator. Combine every design into one world "
      ++ "description: a JSON object with metadata, environment, entities (id, name, "
      ++ "entity_type, transform \x7bposition, rotation, scale\x7d, material, physics, "
      ++ "parent_id, tags), lights and systems (interactions with trigger_type, "
      ++ "action_type, target_entity_id). Answer with JSON only."
  | .review =>
    "You are the quality reviewer. Judge whether the candidate world fulfils the "
      ++ "request and is consistent with its designs. Answer with a JSON object "
      ++ "holding approved (bool), score (0-100), completeness, consistency, "
      ++ "performance, improvements, issues and feedback."

namespace Contract

def revisionNotes (c : Contract) : String :=
  let notes := (c.review.map (·.feedback)).getD []
  if c.iteration = 0 || notes.isEmpty then ""
  else
    s!"\nRevision {c.iteration} feedback:\n" ++ String.join (notes.map fun note => s!"- {note}\n")

def visionSummary (v : Vision) : String :=
  s!"\nVisual concept: {v.artStyle} style, {v.mood} mood, {v.lighting.kind} lighting at "
    ++ s!"{v.lighting.timeOfDay}; elements: " ++ ", ".intercalate v.elements ++ "\n"

def systemsSummary (s : SystemsDesign) : String :=
  let collisions := if s.physics.collisionEnabled then "on" else "off"
  s!"Systems design: {s.gameplay.kind} gameplay; interactions: "
    ++ ", ".intercalate (s.interactions.map (·.kind)) ++ s!"; collisions {collisions}\n"

def designText {α : Type} [JsonForm α] (title : String) (design : α) : String :=
  s!"\n{title}:\n" ++ (toJson design).pretty ++ "\n"

def candidateSummary (w : World) : String :=
  s!"\nCandidate world `{w.metadata.title}`: {w.entities.length} entities, {w.lights.length} lights, "
    ++ s!"{w.mechanisms.length} systems\n"

def briefing (c : Contract) (structural : Option String) : Stage → String
  | .vision => "\nCreate a visual concept for this world.\n"
  | .systems => visionSummary (c.vision.getD {})
  | .technical => visionSummary (c.vision.getD {}) ++ systemsSummary (c.systems.getD {})
  | .synthesis =>
    designText "Visual concept" (c.vision.getD {}) ++ designText "Systems design" (c.systems.getD {})
      ++ designText "Technical specification" (c.technical.getD {})
  | .review =>
    visionSummary (c.vision.getD {}) ++ systemsSummary (c.systems.getD {})
      ++ (c.candidate.map candidateSummary).getD ""
      ++ (structural.map ("\n" ++ ·)).getD ""

def context (c : Contract) (stage : Stage) (structural : Option String) : String :=
  s!"User request: {c.prompt}\n" ++ c.revisionNotes ++ c.briefing structural stage

end Contract

end Diorama
