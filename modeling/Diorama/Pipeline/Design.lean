import Diorama.Pipeline.Loose

namespace Diorama

structure ColorPalette where
  primary : List String := []
  secondary : List String := []
deriving BEq

namespace ColorPalette

def form : RecordForm ColorPalette where
  blank := {}
  others := .ignored
  fields := [
    .optional "primary" (·.primary) fun v p => { p with primary := v },
    .optional "secondary" (·.secondary) fun v p => { p with secondary := v }]

instance : JsonForm ColorPalette := form.jsonForm

end ColorPalette

structure LightingDesign where
  kind : String := "natural"
  timeOfDay : String := "afternoon"
  keySources : List String := ["sun", "ambient"]
deriving BEq

namespace LightingDesign

def form : RecordForm LightingDesign where
  blank := {}
  others := .ignored
  fields := [
    .optional "type" (·.kind) fun v l => { l with kind := v },
    .optional "time_of_day" (·.timeOfDay) fun v l => { l with timeOfDay := v },
    .optional "key_sources" (·.keySources) fun v l => { l with keySources := v }]

instance : JsonForm LightingDesign := form.jsonForm

end LightingDesign

structure Vision where
  artStyle : String := "realistic"
  palette : ColorPalette :=
    { primary := ["#4A90A4", "#2C5F2D"], secondary := ["#97BC62", "#D4A574"] }
  mood : String := "serene"
  lighting : LightingDesign := {}
  elements : List String := ["terrain", "vegetation", "sky"]
  effects : List String := ["light_fog", "dust_particles"]
  inspirations : List String := []
  extra : Dictionary Value := ∅
deriving BEq

namespace Vision

def form : RecordForm Vision where
  blank := {}
  others := .kept (·.extra) fun v d => { d with extra := v }
  fields := [
    .optional "art_style" (·.artStyle) fun v d => { d with artStyle := v },
    .optional "color_palette" (·.palette) fun v d => { d with palette := v },
    .optional "mood" (·.mood) fun v d => { d with mood := v },
    .optional "lighting_design" (·.lighting) fun v d => { d with lighting := v },
    .optional "environmental_elements" (·.elements) fun v d => { d with elements := v },
    .optional "atmospheric_effects" (·.effects) fun v d => { d with effects := v },
    .optional "reference_inspirations" (·.inspirations) fun v d => { d with inspirations := v }]

instance : JsonForm Vision := form.jsonForm

end Vision

structure PhysicsPlan where
  gravity : LooseVec3 := .array ⟨0, -9.81, 0⟩
  collisionEnabled : Bool := true
  materials : List String := ["default"]
deriving BEq

namespace PhysicsPlan

def form : RecordForm PhysicsPlan where
  blank := {}
  others := .ignored
  fields := [
    .optional "gravity" (·.gravity) fun v p => { p with gravity := v },
    .optional "collision_enabled" (·.collisionEnabled) fun v p => { p with collisionEnabled := v },
    .optional "physics_materials" (·.materials) fun v p => { p with materials := v }]

instance : JsonForm PhysicsPlan := form.jsonForm

end PhysicsPlan

structure InteractionPlan where
  kind : String := ""
  response : String := ""
  extra : Dictionary Value := ∅
deriving BEq

namespace InteractionPlan

def form : RecordForm InteractionPlan where
  blank := {}
  others := .kept (·.extra) fun v p => { p with extra := v }
  fields := [
    .optional "type" (·.kind) fun v p => { p with kind := v },
    .optional "response" (·.response) fun v p => { p with response := v }]

instance : JsonForm InteractionPlan := form.jsonForm

end InteractionPlan

structure GameplayPlan where
  kind : String := "exploration"
  objectives : List Value := []
deriving BEq

namespace GameplayPlan

def form : RecordForm GameplayPlan where
  blank := {}
  others := .ignored
  fields := [
    .optional "type" (·.kind) fun v p => { p with kind := v },
    .optional "objectives" (·.objectives) fun v p => { p with objectives := v }]

instance : JsonForm GameplayPlan := form.jsonForm

end GameplayPlan

structure SystemsDesign where
  physics : PhysicsPlan := {}
  interactions : List InteractionPlan :=
    [{ kind := "click", response := "select" }, { kind := "proximity", response := "highlight" }]
  gameplay : GameplayPlan := {}
  dynamicElements : List Value := []
  eventTriggers : List Value := []
  extra : Dictionary Value := ∅
deriving BEq

namespace SystemsDesign

def form : RecordForm SystemsDesign where
  blank := {}
  others := .kept (·.extra) fun v d => { d with extra := v }
  fields := [
    .optional "physics_settings" (·.physics) fun v d => { d with physics := v },
    .optional "interaction_systems" (·.interactions) fun v d => { d with interactions := v },
    .optional "gameplay_mechanics" (·.gameplay) fun v d => { d with gameplay := v },
    .optional "dynamic_elements" (·.dynamicElements) fun v d => { d with dynamicElements := v },
    .optional "event_triggers" (·.eventTriggers) fun v d => { d with eventTriggers := v }]

instance : JsonForm SystemsDesign := form.jsonForm

end SystemsDesign

structure AssetNeeds where
  models : List String := []
  textures : List String := []
  materials : List String := []
  audio : List String := []
deriving BEq

namespace AssetNeeds

def form : RecordForm AssetNeeds where
  blank := {}
  others := .ignored
  fields := [
    .optional "models" (·.models) fun v a => { a with models := v },
    .optional "textures" (·.textures) fun v a => { a with textures := v },
    .optional "materials" (·.materials) fun v a => { a with materials := v },
    .optional "audio" (·.audio) fun v a => { a with audio := v }]

instance : JsonForm AssetNeeds := form.jsonForm

end AssetNeeds

structure PerformanceBudget where
  targetFps : UInt32 := 60
  maxPolygons : UInt64 := 500000
  maxTextureMegabytes : UInt32 := 512
  maxDrawCalls : UInt32 := 1000
deriving BEq

namespace PerformanceBudget

def form : RecordForm PerformanceBudget where
  blank := {}
  others := .ignored
  fields := [
    .optional "target_fps" (·.targetFps) fun v b => { b with targetFps := v },
    .optional "max_poly_count" (·.maxPolygons) fun v b => { b with maxPolygons := v },
    .optional "max_texture_memory_mb" (·.maxTextureMegabytes) fun v b =>
      { b with maxTextureMegabytes := v },
    .optional "max_draw_calls" (·.maxDrawCalls) fun v b => { b with maxDrawCalls := v }]

instance : JsonForm PerformanceBudget := form.jsonForm

end PerformanceBudget

structure LodStrategy where
  levels : UInt32 := 3
  distances : List Scalar := [50, 100, 200]
deriving BEq

namespace LodStrategy

def form : RecordForm LodStrategy where
  blank := {}
  others := .ignored
  fields := [
    .optional "lod_levels" (·.levels) fun v l => { l with levels := v },
    .optional "lod_distances" (·.distances) fun v l => { l with distances := v }]

instance : JsonForm LodStrategy := form.jsonForm

end LodStrategy

structure TechnicalDesign where
  assets : AssetNeeds := {}
  budget : PerformanceBudget := {}
  lod : LodStrategy := {}
  platforms : Dictionary Value := ∅
  shaders : List String := []
  notes : List String := []
  extra : Dictionary Value := ∅
deriving BEq

namespace TechnicalDesign

def form : RecordForm TechnicalDesign where
  blank := {}
  others := .kept (·.extra) fun v d => { d with extra := v }
  fields := [
    .optional "asset_requirements" (·.assets) fun v d => { d with assets := v },
    .optional "performance_budget" (·.budget) fun v d => { d with budget := v },
    .optional "lod_strategy" (·.lod) fun v d => { d with lod := v },
    .optional "platform_considerations" (·.platforms) fun v d => { d with platforms := v },
    .optional "shader_requirements" (·.shaders) fun v d => { d with shaders := v },
    .optional "optimization_notes" (·.notes) fun v d => { d with notes := v }]

instance : JsonForm TechnicalDesign := form.jsonForm

end TechnicalDesign

end Diorama
