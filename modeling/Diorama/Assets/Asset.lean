import Diorama.Json.Record

namespace Diorama

inductive AssetKind where
  | model
  | texture
  | material
  | audio
  | animation
  | prefab
  | particle
  | shader
  | script
deriving DecidableEq, Inhabited

instance : Named AssetKind where
  all := [.model, .texture, .material, .audio, .animation, .prefab, .particle, .shader, .script]
  name
    | .model => "model_3d"
    | .texture => "texture"
    | .material => "material"
    | .audio => "audio"
    | .animation => "animation"
    | .prefab => "prefab"
    | .particle => "particle"
    | .shader => "shader"
    | .script => "script"

structure PlatformFile where
  path : String
  format : String
  optimized : Bool := false
  lodLevels : UInt32 := 1
deriving BEq, DecidableEq

namespace PlatformFile

def form : RecordForm PlatformFile where
  blank := { path := "", format := "" }
  others := .refused
  fields := [
    .required "path" (·.path) fun v p => { p with path := v },
    .required "format" (·.format) fun v p => { p with format := v },
    .optional "optimized" (·.optimized) fun v p => { p with optimized := v },
    .optional "lod_levels" (·.lodLevels) fun v p => { p with lodLevels := v }]

instance : JsonForm PlatformFile := form.jsonForm

end PlatformFile

structure Asset where
  id : String
  name : String
  kind : AssetKind
  description : String := ""
  tags : List String := []
  sourcePath : Option String := none
  thumbnailPath : Option String := none
  metadata : Dictionary Value := ∅
  platforms : Dictionary PlatformFile := ∅
deriving BEq

namespace Asset

def form : RecordForm Asset where
  blank := { id := "", name := "", kind := .model }
  others := .refused
  fields := [
    .required "id" (·.id) fun v a => { a with id := v },
    .required "name" (·.name) fun v a => { a with name := v },
    .required "asset_type" (·.kind) fun v a => { a with kind := v },
    .optional "description" (·.description) fun v a => { a with description := v },
    .optional "tags" (·.tags) fun v a => { a with tags := v },
    .optional "source_path" (·.sourcePath) fun v a => { a with sourcePath := v },
    .optional "thumbnail_path" (·.thumbnailPath) fun v a => { a with thumbnailPath := v },
    .optional "metadata" (·.metadata) fun v a => { a with metadata := v },
    .optional "platform_info" (·.platforms) fun v a => { a with platforms := v }]

instance : JsonForm Asset := form.jsonForm

def withTag (a : Asset) (tag : String) : Asset :=
  if a.tags.contains tag then a else { a with tags := a.tags ++ [tag] }

def supportsPlatform (a : Asset) (platform : String) : Bool := a.platforms.contains platform

def platformPath? (a : Asset) (platform : String) : Option String :=
  ((a.platforms.find? platform).map (·.path)).or a.sourcePath

end Asset

end Diorama
