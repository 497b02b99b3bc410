import Diorama.Geometry.Color
import Diorama.Geometry.Vec3

namespace Diorama

inductive Weather where
  | clear
  | cloudy
  | rainy
  | stormy
  | snowy
  | foggy
deriving DecidableEq, Inhabited

instance : Named Weather where
  all := [.clear, .cloudy, .rainy, .stormy, .snowy, .foggy]
  name
    | .clear => "clear"
    | .cloudy => "cloudy"
    | .rainy => "rainy"
    | .stormy => "stormy"
    | .snowy => "snowy"
    | .foggy => "foggy"

structure TimeOfDay where
  hour : UInt8 := 12
  minute : UInt8 := 0
  dayNightCycle : Bool := false
  cycleSeconds : Scalar := 3600
deriving BEq, DecidableEq

namespace TimeOfDay

def form : RecordForm TimeOfDay where
  blank := {}
  others := .refused
  fields := [
    .optional "hour" (·.hour) fun v t => { t with hour := v },
    .optional "minute" (·.minute) fun v t => { t with minute := v },
    .optional "day_night_cycle" (·.dayNightCycle) fun v t => { t with dayNightCycle := v },
    .optional "cycle_duration_seconds" (·.cycleSeconds) fun v t => { t with cycleSeconds := v }]

instance : JsonForm TimeOfDay := form.jsonForm

end TimeOfDay

structure Fog where
  enabled : Bool := false
  color : Color := { r := 0.5, g := 0.5, b := 0.5 }
  density : Scalar := 0.01
deriving BEq, DecidableEq

namespace Fog

def form : RecordForm Fog where
  blank := {}
  others := .refused
  fields := [
    .optional "enabled" (·.enabled) fun v f => { f with enabled := v },
    .optional "color" (·.color) fun v f => { f with color := v },
    .optional "density" (·.density) fun v f => { f with density := v }]

instance : JsonForm Fog := form.jsonForm

end Fog

structure Skybox where
  kind : String := "procedural"
  texturePath : Option String := none
  tint : Color := .white
  exposure : Scalar := 1
  rotation : Scalar := 0
deriving BEq, DecidableEq

namespace Skybox

def form : RecordForm Skybox where
  blank := {}
  others := .refused
  fields := [
    .optional "kind" (·.kind) fun v s => { s with kind := v },
    .optional "texture_path" (·.texturePath) fun v s => { s with texturePath := v },
    .optional "tint" (·.tint) fun v s => { s with tint := v },
    .optional "exposure" (·.exposure) fun v s => { s with exposure := v },
    .optional "rotation" (·.rotation) fun v s => { s with rotation := v }]

instance : JsonForm Skybox := form.jsonForm

end Skybox

structure Environment where
  weather : Weather := .clear
  timeOfDay : TimeOfDay := {}
  ambientLight : Color := { r := 0.2, g := 0.2, b := 0.2 }
  fog : Fog := {}
  skybox : Skybox := {}
  gravity : Vec3 := ⟨0, -9.81, 0⟩
  audioReverb : Option String := none
deriving BEq, DecidableEq

namespace Environment

def form : RecordForm Environment where
  blank := {}
  others := .refused
  fields := [
    .optional "weather" (·.weather) fun v e => { e with weather := v },
    .optional "time_of_day" (·.timeOfDay) fun v e => { e with timeOfDay := v },
    .optional "ambient_light" (·.ambientLight) fun v e => { e with ambientLight := v },
    .optional "fog" (·.fog) fun v e => { e with fog := v },
    .optional "skybox" (·.skybox) fun v e => { e with skybox := v },
    .optional "gravity" (·.gravity) fun v e => { e with gravity := v },
    .optional "audio_reverb_preset" (·.audioReverb) fun v e => { e with audioReverb := v }]

instance : JsonForm Environment := form.jsonForm

end Environment

end Diorama
